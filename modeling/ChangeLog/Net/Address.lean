/-
  Addresses to listen on: four numbers, or eight groups in brackets with a scope; then a colon and a
  number below 65536. Reading takes every spelling; writing leaves out the first longest row of two
  or more zero groups and shows an address that stands for four numbers by them.
-/
import ChangeLog.Text.Decimal
import ChangeLog.Text.Quoted
import ChangeLog.Text.Split

namespace ChangeLog.Net

/-- A host, and the number of a service on it. -/
inductive Address where
  | v4 (octets : List Nat) (portNumber : Nat)
  | v6 (groups : List Nat) (scope portNumber : Nat)
deriving DecidableEq, Repr

namespace Address

/-! ## Reading -/

/-- A number below `bound` in digits of a radix, at most `width` of them. -/
def number? (radix width bound : Nat) (cs : List Char) : Option (Nat × List Char) :=
  let ds := cs.takeWhile (Text.isDigit radix)
  let n := Text.ofDigits radix ds
  if ds = [] ∨ width < ds.length ∨ bound ≤ n then none
  else some (n, cs.dropWhile (Text.isDigit radix))

/-- A number from 0 to 255 without leading zeros. -/
def octet? (cs : List Char) : Option (Nat × List Char) :=
  match cs with
  | '0' :: c :: _ => if Text.isDigit 10 c then none else number? 10 3 256 cs
  | _ => number? 10 3 256 cs

/-- What follows a character. -/
def after? (c : Char) : List Char → Option (List Char)
  | first :: rest => if first = c then some rest else none
  | [] => none

/-- Four numbers between points. -/
def octets? (cs : List Char) : Option (List Nat × List Char) := do
  let (a, cs) ← octet? cs
  let (b, cs) ← (after? '.' cs).bind octet?
  let (c, cs) ← (after? '.' cs).bind octet?
  let (d, cs) ← (after? '.' cs).bind octet?
  return ([a, b, c, d], cs)

/-- A row of at most `count` groups between colons, `isFirst` if none stands before it. Four numbers
may stand for the last two groups; whether they did is given too. -/
def groups : Nat → Bool → List Char → List Nat × Bool × List Char
  | 0, _, cs => ([], false, cs)
  | count + 1, isFirst, cs =>
    let start? := if isFirst then some cs else after? ':' cs
    match start? with
    | none => ([], false, cs)
    | some start =>
      let embedded? := if count = 0 then none else octets? start
      match embedded? with
      | some ([a, b, c, d], rest) => ([256 * a + b, 256 * c + d], true, rest)
      | _ =>
        match number? 16 4 65536 start with
        | none => ([], false, cs)
        | some (g, rest) =>
          let (gs, isEmbedded, rest) := groups count false rest
          (g :: gs, isEmbedded, rest)

/-- Eight groups, or fewer around two colons that stand for zeros. -/
def allGroups? (cs : List Char) : Option (List Nat × List Char) :=
  match groups 8 true cs with
  | (front, isEmbedded, rest) =>
    if front.length = 8 then some (front, rest)
    else if isEmbedded then none
    else
      match rest with
      | ':' :: ':' :: rest =>
        match groups (7 - front.length) true rest with
        | (back, _, rest) =>
          some (front ++ List.replicate (8 - front.length - back.length) 0 ++ back, rest)
      | _ => none

/-- A number below 65536 after a colon, to the end of the text. -/
def portNumber? (cs : List Char) : Option Nat := do
  let cs ← after? ':' cs
  let (portNumber, rest) ← number? 10 cs.length 65536 cs
  if rest = [] then some portNumber else none

/-- A scope after a percent sign, or 0. -/
def scope (cs : List Char) : Nat × List Char :=
  match (after? '%' cs).bind fun cs => number? 10 cs.length UInt32.size cs with
  | some found => found
  | none => (0, cs)

/-- The address that a text names. -/
def parse (text : String) : Option Address :=
  match text.toList with
  | '[' :: cs => do
    let (gs, cs) ← allGroups? cs
    let (zone, cs) := scope cs
    let cs ← after? ']' cs
    let portNumber ← portNumber? cs
    return .v6 gs zone portNumber
  | cs => do
    let (os, cs) ← octets? cs
    let portNumber ← portNumber? cs
    return .v4 os portNumber

/-! ## Writing -/

/-- Numbers between points. -/
def dotted (octets : List Nat) : String := ".".intercalate (octets.map toString)

/-- Groups between colons. -/
def colons (groups : List Nat) : String := ":".intercalate (groups.map Text.hexNumber)

/-- How many zeros stand at the front. -/
def zeros (groups : List Nat) : Nat := (groups.takeWhile (· = 0)).length

/-- Where the first longest row of zeros starts, and its length. -/
def longestZeros (groups : List Nat) : Nat × Nat :=
  (List.range groups.length).foldl (fun best i =>
    let size := zeros (groups.drop i)
    if best.2 < size then (i, size) else best) (0, 0)

/-- Eight groups in their shortest form. -/
def shortest (groups : List Nat) : String :=
  match groups with
  | [0, 0, 0, 0, 0, 0xffff, high, low] =>
    "::ffff:" ++ dotted [high / 256, high % 256, low / 256, low % 256]
  | _ =>
    let (start, size) := longestZeros groups
    if size < 2 then colons groups
    else colons (groups.take start) ++ "::" ++ colons (groups.drop (start + size))

/-- The text of an address. -/
def text : Address → String
  | .v4 octets portNumber => dotted octets ++ ":" ++ toString portNumber
  | .v6 groups scope portNumber =>
    let zone := if scope = 0 then "" else "%" ++ toString scope
    "[" ++ shortest groups ++ zone ++ "]:" ++ toString portNumber

end Address
end ChangeLog.Net
