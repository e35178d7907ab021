/-
  Numbers, dates and times of TOML. Integers have 64 bits with a sign; decimal ones have no leading
  zeros, and an underscore may stand between any two digits. A decimal fraction is refused only
  where it is too large; dates have to be days of the calendar, and times go up to second 60.
-/
import ChangeLog.Text.Binary64
import ChangeLog.Time.Calendar
import ChangeLog.Toml.Item
import ChangeLog.Toml.Lexeme

namespace ChangeLog.Toml

/-! ## Digits -/

/-- More digits after one, an underscore in front of each at will. -/
def moreDigits (radix : Nat) : List Char → Option (List Char × List Char)
  | '_' :: c :: rest => if Text.isDigit radix c then prepend c (moreDigits radix rest) else none
  | ['_'] => none
  | c :: rest =>
    if Text.isDigit radix c then prepend c (moreDigits radix rest) else some ([], c :: rest)
  | [] => some ([], [])

/-- One digit or more. -/
def digits (radix : Nat) : List Char → Option (List Char × List Char)
  | c :: rest => if Text.isDigit radix c then prepend c (moreDigits radix rest) else none
  | [] => none

/-- A whole number without leading zeros. -/
def wholeDigits : List Char → Option (List Char × List Char)
  | '0' :: rest => some (['0'], rest)
  | cs => digits 10 cs

/-- The sign in front of a number, if there is one. -/
def sign : List Char → Int × List Char
  | '-' :: rest => (-1, rest)
  | '+' :: rest => (1, rest)
  | rest => (1, rest)

/-- An integer in 64 bits. -/
def integer? (n : Int) (rest : List Char) : Option (Item × List Char) :=
  if -9223372036854775808 ≤ n ∧ n ≤ 9223372036854775807 then some (.integer n, rest) else none

/-- An integer in the digits of a radix. -/
def radixInteger? (radix : Nat) (cs : List Char) : Option (Item × List Char) := do
  let (ds, rest) ← digits radix cs
  integer? (Text.ofDigits radix ds) rest

/-! ## Fractions -/

/-- An exponent, if there is one. -/
def exponent? : List Char → Option (Int × List Char)
  | 'e' :: rest | 'E' :: rest => do
    let (factor, rest) := sign rest
    let (ds, rest) ← digits 10 rest
    return (factor * Text.ofDigits 10 ds, rest)
  | rest => some (0, rest)

/-- The digits after a point, if there is one. -/
def fraction? : List Char → Option (List Char × List Char)
  | '.' :: rest => digits 10 rest
  | rest => some ([], rest)

/-- A number: an integer, or a decimal fraction where a point or an exponent follows. -/
def number? (cs : List Char) : Option (Item × List Char) :=
  match cs with
  | '0' :: 'x' :: rest => radixInteger? 16 rest
  | '0' :: 'o' :: rest => radixInteger? 8 rest
  | '0' :: 'b' :: rest => radixInteger? 2 rest
  | _ =>
    let (factor, body) := sign cs
    let written (rest : List Char) : Item :=
      .decimal (String.ofList (cs.take (cs.length - rest.length)))
    match body with
    | 'i' :: 'n' :: 'f' :: rest | 'n' :: 'a' :: 'n' :: rest => some (written rest, rest)
    | _ => do
      let (whole, rest) ← wholeDigits body
      match rest with
      | '.' :: _ | 'e' :: _ | 'E' :: _ =>
        let (fraction, rest) ← fraction? rest
        let (exponent, rest) ← exponent? rest
        let all := whole ++ fraction
        if factor = 1 ∧
            Text.exceedsDouble (Text.ofDigits 10 all) all.length (exponent - fraction.length) then
          none
        else some (written rest, rest)
      | _ => integer? (factor * Text.ofDigits 10 whole) rest

/-! ## Dates and times -/

/-- A number of exactly `width` digits. -/
def fixed? (width : Nat) (cs : List Char) : Option (Nat × List Char) :=
  if width ≤ cs.length ∧ (cs.take width).all (Text.isDigit 10) then
    some (Text.ofDigits 10 (cs.take width), cs.drop width)
  else none

/-- What follows a character. -/
def mark? (c : Char) : List Char → Option (List Char)
  | first :: rest => if first = c then some rest else none
  | [] => none

/-- What follows a day. -/
def afterDate? (cs : List Char) : Option (List Char) := do
  let (year, cs) ← fixed? 4 cs
  let cs ← mark? '-' cs
  let (month, cs) ← fixed? 2 cs
  let cs ← mark? '-' cs
  let (day, cs) ← fixed? 2 cs
  if Time.Date.Valid ⟨year, month, day⟩ then some cs else none

/-- What follows a time of the day. -/
def afterTime? (cs : List Char) : Option (List Char) := do
  let (hour, cs) ← fixed? 2 cs
  let cs ← mark? ':' cs
  let (minute, cs) ← fixed? 2 cs
  let cs ← mark? ':' cs
  let (second, cs) ← fixed? 2 cs
  if hour < 24 ∧ minute < 60 ∧ second ≤ 60 then
    match cs with
    | '.' :: c :: rest =>
      if Text.isDigit 10 c then some (rest.dropWhile (Text.isDigit 10)) else some cs
    | _ => some cs
  else none

/-- What follows an offset from UTC. -/
def afterOffset? (cs : List Char) : Option (List Char) :=
  match cs with
  | 'Z' :: rest | 'z' :: rest => some rest
  | '+' :: rest | '-' :: rest => do
    let (hour, rest) ← fixed? 2 rest
    let rest ← mark? ':' rest
    let (minute, rest) ← fixed? 2 rest
    if hour < 24 ∧ minute < 60 then some rest else none
  | _ => some cs

/-- What follows a date, a time, or both. -/
def afterMoment? (cs : List Char) : Option (List Char) :=
  match afterDate? cs with
  | none => afterTime? cs
  | some rest =>
    match rest with
    | 'T' :: more | 't' :: more | ' ' :: more =>
      match afterTime? more with
      | none => some rest
      | some more => afterOffset? more
    | _ => some rest

/-- A date, a time, or both. -/
def moment? (cs : List Char) : Option (Item × List Char) :=
  (afterMoment? cs).map fun rest =>
    (.moment (String.ofList (cs.take (cs.length - rest.length))), rest)

end ChangeLog.Toml
