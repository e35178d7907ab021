/-
  Instants as RFC 3339 text. Writing gives one form: four year digits (a sign and more outside
  0 to 9999), the shortest of 0, 3, 6 or 9 fraction digits that is exact, second 60 for a leap
  second. Reading is lenient: blanks before every part, unpadded numbers, any fraction length and
  any offset from UTC below a day.
-/
import ChangeLog.Time.Instant
import ChangeLog.Text.Blank

namespace ChangeLog.Time.Rfc3339

/-! ## Writing -/

/-- `n` in decimal, with zeros in front up to `width` digits. -/
def padded (width n : Nat) : List Char :=
  let digits := Nat.toDigits 10 n
  List.replicate (width - digits.length) '0' ++ digits

/-- A year: four digits, or a sign and at least four. -/
def yearText (year : Int) : List Char :=
  if 0 ≤ year ∧ year ≤ 9999 then padded 4 year.toNat
  else (if year < 0 then '-' else '+') :: padded 4 year.natAbs

/-- A fraction of a second: nothing, or a point and three, six or nine digits. -/
def fractionText (nanos : Nat) : List Char :=
  if nanos = 0 then []
  else if nanos % 1000000 = 0 then '.' :: padded 3 (nanos / 1000000)
  else if nanos % 1000 = 0 then '.' :: padded 6 (nanos / 1000)
  else '.' :: padded 9 nanos

/-- Date and time of an instant, without an offset. -/
def civilText (t : Instant) : List Char :=
  let date := t.date
  let s := t.secondOfDay
  let leap := 1000000000 ≤ t.nanos
  yearText date.year ++ '-' :: padded 2 date.month ++ '-' :: padded 2 date.day ++
    'T' :: padded 2 (s / 3600) ++ ':' :: padded 2 (s / 60 % 60) ++
    ':' :: padded 2 (s % 60 + if leap then 1 else 0) ++
    fractionText (if leap then t.nanos - 1000000000 else t.nanos)

/-- The text of an instant with the given name for UTC after it. -/
def render (utc : String) (t : Instant) : String := String.ofList (civilText t ++ utc.toList)

/-- The form that records hold. -/
def stored (t : Instant) : String := render "Z" t

/-- The form that readers are shown. -/
def shown (t : Instant) : String := render "+00:00" t

/-! ## Reading -/

/-- The number a decimal digit stands for. -/
def digit? (c : Char) : Option Nat :=
  if '0' ≤ c ∧ c ≤ '9' then some (c.toNat - 48) else none

/-- The value of the digits at the front, at most `width` of them, added to `n` read so far. -/
def digitsFrom : Nat → Nat → List Char → Nat × List Char
  | 0, n, cs => (n, cs)
  | _ + 1, n, [] => (n, [])
  | width + 1, n, c :: cs =>
    match digit? c with
    | some d => digitsFrom width (10 * n + d) cs
    | none => (n, c :: cs)

/-- A number of one to `width` digits. -/
def number (width : Nat) (cs : List Char) : Option (Nat × List Char) :=
  match cs with
  | c :: _ => if (digit? c).isSome then some (digitsFrom width 0 cs) else none
  | [] => none

/-- A number of one to `width` digits after blanks. -/
def part (width : Nat) (cs : List Char) : Option (Nat × List Char) :=
  number width (Text.trimFront cs)

/-- The character `c` after blanks. -/
def mark (c : Char) (cs : List Char) : Option (List Char) :=
  match Text.trimFront cs with
  | first :: rest => if first = c then some rest else none
  | [] => none

/-- A year after blanks: up to four digits, or a sign and any number of them. -/
def year (cs : List Char) : Option (Int × List Char) :=
  match Text.trimFront cs with
  | '-' :: rest => (number rest.length rest).map fun (n, rest) => (-(n : Int), rest)
  | '+' :: rest => (number rest.length rest).map fun (n, rest) => ((n : Int), rest)
  | rest => (number 4 rest).map fun (n, rest) => ((n : Int), rest)

/-- The sign between date and time: a letter T or one space. -/
def separator : List Char → Option (List Char)
  | 'T' :: rest | 't' :: rest | ' ' :: rest => some rest
  | _ => none

/-- Nanoseconds of a fraction, if one follows; digits past the ninth count for nothing. -/
def fraction : List Char → Option (Nat × List Char)
  | '.' :: rest =>
    match number 9 rest with
    | none => none
    | some (n, more) =>
      let read := rest.length - more.length
      some (n * Nat.pow 10 (9 - read), more.dropWhile fun c => (digit? c).isSome)
  | rest => some (0, rest)

/-- Two digits. -/
def twoDigits : List Char → Option (Nat × List Char)
  | a :: b :: rest =>
    match digit? a, digit? b with
    | some a, some b => some (10 * a + b, rest)
    | _, _ => none
  | _ => none

/-- Whether `c` is the ASCII letter `upper` in either case. -/
def isLetter (upper c : Char) : Bool := c = upper || c.toNat = upper.toNat + 32

/-- Hours and minutes of an offset after its sign, in seconds. -/
def offsetSize (cs : List Char) : Option (Int × List Char) :=
  match twoDigits cs with
  | none => none
  | some (hours, rest) =>
    match twoDigits (rest.dropWhile fun c => c = ':' || Text.isBlank c) with
    | none => none
    | some (minutes, rest) =>
      if minutes < 60 ∧ hours < 24 then some (((hours * 3600 + minutes * 60 : Nat) : Int), rest)
      else none

/-- An offset from UTC in seconds: a name of UTC, or a sign, hours and minutes. -/
def offset (cs : List Char) : Option (Int × List Char) :=
  match Text.trimFront cs with
  | 'Z' :: rest | 'z' :: rest => some (0, rest)
  | '+' :: rest => offsetSize rest
  | '-' :: rest | '−' :: rest => (offsetSize rest).map fun (size, rest) => (-size, rest)
  | u :: t :: c :: rest =>
    if isLetter 'U' u && isLetter 'T' t && isLetter 'C' c then some (0, rest) else none
  | _ => none

/-- The instant of a day, a time of the day and an offset; second 60 is a leap second. -/
def instantOf (date : Date) (hour minute second nanos : Nat) (offset : Int) : Option Instant :=
  if date.Valid ∧ -262143 ≤ date.year ∧ date.year ≤ 262142 ∧
      hour < 24 ∧ minute < 60 ∧ second ≤ 60 then
    let seconds := date.toDays * 86400 +
      ((hour * 3600 + minute * 60 + if second = 60 then 59 else second : Nat) : Int) - offset
    Instant.ofUnix? seconds (if second = 60 then nanos + 1000000000 else nanos)
  else none

/-- The instant that a text stands for. -/
def parse (text : String) : Option Instant := do
  let (y, cs) ← year text.toList
  let cs ← mark '-' cs
  let (month, cs) ← part 2 cs
  let cs ← mark '-' cs
  let (day, cs) ← part 2 cs
  let cs ← separator cs
  let (hour, cs) ← part 2 cs
  let cs ← mark ':' cs
  let (minute, cs) ← part 2 cs
  let cs ← mark ':' cs
  let (second, cs) ← part 2 cs
  let (nanos, cs) ← fraction cs
  let (zone, cs) ← offset cs
  if (Text.trimFront cs).isEmpty then instantOf ⟨y, month, day⟩ hour minute second nanos zone
  else none

end ChangeLog.Time.Rfc3339
