/-
  Decimal integers within bounds, with an optional sign. The text is read from the front and the
  first problem is reported: a character that is no digit, or a value that leaves the bounds.
-/
import ChangeLog.Text.Decimal

namespace ChangeLog.Text

/-- Why a text is no integer within the bounds. -/
inductive IntegerFault where
  | empty
  | badDigit
  | tooLarge
  | tooSmall
deriving DecidableEq, Repr

/-- The words for a fault. -/
def IntegerFault.message : IntegerFault → String
  | .empty => "cannot parse integer from empty string"
  | .badDigit => "invalid digit found in string"
  | .tooLarge => "number too large to fit in target type"
  | .tooSmall => "number too small to fit in target type"

/-- Adds digits to a number read so far, up to `high`. -/
def addDigits (high : Nat) (n : Nat) : List Char → Except IntegerFault Nat
  | [] => .ok n
  | c :: rest =>
    match digitValue? 10 c with
    | none => .error .badDigit
    | some d => if high < 10 * n + d then .error .tooLarge else addDigits high (10 * n + d) rest

/-- A row of one digit or more. -/
def unsigned (high : Nat) (cs : List Char) : Except IntegerFault Nat :=
  if cs = [] then .error .badDigit else addDigits high 0 cs

/-- A number of 64 bits. -/
def parseWord (cs : List Char) : Except IntegerFault UInt64 :=
  let read (cs : List Char) : Except IntegerFault UInt64 :=
    (unsigned 18446744073709551615 cs).map UInt64.ofNat
  match cs with
  | [] => .error .empty
  | '+' :: rest => read rest
  | _ => read cs

/-- A number of 64 bits with a sign. -/
def parseSigned (cs : List Char) : Except IntegerFault Int :=
  match cs with
  | [] => .error .empty
  | '-' :: rest =>
    match unsigned 9223372036854775808 rest with
    | .ok n => .ok (-n)
    | .error .tooLarge => .error .tooSmall
    | .error fault => .error fault
  | '+' :: rest => (unsigned 9223372036854775807 rest).map Int.ofNat
  | _ => (unsigned 9223372036854775807 cs).map Int.ofNat

end ChangeLog.Text
