/-
  Byte strings as hexadecimal text, two digits a byte. Writing uses lower-case digits; reading
  takes both cases, looks at the number of digits first and then at each digit from the left.
-/
import ChangeLog.Bytes
import ChangeLog.Text.Quoted
import ChangeLog.Text.Utf8

namespace ChangeLog.Hex

/-- Why a text is not hexadecimal. Positions count the bytes of its UTF-8 form. -/
inductive Fault where
  | oddLength
  | badDigit (byte : UInt8) (position : Nat)
deriving DecidableEq, Repr

/-- The message for a fault; the refused byte is shown as the character of its number. -/
def Fault.message : Fault → String
  | .oddLength => "Odd number of digits"
  | .badDigit byte position =>
    "Invalid character " ++ Text.quoteChar (Char.ofNat byte.toNat) ++ " at position " ++
      toString position

/-- The digit for a number below sixteen. -/
def digit (n : Nat) : Char :=
  if n < 10 then Char.ofNat (48 + n) else Char.ofNat (87 + n)

/-- The number a digit stands for. -/
def value? (b : UInt8) : Option Nat :=
  let n := b.toNat
  if 48 ≤ n ∧ n ≤ 57 then some (n - 48)
  else if 97 ≤ n ∧ n ≤ 102 then some (n - 87)
  else if 65 ≤ n ∧ n ≤ 70 then some (n - 55)
  else none

/-- The two digits of each byte, high digit first. -/
def digits (bytes : Bytes) : List Char :=
  bytes.flatMap fun b => [digit (b.toNat / 16), digit (b.toNat % 16)]

/-- A byte string in lower-case digits. -/
def encode (bytes : Bytes) : String := String.ofList (digits bytes)

/-- Reads pairs of digits from a text of even length; `position` is that of the first. -/
def decodePairs (position : Nat) : Bytes → Except Fault Bytes
  | [] => .ok []
  | [_] => .error .oddLength
  | high :: low :: rest =>
    match value? high, value? low with
    | none, _ => .error (.badDigit high position)
    | _, none => .error (.badDigit low (position + 1))
    | some h, some l =>
      match decodePairs (position + 2) rest with
      | .ok bytes => .ok (UInt8.ofNat (16 * h + l) :: bytes)
      | .error fault => .error fault

/-- The byte string that a hexadecimal text stands for. -/
def decode (text : String) : Except Fault Bytes :=
  let bytes := Text.encode text
  if bytes.length % 2 = 1 then .error .oddLength else decodePairs 0 bytes

end ChangeLog.Hex
