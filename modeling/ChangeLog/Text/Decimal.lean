/-
  Decimal and other digits, and the numbers that rows of them stand for.
-/

namespace ChangeLog.Text

/-- The number that a character stands for as a digit below `radix`; letters count in both
cases. -/
def digitValue? (radix : Nat) (c : Char) : Option Nat :=
  let n := c.toNat
  let value :=
    if 48 ≤ n ∧ n ≤ 57 then n - 48
    else if 97 ≤ n ∧ n ≤ 122 then n - 87
    else if 65 ≤ n ∧ n ≤ 90 then n - 55
    else radix
  if value < radix then some value else none

/-- Whether a character is a digit below `radix`. -/
def isDigit (radix : Nat) (c : Char) : Bool := (digitValue? radix c).isSome

/-- The number that a row of digits stands for; other characters count as 0. -/
def ofDigits (radix : Nat) (cs : List Char) : Nat :=
  cs.foldl (fun n c => radix * n + (digitValue? radix c).getD 0) 0

end ChangeLog.Text
