/-
  The reach of binary64. A number is too large when it rounds to infinity, which is from halfway
  between the greatest finite number and 2 ^ 1024 on. Only numbers from 2 ^ 52 up are rounded here,
  so that everything stays in whole numbers.
-/

namespace ChangeLog.Text

/-- How many bits of a number binary64 keeps. -/
def doubleBits : Nat := 53

/-- The smallest number that rounds to infinity in binary64. -/
def doubleLimit : Nat := (1 <<< 1024) - (1 <<< 970)

/-- A whole number rounded to the bits that binary64 keeps: to the nearest, and halfway to the even
neighbour. -/
def roundToDouble (n : Nat) : Nat :=
  let extra := Nat.log2 n + 1 - doubleBits
  let kept := n >>> extra
  let lost := n - kept <<< extra
  let half := (1 <<< extra) / 2
  if extra ≠ 0 ∧ (half < lost ∨ half = lost ∧ kept % 2 = 1) then (kept + 1) <<< extra
  else kept <<< extra

/-- Whether `digits * 10 ^ exponent` rounds to infinity in binary64; `digits` is a number of
`width` digits at most. -/
def exceedsDouble (digits width : Nat) (exponent : Int) : Bool :=
  if digits = 0 ∨ width + exponent ≤ 308 then false
  else if 0 ≤ exponent then 310 ≤ exponent || doubleLimit ≤ digits * Nat.pow 10 exponent.toNat
  else doubleLimit * Nat.pow 10 (-exponent).toNat ≤ digits

end ChangeLog.Text
