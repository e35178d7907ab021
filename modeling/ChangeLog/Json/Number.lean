/-
  Numbers of JSON. A number is taken as a whole number of at most 64 bits and a power of ten: digits
  are taken in while they fit, of the whole part that is left over only the count matters, and of
  the fraction nothing. Both factors and then their product are rounded to binary64; a number whose
  product is infinite is too large. Whether a number is too large thus depends on how it is written.
-/
import ChangeLog.Text.Binary64
import ChangeLog.Text.Decimal

namespace ChangeLog.Json

/-! ## Grammar -/

/-- The digits in front and what follows them, if there is one at least. -/
def digits? (cs : List Char) : Option (List Char × List Char) :=
  let ds := cs.takeWhile (Text.isDigit 10)
  if ds.isEmpty then none else some (ds, cs.dropWhile (Text.isDigit 10))

/-- The digits of a whole number: one 0, or no 0 in front. -/
def whole? (cs : List Char) : Option (List Char × List Char) := do
  let (ds, rest) ← digits? cs
  if ds.head? = some '0' ∧ ds.length ≠ 1 then none else some (ds, rest)

/-- The digits after a point, if there is one. -/
def fraction? : List Char → Option (List Char × List Char)
  | '.' :: rest => digits? rest
  | rest => some ([], rest)

/-- An exponent, if there is one. -/
def exponent? : List Char → Option (Int × List Char)
  | 'e' :: rest | 'E' :: rest => do
    let (factor, rest) := match rest with
      | '-' :: rest => ((-1 : Int), rest)
      | '+' :: rest => (1, rest)
      | rest => (1, rest)
    let (ds, rest) ← digits? rest
    return (factor * Text.ofDigits 10 ds, rest)
  | rest => some (0, rest)

/-! ## Size -/

/-- Takes digits into a whole number while it stays within 64 bits; gives the digits left over. -/
def absorb (n : Nat) : List Char → Nat × List Char
  | [] => (n, [])
  | c :: cs =>
    let longer := 10 * n + Text.ofDigits 10 [c]
    if longer < UInt64.size then absorb longer cs else (n, c :: cs)

/-- The greatest power of ten that binary64 holds. -/
def greatestPower : Nat := 308

/-- Whether `n * 10 ^ exponent` is infinite when both factors and the product are rounded to
binary64. A power of ten with a negative exponent is divided by and never makes it so. -/
def overflows (n : Nat) (exponent : Int) : Bool :=
  if n = 0 ∨ exponent < 0 then false
  else if greatestPower < exponent then true
  else
    Text.doubleLimit ≤
      Text.roundToDouble n * Text.roundToDouble (Nat.pow 10 exponent.toNat)

/-- Whether the number with these digits before and after the point is too large. -/
def isTooLarge (whole fraction : List Char) (exponent : Int) : Bool :=
  let (n, beyond) := absorb 0 whole
  let (n, dropped) := absorb n fraction
  overflows n (exponent + beyond.length - (fraction.length - dropped.length : Nat))

/-- Whether a number without its sign is too large, and what follows it. -/
def number? (cs : List Char) : Option (Bool × List Char) := do
  let (whole, rest) ← whole? cs
  let (fraction, rest) ← fraction? rest
  let (exponent, rest) ← exponent? rest
  return (isTooLarge whole fraction exponent, rest)

/-- A number with or without a minus sign. -/
def signed? : List Char → Option (Bool × List Char)
  | '-' :: rest => number? rest
  | rest => number? rest

end ChangeLog.Json
