/-
  Days of the proleptic Gregorian calendar and their numbers. Year starts are strictly increasing,
  so a day number has exactly one year; inside a year the month lengths place it.
-/

namespace ChangeLog.Time

/-- A day by year, month and day of the month. -/
structure Date where
  year : Int
  month : Nat
  day : Nat
deriving DecidableEq, Repr

/-- Every fourth year, without the hundreds that are not four-hundreds. -/
def isLeap (year : Int) : Bool := year % 4 = 0 && (year % 100 ≠ 0 || year % 400 = 0)

/-- Days from the first day of year 0 to the first day of `year`. -/
def yearStart (year : Int) : Int :=
  365 * year + (year + 3) / 4 - (year + 99) / 100 + (year + 399) / 400

/-- The lengths of the twelve months. -/
def monthLengths (leap : Bool) : List Nat :=
  [31, if leap then 29 else 28, 31, 30, 31, 30, 31, 31, 30, 31, 30, 31]

/-- The number of 1 January 1970, counted from the first day of year 0. -/
def epoch : Int := 719528

/-- Months count from 1 to 12 and days from 1 to the month's length. -/
def Date.Valid (d : Date) : Prop :=
  1 ≤ d.month ∧ d.month ≤ 12 ∧ 1 ≤ d.day ∧
    d.day ≤ (monthLengths (isLeap d.year)).getD (d.month - 1) 0

instance (d : Date) : Decidable d.Valid := by unfold Date.Valid; infer_instance

/-- How many days months of the given lengths have together. -/
def daysIn : List Nat → Nat
  | [] => 0
  | length :: rest => length + daysIn rest

/-- Days from 1 January 1970. -/
def Date.toDays (d : Date) : Int :=
  yearStart d.year + daysIn ((monthLengths (isLeap d.year)).take (d.month - 1)) + (d.day : Int) -
    1 - epoch

/-- The year that holds the day with number `n` (from the first day of year 0). -/
def yearOf (n : Int) : Int :=
  let guess := 400 * n / 146097
  if n < yearStart guess then guess - 1
  else if yearStart (guess + 1) ≤ n then guess + 1
  else guess

/-- Where the `n`-th day falls among months of the given lengths, both counted from 0. -/
def place : List Nat → Nat → Nat × Nat
  | [], n => (0, n)
  | length :: rest, n =>
    if n < length then (0, n)
    else
      let (month, day) := place rest (n - length)
      (month + 1, day)

/-- The day that lies `days` days after 1 January 1970. -/
def Date.ofDays (days : Int) : Date :=
  let n := days + epoch
  let year := yearOf n
  let (month, day) := place (monthLengths (isLeap year)) (n - yearStart year).toNat
  { year, month := month + 1, day := day + 1 }

/-! ## Laws -/

theorem yearStart_succ (year : Int) :
    yearStart (year + 1) = yearStart year + if isLeap year then 366 else 365 := by
  simp only [yearStart, isLeap, Bool.and_eq_true, Bool.or_eq_true, decide_eq_true_eq, ne_eq]
  split <;> omega

theorem yearStart_le_yearOf (n : Int) : yearStart (yearOf n) ≤ n := by
  rw [yearOf]
  split
  · rename_i h; simp only [yearStart] at h ⊢; omega
  · split
    · assumption
    · rename_i h _; simp only [yearStart] at h ⊢; omega

theorem lt_yearStart_yearOf_succ (n : Int) : n < yearStart (yearOf n + 1) := by
  rw [yearOf]
  split
  · rename_i h; simpa using h
  · split
    · rename_i h; simp only [yearStart] at h ⊢; omega
    · rename_i _ h; exact Int.not_le.mp h

end ChangeLog.Time
