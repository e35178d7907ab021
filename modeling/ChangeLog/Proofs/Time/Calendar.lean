/-
  Dates and day numbers are inverse: the date of a day number is a valid one (`Date.valid_ofDays`)
  and has that number (`Date.toDays_ofDays`). Year starts are monotone, which carries the bounds on
  instants over to their years (`Instant.year_bounds`).
-/
import ChangeLog.Time.Instant

namespace ChangeLog.Time

/-! ## Months -/

theorem daysIn_monthLengths (leap : Bool) :
    daysIn (monthLengths leap) = if leap then 366 else 365 := by
  cases leap <;> rfl

theorem length_monthLengths (leap : Bool) : (monthLengths leap).length = 12 := by
  cases leap <;> rfl

theorem monthLength_le (leap : Bool) (month : Nat) : (monthLengths leap).getD month 0 ≤ 31 := by
  have all : ∀ length ∈ monthLengths leap, length ≤ 31 := by cases leap <;> decide
  rw [List.getD_eq_getElem?_getD]
  cases found : (monthLengths leap)[month]? with
  | none => exact Nat.zero_le _
  | some length => exact all length (List.mem_of_getElem? found)

/-- The `n`-th day falls into a month, within its length, and as many days lie before it. -/
theorem place_spec (lengths : List Nat) (n : Nat) (h : n < daysIn lengths) :
    (place lengths n).1 < lengths.length ∧
      (place lengths n).2 < lengths.getD (place lengths n).1 0 ∧
      daysIn (lengths.take (place lengths n).1) + (place lengths n).2 = n := by
  induction lengths generalizing n with
  | nil => simp [daysIn] at h
  | cons length rest ih =>
      rw [place]
      split
      · rename_i inside
        exact ⟨by simp, by simpa using inside, by simp [daysIn]⟩
      · rename_i outside
        rw [daysIn] at h
        obtain ⟨month_lt, day_lt, sum⟩ := ih (n - length) (by omega)
        refine ⟨by simpa using month_lt, by simpa using day_lt, ?_⟩
        simp only [List.take_succ_cons, daysIn]
        omega

/-! ## Years -/

theorem yearStart_mono {a b : Int} (h : a ≤ b) : yearStart a ≤ yearStart b := by
  simp only [yearStart]
  omega

/-- A day has a place inside its year. -/
theorem dayOfYear_lt (n : Int) :
    (n - yearStart (yearOf n)).toNat < daysIn (monthLengths (isLeap (yearOf n))) := by
  have after := yearStart_le_yearOf n
  have before := lt_yearStart_yearOf_succ n
  rw [yearStart_succ] at before
  rw [daysIn_monthLengths]
  split <;> simp_all <;> omega

theorem le_yearOf {n year : Int} (h : yearStart year ≤ n) : year ≤ yearOf n := by
  have before := lt_yearStart_yearOf_succ n
  rcases Int.lt_or_le (yearOf n) year with later | done
  · have := yearStart_mono (show yearOf n + 1 ≤ year by omega)
    omega
  · exact done

theorem yearOf_le {n year : Int} (h : n < yearStart (year + 1)) : yearOf n ≤ year := by
  have after := yearStart_le_yearOf n
  rcases Int.lt_or_le year (yearOf n) with earlier | done
  · have := yearStart_mono (show year + 1 ≤ yearOf n by omega)
    omega
  · exact done

/-! ## Dates -/

theorem Date.year_ofDays (days : Int) : (Date.ofDays days).year = yearOf (days + epoch) := rfl

theorem Date.valid_ofDays (days : Int) : (Date.ofDays days).Valid := by
  have spec := place_spec _ _ (dayOfYear_lt (days + epoch))
  obtain ⟨month_lt, day_lt, -⟩ := spec
  rw [length_monthLengths] at month_lt
  unfold Date.Valid Date.ofDays
  simp only [Nat.add_sub_cancel]
  exact ⟨by omega, by omega, by omega, by omega⟩

theorem Date.toDays_ofDays (days : Int) : (Date.ofDays days).toDays = days := by
  have spec := place_spec _ _ (dayOfYear_lt (days + epoch))
  obtain ⟨-, -, sum⟩ := spec
  have after := yearStart_le_yearOf (days + epoch)
  unfold Date.toDays Date.ofDays
  simp only [Nat.add_sub_cancel]
  omega

/-! ## Instants -/

/-- The years of instants. -/
theorem Instant.year_bounds (t : Instant) : -262143 ≤ t.date.year ∧ t.date.year ≤ 262142 := by
  obtain ⟨low, high, -, -⟩ := t.inRange
  rw [Instant.date, Date.year_ofDays]
  refine ⟨le_yearOf ?_, yearOf_le ?_⟩
  · simp only [yearStart, epoch]; omega
  · simp only [yearStart, epoch]; omega

theorem Instant.secondOfDay_lt (t : Instant) : t.secondOfDay < 86400 := by
  unfold Instant.secondOfDay
  omega

/-- An instant's second, put together from its day and the second of that day. -/
theorem Instant.seconds_eq (t : Instant) :
    t.date.toDays * 86400 + (t.secondOfDay : Int) = t.seconds := by
  rw [Instant.date, Date.toDays_ofDays]
  unfold Instant.secondOfDay
  omega

end ChangeLog.Time
