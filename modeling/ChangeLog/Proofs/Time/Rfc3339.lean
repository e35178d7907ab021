/-
  Reading gives back what was written: `parse (stored t) = some t` for every instant, leap seconds
  and years of five and six digits included (`parse_stored`). Each part of the text has its own
  lemma: the reader takes exactly the characters that the writer made and hands on the rest.
-/
import ChangeLog.Proofs.Time.Calendar
import ChangeLog.Time.Rfc3339

namespace ChangeLog.Time.Rfc3339

open ChangeLog.Text

/-! ## Digits -/

theorem digit?_of_isDigit {c : Char} (h : c.isDigit = true) : digit? c = some (c.toNat - 48) := by
  have range : '0' ≤ c ∧ c ≤ '9' := by
    simpa [Char.isDigit, Char.le_def] using h
  rw [digit?, if_pos range]

theorem not_isBlank_of_isDigit {c : Char} (h : c.isDigit = true) : isBlank c = false := by
  have range : 48 ≤ c.toNat ∧ c.toNat ≤ 57 := by
    simpa [Char.isDigit, Char.le_def, UInt32.le_iff_toNat_le] using h
  simp only [isBlank, inRanges, blankRanges, List.any_cons, List.any_nil, Bool.or_false,
    Bool.or_eq_false_iff, Bool.and_eq_false_iff, decide_eq_false_iff_not]
  omega

/-- No digit stands at the front. -/
def NoDigit (cs : List Char) : Prop := ∀ c ∈ cs.head?, digit? c = none

theorem digitsFrom_append {ds rest : List Char} {width : Nat} (n : Nat)
    (digits : ∀ c ∈ ds, c.isDigit = true) (room : ds.length ≤ width)
    (stop : ds.length = width ∨ NoDigit rest) :
    digitsFrom width n (ds ++ rest) = (Nat.ofDigitChars 10 ds n, rest) := by
  induction ds generalizing width n with
  | nil =>
      cases width with
      | zero => rfl
      | succ width =>
          cases rest with
          | nil => rfl
          | cons c rest =>
              have none : digit? c = none := by
                rcases stop with full | stop
                · simp at full
                · exact stop c rfl
              simp [digitsFrom, none, Nat.ofDigitChars]
  | cons c ds ih =>
      cases width with
      | zero => simp at room
      | succ width =>
          have digit := digit?_of_isDigit (digits c List.mem_cons_self)
          rw [List.cons_append, digitsFrom, digit, Nat.ofDigitChars_cons]
          exact ih _ (fun d hd => digits d (List.mem_cons_of_mem _ hd)) (by simpa using room)
            (by simpa using stop)

/-! ## Padded numbers -/

theorem isDigit_of_mem_padded {width n : Nat} {c : Char} (h : c ∈ padded width n) :
    c.isDigit = true := by
  rcases List.mem_append.mp h with zero | digit
  · rw [List.eq_of_mem_replicate zero]
    rfl
  · exact Nat.isDigit_of_mem_toDigits (by omega) (by omega) digit

theorem ofDigitChars_padded (width n : Nat) : Nat.ofDigitChars 10 (padded width n) 0 = n := by
  simp [padded, Nat.ofDigitChars_append, Nat.ofDigitChars_replicate_zero]

theorem length_padded (width n : Nat) :
    (padded width n).length = max width (Nat.toDigits 10 n).length := by
  simp only [padded, List.length_append, List.length_replicate]
  omega

theorem length_padded_of_lt {width n : Nat} (pos : 0 < width) (h : n < Nat.pow 10 width) :
    (padded width n).length = width := by
  have := (Nat.length_toDigits_le_iff (b := 10) (by omega) pos).mpr h
  rw [length_padded]
  omega

theorem padded_eq_cons (width n : Nat) :
    ∃ c cs, padded width n = c :: cs ∧ c.isDigit = true := by
  cases h : padded width n with
  | nil =>
      have empty : (padded width n).length = 0 := by rw [h]; rfl
      have pos := Nat.length_toDigits_pos (b := 10) (n := n)
      rw [length_padded] at empty
      omega
  | cons c cs => exact ⟨c, cs, rfl, isDigit_of_mem_padded (h ▸ List.mem_cons_self)⟩

theorem number_padded {width count n : Nat} {rest : List Char}
    (room : (padded width n).length ≤ count)
    (stop : (padded width n).length = count ∨ NoDigit rest) :
    number count (padded width n ++ rest) = some (n, rest) := by
  have read := digitsFrom_append 0 (fun _ h => isDigit_of_mem_padded h) room stop
  rw [ofDigitChars_padded] at read
  obtain ⟨c, cs, split, digit⟩ := padded_eq_cons width n
  rw [split, List.cons_append] at read ⊢
  rw [number, if_pos (by rw [digit?_of_isDigit digit]; rfl), read]

theorem trimFront_cons {c : Char} (h : isBlank c = false) (cs : List Char) :
    trimFront (c :: cs) = c :: cs := by
  simp [trimFront, h]

theorem trimFront_padded (width n : Nat) (rest : List Char) :
    trimFront (padded width n ++ rest) = padded width n ++ rest := by
  obtain ⟨c, cs, split, digit⟩ := padded_eq_cons width n
  rw [split, List.cons_append, trimFront_cons (not_isBlank_of_isDigit digit)]

/-- A part of two digits. -/
theorem part_padded {n : Nat} (h : n < 100) (rest : List Char) :
    part 2 (padded 2 n ++ rest) = some (n, rest) := by
  have length : (padded 2 n).length = 2 := length_padded_of_lt (by omega) h
  rw [part, trimFront_padded]
  exact number_padded (by omega) (.inl length)

theorem mark_cons {c : Char} (h : isBlank c = false) (rest : List Char) :
    mark c (c :: rest) = some rest := by
  simp [mark, trimFront_cons h]

/-! ## Years -/

theorem year_yearText (y : Int) (rest : List Char) :
    year (yearText y ++ '-' :: rest) = some (y, '-' :: rest) := by
  have stop : NoDigit ('-' :: rest) := by
    intro c hc
    cases hc
    rfl
  unfold yearText
  split
  · -- Four digits without a sign: the first of them is neither of the two signs.
    rename_i plain
    have length : (padded 4 y.toNat).length = 4 :=
      length_padded_of_lt (by omega) (show y.toNat < 10000 by omega)
    have read : number 4 (padded 4 y.toNat ++ '-' :: rest) = some (y.toNat, '-' :: rest) :=
      number_padded (Nat.le_of_eq length) (.inl length)
    have value : ((y.toNat : Nat) : Int) = y := by omega
    have front := trimFront_padded 4 y.toNat ('-' :: rest)
    obtain ⟨c, cs, split, digit⟩ := padded_eq_cons 4 y.toNat
    rw [split, List.cons_append] at read front ⊢
    unfold year
    rw [front]
    split
    · rename_i minus
      cases minus
      simp [Char.isDigit] at digit
    · rename_i plus
      cases plus
      simp [Char.isDigit] at digit
    · rw [read, Option.map_some]
      simp only [value]
  · -- A sign and any number of digits, which the hyphen ends.
    have read : number (padded 4 y.natAbs ++ '-' :: rest).length
        (padded 4 y.natAbs ++ '-' :: rest) = some (y.natAbs, '-' :: rest) :=
      number_padded (by simp) (.inr stop)
    split
    · rename_i negative
      have front : trimFront ('-' :: (padded 4 y.natAbs ++ '-' :: rest)) = _ :=
        trimFront_cons (by rfl) _
      rw [List.cons_append, year, front]
      simp only [read, Option.map_some]
      congr 2
      omega
    · rename_i positive
      have front : trimFront ('+' :: (padded 4 y.natAbs ++ '-' :: rest)) = _ :=
        trimFront_cons (by rfl) _
      rw [List.cons_append, year, front]
      simp only [read, Option.map_some]
      congr 2
      omega

/-! ## Fractions -/

/-- A point and `width` digits: nine less `width` zeros are missing behind them. -/
theorem fraction_padded {width n : Nat} {rest : List Char} (pos : 0 < width) (le : width ≤ 9)
    (lt : n < Nat.pow 10 width) (stop : NoDigit rest) :
    fraction ('.' :: (padded width n ++ rest)) = some (n * Nat.pow 10 (9 - width), rest) := by
  have length : (padded width n).length = width := length_padded_of_lt pos lt
  have read : number 9 (padded width n ++ rest) = some (n, rest) :=
    number_padded (by omega) (.inr stop)
  have taken : (padded width n ++ rest).length - rest.length = width := by
    rw [List.length_append]
    omega
  have done : rest.dropWhile (fun c => (digit? c).isSome) = rest := by
    cases rest with
    | nil => rfl
    | cons c rest => simp [stop c rfl]
  simp only [fraction, read, taken, done]

theorem fraction_fractionText {nanos : Nat} {rest : List Char} (h : nanos < 1000000000)
    (stop : NoDigit rest) (point : rest.head? ≠ some '.') :
    fraction (fractionText nanos ++ rest) = some (nanos, rest) := by
  unfold fractionText
  split
  · rename_i zero
    rw [List.nil_append, zero]
    cases rest with
    | nil => rfl
    | cons c rest =>
        unfold fraction
        split
        · rename_i isPoint
          cases isPoint
          simp at point
        · rfl
  · split
    · rw [List.cons_append, fraction_padded (by omega) (by omega)
        (show nanos / 1000000 < 1000 by omega) stop]
      congr 2
      change nanos / 1000000 * 1000000 = nanos
      omega
    · split
      · rw [List.cons_append, fraction_padded (by omega) (by omega)
          (show nanos / 1000 < 1000000 by omega) stop]
        congr 2
        change nanos / 1000 * 1000 = nanos
        omega
      · rw [List.cons_append, fraction_padded (by omega) (by omega) h stop]
        congr 2
        exact Nat.mul_one nanos

/-! ## The whole text -/

/-- The instant that the parts of an instant's text stand for. -/
theorem instantOf_parts (t : Instant) :
    instantOf t.date (t.secondOfDay / 3600) (t.secondOfDay / 60 % 60)
      (t.secondOfDay % 60 + if 1000000000 ≤ t.nanos then 1 else 0)
      (if 1000000000 ≤ t.nanos then t.nanos - 1000000000 else t.nanos) 0 = some t := by
  have whole := t.seconds_eq
  have inDay := t.secondOfDay_lt
  have range := t.inRange
  obtain ⟨-, -, nanos_lt, leap⟩ := range
  have minute : (t.seconds % 60).toNat = t.secondOfDay % 60 := by
    unfold Instant.secondOfDay
    omega
  have fields : t.date.Valid ∧ -262143 ≤ t.date.year ∧ t.date.year ≤ 262142 ∧
      t.secondOfDay / 3600 < 24 ∧ t.secondOfDay / 60 % 60 < 60 ∧
      (t.secondOfDay % 60 + if 1000000000 ≤ t.nanos then 1 else 0) ≤ 60 := by
    refine ⟨Date.valid_ofDays _, t.year_bounds.1, t.year_bounds.2, by omega, by omega, ?_⟩
    split <;> omega
  have same : Instant.ofUnix? t.seconds t.nanos = some t := by
    rw [Instant.ofUnix?, dif_pos t.inRange]
  rw [instantOf, if_pos fields, ← same]
  by_cases h : 1000000000 ≤ t.nanos
  · have last := leap h
    have sixty : t.secondOfDay % 60 + 1 = 60 := by omega
    simp only [if_pos h, sixty, if_true]
    congr 1 <;> omega
  · have below : ¬ t.secondOfDay % 60 + 0 = 60 := by omega
    simp only [if_neg h, if_neg below]
    congr 1
    omega

theorem parse_stored (t : Instant) : parse (stored t) = some t := by
  have inDay := t.secondOfDay_lt
  have valid := Date.valid_ofDays (t.seconds / 86400)
  obtain ⟨-, month_le, -, day_le⟩ := valid
  have day_lt : t.date.day < 100 := by
    have := monthLength_le (isLeap t.date.year) (t.date.month - 1)
    unfold Instant.date at this ⊢
    omega
  have month_lt : t.date.month < 100 := by
    unfold Instant.date
    omega
  have nanos_lt :
      (if 1000000000 ≤ t.nanos then t.nanos - 1000000000 else t.nanos) < 1000000000 := by
    have := t.inRange.2.2.1
    split <;> omega
  have second_lt : (t.secondOfDay % 60 + if 1000000000 ≤ t.nanos then 1 else 0) < 100 := by
    split <;> omega
  have hour_lt : t.secondOfDay / 3600 < 100 := by omega
  have minute_lt : t.secondOfDay / 60 % 60 < 100 := by omega
  have zed : NoDigit ['Z'] := by
    intro c hc
    cases hc
    rfl
  unfold stored render civilText parse
  simp only [String.toList_ofList, List.append_assoc, List.cons_append]
  simp only [year_yearText, Option.bind_eq_bind, Option.bind_some, mark_cons (c := '-') rfl,
    mark_cons (c := ':') rfl, part_padded month_lt, part_padded day_lt, separator,
    part_padded hour_lt, part_padded minute_lt, part_padded second_lt]
  rw [show "Z".toList = ['Z'] from rfl, fraction_fractionText nanos_lt zed (by decide)]
  exact instantOf_parts t

/-! ## Length -/

theorem length_padded_le (width n : Nat) (narrow : width ≤ 9) (small : n < 1000000000) :
    (padded width n).length ≤ 9 := by
  have digits : (Nat.toDigits 10 n).length ≤ 9 :=
    (Nat.length_toDigits_le_iff (b := 10) (by omega) (by omega)).mpr small
  rw [length_padded]
  omega

theorem length_yearText_le {y : Int} (small : y.natAbs < 1000000000) :
    (yearText y).length ≤ 10 := by
  unfold yearText
  split
  · have := length_padded_le 4 y.toNat (by omega) (by omega)
    omega
  · have := length_padded_le 4 y.natAbs (by omega) small
    rw [List.length_cons]
    omega

theorem length_fractionText_le (nanos : Nat) (small : nanos < 1000000000) :
    (fractionText nanos).length ≤ 10 := by
  unfold fractionText
  split
  · exact Nat.zero_le _
  · split
    · exact Nat.succ_le_succ (length_padded_le _ _ (by omega) (by omega))
    · split
      · exact Nat.succ_le_succ (length_padded_le _ _ (by omega) (by omega))
      · exact Nat.succ_le_succ (length_padded_le _ _ (by omega) small)

/-- Date and time of an instant are short, in all years there are. -/
theorem length_civilText_le (t : Instant) : (civilText t).length ≤ 99 := by
  have inDay := t.secondOfDay_lt
  obtain ⟨low, high⟩ := t.year_bounds
  have nanos_lt := t.inRange.2.2.1
  obtain ⟨-, month_le, -, day_le⟩ := Date.valid_ofDays (t.seconds / 86400)
  have short := monthLength_le (isLeap t.date.year) (t.date.month - 1)
  have year : (yearText t.date.year).length ≤ 10 := length_yearText_le (by omega)
  have month := length_padded_le 2 t.date.month (by omega)
    (by unfold Instant.date; omega)
  have day := length_padded_le 2 t.date.day (by omega)
    (by unfold Instant.date at short ⊢; omega)
  have hour := length_padded_le 2 (t.secondOfDay / 3600) (by omega) (by omega)
  have minute := length_padded_le 2 (t.secondOfDay / 60 % 60) (by omega) (by omega)
  have second := length_padded_le 2 (t.secondOfDay % 60 + if 1000000000 ≤ t.nanos then 1 else 0)
    (by omega) (by split <;> omega)
  have fraction := length_fractionText_le
    (if 1000000000 ≤ t.nanos then t.nanos - 1000000000 else t.nanos) (by split <;> omega)
  unfold civilText
  simp only [List.length_append, List.length_cons]
  omega

end ChangeLog.Time.Rfc3339
