/-
  Runs of a machine: inputs are taken one after the other, each in the state that the one before it
  left. Where some outputs tell that a step left the state alone, such steps can be left out of a
  run, any of them, and nothing else of the run changes (`runAll_of_omitsOnly`).
-/

namespace ChangeLog

variable {σ ι ο : Type}

/-- Gives inputs to a machine one after the other: what it puts out, and the state behind them. -/
def runAll (step : σ → ι → ο × σ) (s : σ) : List ι → List ο × σ
  | [] => ([], s)
  | input :: inputs =>
    let (output, s) := step s input
    let (outputs, s) := runAll step s inputs
    (output :: outputs, s)

/-- What is left of exchanges when some are left out, all of which are idle. -/
def OmitsOnly (idle : ο → Bool) (kept all : List (ι × ο)) : Prop :=
  kept.Sublist all ∧ (kept.filter fun e => !idle e.2) = all.filter fun e => !idle e.2

variable {step : σ → ι → ο × σ} {s : σ} {input : ι} {inputs : List ι}

theorem runAll_cons (step : σ → ι → ο × σ) (s : σ) (input : ι) (inputs : List ι) :
    runAll step s (input :: inputs) =
      ((step s input).1 :: (runAll step (step s input).2 inputs).1,
        (runAll step (step s input).2 inputs).2) := rfl

theorem length_runAll (step : σ → ι → ο × σ) (s : σ) (inputs : List ι) :
    (runAll step s inputs).1.length = inputs.length := by
  induction inputs generalizing s with
  | nil => rfl
  | cons input inputs ih => rw [runAll_cons, List.length_cons, List.length_cons, ih]

theorem zip_runAll_cons (step : σ → ι → ο × σ) (s : σ) (input : ι) (inputs : List ι) :
    (input :: inputs).zip (runAll step s (input :: inputs)).1 =
      (input, (step s input).1) :: inputs.zip (runAll step (step s input).2 inputs).1 := rfl

theorem runAll_append (step : σ → ι → ο × σ) (s : σ) (front back : List ι) :
    runAll step s (front ++ back) =
      ((runAll step s front).1 ++ (runAll step (runAll step s front).2 back).1,
        (runAll step (runAll step s front).2 back).2) := by
  induction front generalizing s with
  | nil => rfl
  | cons input front ih =>
      rw [List.cons_append, runAll_cons, ih]
      rfl

/-- An exchange of a run is a step in the state that the exchanges before it left. -/
theorem runAll_of_zip_eq {output : ο} {earlier others : List (ι × ο)}
    (parts : inputs.zip (runAll step s inputs).1 = earlier ++ (input, output) :: others) :
    inputs = earlier.map Prod.fst ++ input :: others.map Prod.fst ∧
      earlier = (earlier.map Prod.fst).zip (runAll step s (earlier.map Prod.fst)).1 ∧
      output = (step (runAll step s (earlier.map Prod.fst)).2 input).1 := by
  have inputs_eq := congrArg (List.map Prod.fst) parts
  have outputs_eq := congrArg (List.map Prod.snd) parts
  rw [List.map_fst_zip (Nat.le_of_eq (length_runAll step s inputs).symm), List.map_append,
    List.map_cons] at inputs_eq
  rw [List.map_snd_zip (Nat.le_of_eq (length_runAll step s inputs)), List.map_append,
    List.map_cons, inputs_eq, runAll_append, runAll_cons] at outputs_eq
  obtain ⟨before, rest⟩ := List.append_inj outputs_eq (by
    rw [length_runAll, List.length_map, List.length_map])
  refine ⟨inputs_eq, ?_, (List.cons.inj rest).1.symm⟩
  rw [before, ← List.zip_of_prod rfl rfl]

/-! ## Leaving steps out -/

theorem omitsOnly_nil_iff {idle : ο → Bool} {kept : List (ι × ο)} :
    OmitsOnly idle kept [] ↔ kept = [] := by
  constructor
  · exact fun h => List.sublist_nil.mp h.1
  · rintro rfl
    exact ⟨List.Sublist.refl _, rfl⟩

/-- The first exchange is left out, and then it is idle; or it is kept. -/
theorem omitsOnly_cons_cases {idle : ο → Bool} {kept rest : List (ι × ο)} {first : ι × ο}
    (h : OmitsOnly idle kept (first :: rest)) :
    (idle first.2 = true ∧ OmitsOnly idle kept rest) ∨
      ∃ more, kept = first :: more ∧ OmitsOnly idle more rest := by
  obtain ⟨sub, same⟩ := h
  rw [List.filter_cons] at same
  cases sub with
  | cons _ sub =>
      left
      cases rests : idle first.2 with
      | true =>
          rw [rests] at same
          exact ⟨rfl, sub, same⟩
      | false =>
          -- There would be one exchange too few.
          rw [rests] at same
          have lengths := congrArg List.length same
          have fewer := (sub.filter fun e => !idle e.2).length_le
          simp only [Bool.not_false, if_true, List.length_cons] at lengths
          omega
  | cons_cons _ sub =>
      right
      refine ⟨_, rfl, sub, ?_⟩
      rw [List.filter_cons] at same
      cases rests : idle first.2 with
      | true =>
          rw [rests] at same
          exact same
      | false =>
          rw [rests] at same
          exact (List.cons.inj same).2

/-- Steps that leave the state alone can be left out of a run. -/
theorem runAll_of_omitsOnly {idle : ο → Bool}
    (still : ∀ s input, idle (step s input).1 = true → (step s input).2 = s)
    {kept : List (ι × ο)} (omits : OmitsOnly idle kept (inputs.zip (runAll step s inputs).1)) :
    runAll step s (kept.map Prod.fst) = (kept.map Prod.snd, (runAll step s inputs).2) := by
  induction inputs generalizing s kept with
  | nil =>
      rw [omitsOnly_nil_iff.mp omits]
      rfl
  | cons input inputs ih =>
      rw [zip_runAll_cons] at omits
      rcases omitsOnly_cons_cases omits with ⟨idles, others⟩ | ⟨more, rfl, others⟩
      · rw [still s input idles] at others
        rw [runAll_cons, still s input idles]
        exact ih others
      · rw [List.map_cons, runAll_cons, ih others]
        rfl

end ChangeLog
