/-
  Acknowledgements over a store that may fail. Each step acknowledges something or switches the
  store between working and failing. A slot is made before the store is asked, an acknowledgement
  that raises nothing never reaches the store, and the end of the log may be another one in each
  call; still what shows is what is recorded (`Agrees`), call by call and so over any run, and it is
  the highest offset that was ever accepted (`progress_is_highest_accepted`).
-/
import ChangeLog.Proofs.Acks
import ChangeLog.Store.Unreliable

namespace ChangeLog.Acks

/-- What can happen to acknowledgements and to the store behind them. -/
inductive Step where
  | acknowledge (consumer : Consumer) (offset next : UInt64)
  | switch (failing : Bool)
deriving DecidableEq, Repr

/-- Takes a step. Only an acknowledgement is answered. -/
def take (acks : Acks) (store : UnreliableProgress) :
    Step → Option (Except LogError UInt64) × Acks × UnreliableProgress
  | .acknowledge consumer offset next =>
    let (result, acks, store) := acks.acknowledge store consumer offset next
    (some result, acks, store)
  | .switch failing => (none, acks, { store with isFailing := failing })

/-- Takes steps one after the other. -/
def takeAll (acks : Acks) (store : UnreliableProgress) :
    List Step → List (Option (Except LogError UInt64)) × Acks × UnreliableProgress
  | [] => ([], acks, store)
  | step :: steps =>
    let (reply, acks, store) := take acks store step
    let (replies, acks, store) := takeAll acks store steps
    (reply :: replies, acks, store)

/-- The offset that a step acknowledged for a consumer, if it did. -/
def accepted? (c : Consumer) : Step × Option (Except LogError UInt64) → Option UInt64
  | (.acknowledge consumer offset _, some (.ok _)) => if consumer = c then some offset else none
  | _ => none

/-- The highest of an offset, if there is one, and of some others. -/
def highest (start : Option UInt64) (offsets : List UInt64) : Option UInt64 :=
  (start.toList ++ offsets).max?

/-- Acknowledgements as they start: none over an empty store, or what a store has recorded. -/
inductive Started : Acks → UnreliableProgress → Prop where
  | new (failing : Bool) : Started {} { isFailing := failing }
  | recovered {before store : UnreliableProgress} {next : UInt64} {acks : Acks} :
      recover before next = (.ok acks, store) → Started acks store

/-- What shows is what is recorded. -/
def Agrees (acks : Acks) (store : UnreliableProgress) : Prop :=
  ∀ c, acks.progress c = store.progress.get? c

variable {acks : Acks} {store : UnreliableProgress}

/-! ## Starting -/

theorem tracks_unreliable :
    Tracks fun (store : UnreliableProgress) p => store.progress = p := by
  refine ⟨?_, ?_⟩
  · rintro store p rfl
    rfl
  · rintro store p rfl c offset
    change (∃ cause failed, store.attempt (.rewind c offset) = _ ∧ _) ∨
      ∃ rewound, store.attempt (.rewind c offset) = _ ∧ _
    unfold UnreliableProgress.attempt
    split
    · exact .inl ⟨_, _, rfl, rfl⟩
    · exact .inr ⟨_, rfl, rfl⟩

theorem Started.agrees (h : Started acks store) : Agrees acks store := by
  cases h with
  | new failing => exact fun _ => rfl
  | recovered recovering =>
      obtain ⟨_, rfl, -, -, progress⟩ := recover_progress tracks_unreliable rfl recovering
      exact progress

theorem Agrees.all_eq (h : Agrees acks store) : acks.all = ProgressSink.load store :=
  all_eq_of_progress store.progress.sorted h

/-! ## Acknowledging -/

/-- Everything that an acknowledgement over the store can do. -/
theorem acknowledge_attempt (acks : Acks) (store : UnreliableProgress) (c : Consumer)
    (offset next : UInt64) :
    (next ≤ offset ∧
      acknowledge acks store c offset next = (.error (.outOfRange offset next), acks, store)) ∨
    (offset < next ∧ ∃ current, acks.progress c = some current ∧ offset ≤ current ∧
      acknowledge acks store c offset next = (.ok current, acks, store)) ∨
    (offset < next ∧ acks.Raises c offset ∧ store.isFailing = true ∧
      acknowledge acks store c offset next =
        (.error (.store (.io .deviceFailure)), acks.reserve c, store)) ∨
    (offset < next ∧ acks.Raises c offset ∧ store.isFailing = false ∧
      acknowledge acks store c offset next =
        (.ok offset, ⟨acks.slots.insert c (offset + 1)⟩,
          { store with progress := store.progress.record c offset })) := by
  rcases acknowledge_cases acks store c offset next with
    refused | stale | ⟨inside, higher, outcome⟩
  · exact .inl refused
  · exact .inr (.inl stale)
  · by_cases failing : store.isFailing = true
    · have attempt : ProgressSink.record store c offset = (.error (.io .deviceFailure), store) :=
        if_pos failing
      rw [attempt] at outcome
      rcases outcome with ⟨cause, failed, tried, refused⟩ | ⟨recorded, tried, -⟩
      · cases tried
        exact .inr (.inr (.inl ⟨inside, higher, failing, refused⟩))
      · cases tried
    · have attempt : ProgressSink.record store c offset =
          (.ok (), { store with progress := store.progress.record c offset }) := if_neg failing
      rw [attempt] at outcome
      rcases outcome with ⟨cause, failed, tried, -⟩ | ⟨recorded, tried, raised⟩
      · cases tried
      · cases tried
        exact .inr (.inr (.inr ⟨inside, higher, eq_false_of_ne_true failing, raised⟩))

/-- Slots that show the new offset agree with a store that recorded it. -/
theorem Agrees.insert (h : Agrees acks store) {c : Consumer} {offset next : UInt64}
    (inside : offset < next) (higher : acks.Raises c offset) :
    Agrees ⟨acks.slots.insert c (offset + 1)⟩
      { store with progress := store.progress.record c offset } := by
  intro k
  rw [progress_insert (add_one_lt_of_lt inside), Progress.get?_record, higher.top_eq (h c), h k]

/-- A step leaves what shows and what is recorded in agreement. -/
theorem Agrees.take (h : Agrees acks store) (step : Step) :
    Agrees (take acks store step).2.1 (take acks store step).2.2 := by
  cases step with
  | switch failing => exact h
  | acknowledge c offset next =>
      rw [Acks.take]
      rcases acknowledge_attempt acks store c offset next with
        ⟨-, refused⟩ | ⟨-, current, -, -, stale⟩ | ⟨-, -, -, failed⟩ | ⟨inside, higher, -, raised⟩
      · rw [refused]
        exact h
      · rw [stale]
        exact h
      · rw [failed]
        exact fun k => (progress_reserve acks c k).trans (h k)
      · rw [raised]
        exact h.insert inside higher

theorem Agrees.takeAll (h : Agrees acks store) (steps : List Step) :
    Agrees (takeAll acks store steps).2.1 (takeAll acks store steps).2.2 := by
  induction steps generalizing acks store with
  | nil => exact h
  | cons step steps ih => exact ih (h.take step)

/-! ## The highest accepted offset -/

theorem highest_nil (start : Option UInt64) : highest start [] = start := by
  cases start <;> rfl

theorem highest_append (start : Option UInt64) (offsets others : List UInt64) :
    highest start (offsets ++ others) = highest (highest start offsets) others := by
  have max?_append : ∀ front back : List UInt64,
      (front ++ back).max? = (front.max?.toList ++ back).max? := by
    intro front back
    cases front with
    | nil => rfl
    | cons first rest =>
        rw [List.cons_append, List.max?_cons', List.max?_cons', List.foldl_append]
        rfl
  rw [highest, highest, highest, ← List.append_assoc, max?_append]

theorem highest_of_le {current offset : UInt64} (le : offset ≤ current) :
    highest (some current) [offset] = some current := by
  have top : max current offset = current := UInt64.toNat_inj.mp (by
    rw [Progress.toNat_max, Nat.max_eq_left (UInt64.le_iff_toNat_le.mp le)])
  exact congrArg some top

theorem highest_of_lt {start : Option UInt64} {offset : UInt64}
    (higher : ∀ current, start = some current → current < offset) :
    highest start [offset] = some offset := by
  cases start with
  | none => rfl
  | some current =>
      have le : current ≤ offset := UInt64.le_of_lt (higher current rfl)
      have top : max current offset = offset := if_pos le
      exact congrArg some top

/-- A step raises a consumer's progress to the offset that it acknowledged for it, if that is
higher, and else leaves it. -/
theorem take_progress (acks : Acks) (store : UnreliableProgress) (step : Step) (k : Consumer) :
    (take acks store step).2.1.progress k =
      highest (acks.progress k) (accepted? k (step, (take acks store step).1)).toList := by
  cases step with
  | switch failing => exact (highest_nil _).symm
  | acknowledge c offset next =>
      rw [take]
      rcases acknowledge_attempt acks store c offset next with
        ⟨-, refused⟩ | ⟨-, current, shown, low, stale⟩ | ⟨-, -, -, failed⟩ |
          ⟨inside, higher, -, raised⟩
      · rw [refused]
        exact (highest_nil _).symm
      · rw [stale]
        dsimp only [accepted?]
        split
        · rename_i same
          rw [← same, shown]
          exact (highest_of_le low).symm
        · exact (highest_nil _).symm
      · rw [failed]
        exact (progress_reserve acks c k).trans (highest_nil _).symm
      · rw [raised]
        dsimp only [accepted?]
        rw [progress_insert (add_one_lt_of_lt inside)]
        by_cases same : c = k
        · subst same
          rw [if_pos rfl, if_pos rfl]
          exact (highest_of_lt higher).symm
        · rw [if_neg (Ne.symm same), if_neg same]
          exact (highest_nil _).symm

/-- Steps raise a consumer's progress to the highest offset that they acknowledged for it. -/
theorem takeAll_progress (acks : Acks) (store : UnreliableProgress) (steps : List Step)
    (k : Consumer) :
    (takeAll acks store steps).2.1.progress k = highest (acks.progress k)
      ((steps.zip (takeAll acks store steps).1).filterMap (accepted? k)) := by
  induction steps generalizing acks store with
  | nil => exact (highest_nil _).symm
  | cons step steps ih =>
      have later := ih (take acks store step).2.1 (take acks store step).2.2
      rw [take_progress, ← highest_append] at later
      refine later.trans (congrArg _ ?_)
      change _ = ((step, (take acks store step).1) :: _).filterMap (accepted? k)
      rw [List.filterMap_cons]
      cases accepted? k (step, (take acks store step).1) <;> rfl

/-! ## Failing -/

/-- How an acknowledgement is answered: it is refused if it is out of range, or if the store fails
and it would raise something; then nothing shows that was not there. Else the answer is what shows
for the consumer afterwards. -/
theorem acknowledge_answer (acks : Acks) (store : UnreliableProgress) (c : Consumer)
    (offset next : UInt64) :
    ∃ result raised kept, acknowledge acks store c offset next = (result, raised, kept) ∧
      (∀ value, result = .ok value → raised.progress c = some value) ∧
      ((∃ fault, result = .error fault) ↔
        next ≤ offset ∨ (store.isFailing = true ∧ acks.Raises c offset)) ∧
      ∀ fault, result = .error fault →
        kept = store ∧ ∀ k, raised.progress k = acks.progress k := by
  rcases acknowledge_attempt acks store c offset next with
    ⟨outside, refused⟩ | ⟨inside, current, shown, low, stale⟩ | ⟨inside, higher, failing, failed⟩ |
      ⟨inside, higher, working, raised⟩
  · refine ⟨_, _, _, refused, ?_, ⟨fun _ => .inl outside, fun _ => ⟨_, rfl⟩⟩,
      fun _ _ => ⟨rfl, fun _ => rfl⟩⟩
    intro value given
    cases given
  · -- It raises nothing, so that the store is not asked and there is no ground to refuse it.
    refine ⟨_, _, _, stale, ?_, ⟨?_, ?_⟩, ?_⟩
    · rintro value ⟨⟩
      exact shown
    · rintro ⟨fault, ⟨⟩⟩
    · rintro (outside | ⟨-, higher⟩)
      · exact absurd inside (UInt64.not_lt.mpr outside)
      · exact absurd (higher current shown) (UInt64.not_lt.mpr low)
    · rintro fault ⟨⟩
  · refine ⟨_, _, _, failed, ?_, ⟨fun _ => .inr ⟨failing, higher⟩, fun _ => ⟨_, rfl⟩⟩,
      fun _ _ => ⟨rfl, progress_reserve acks c⟩⟩
    intro value given
    cases given
  · refine ⟨_, _, _, raised, ?_, ⟨?_, ?_⟩, ?_⟩
    · rintro value ⟨⟩
      rw [progress_insert (add_one_lt_of_lt inside), if_pos rfl]
    · rintro ⟨fault, ⟨⟩⟩
    · rintro (outside | ⟨failing, -⟩)
      · exact absurd inside (UInt64.not_lt.mpr outside)
      · rw [working] at failing
        cases failing
    · rintro fault ⟨⟩

/-- Over any steps from a start, with the store failing and working in whatever turn: all that shows
is recorded and the other way round, a consumer's progress is the highest of where it started and of
what was accepted for it, and a further acknowledgement, whatever it asks for, gives the progress
behind it or is refused: just when it is out of range, or would raise something that the store fails
to record. One that is refused leaves everything as it was. -/
theorem progress_is_highest_accepted (started : Started acks store) (steps : List Step) :
    ∃ replies final later, takeAll acks store steps = (replies, final, later) ∧
      final.all = ProgressSink.load later ∧
      (∀ c, final.progress c =
        highest (acks.progress c) ((steps.zip replies).filterMap (accepted? c))) ∧
      ∀ c offset next, ∃ result raised kept,
        acknowledge final later c offset next = (result, raised, kept) ∧
        (∀ value, result = .ok value → raised.progress c = some value) ∧
        ((∃ fault, result = .error fault) ↔
          next ≤ offset ∨ (later.isFailing = true ∧ final.Raises c offset)) ∧
        ∀ fault, result = .error fault →
          (∀ k, raised.progress k = final.progress k ∧
            raised.resumeOffset k = final.resumeOffset k) ∧
          raised.all = final.all ∧ raised.tracked = final.tracked ∧
          ProgressSink.load kept = ProgressSink.load later := by
  refine ⟨_, _, _, rfl, (started.agrees.takeAll steps).all_eq, takeAll_progress acks store steps,
    ?_⟩
  intro c offset next
  obtain ⟨result, raised, kept, answered, shows, refused, unchanged⟩ :=
    acknowledge_answer (takeAll acks store steps).2.1 (takeAll acks store steps).2.2 c offset next
  refine ⟨result, raised, kept, answered, shows, refused, ?_⟩
  intro fault failed
  obtain ⟨rfl, same⟩ := unchanged fault failed
  have all : raised.all = (takeAll acks store steps).2.1.all :=
    all_eq_of_progress (sorted_all _) fun k => (same k).trans (lookup_all _ k).symm
  refine ⟨fun k => ⟨same k, ?_⟩, all, ?_, rfl⟩
  · rw [resumeOffset, resumeOffset, same]
  · rw [tracked_eq, tracked_eq, all]

/-- Two consumers, of which the second has its slot made by an acknowledgement that fails. -/
def switching : List Step :=
  [.switch true, .acknowledge ⟨"a", by decide⟩ 3 9, .acknowledge ⟨"a", by decide⟩ 6 9,
    .acknowledge ⟨"b", by decide⟩ 0 9, .acknowledge ⟨"b", by decide⟩ 9 9, .switch false,
    .acknowledge ⟨"b", by decide⟩ 0 9, .acknowledge ⟨"a", by decide⟩ 6 7, .switch true]

/-- What was recorded up to 7 is taken over by a log of 5 events; of the acknowledgements behind it
the first raises nothing, three are refused and two are recorded. -/
theorem switching_keeps_accepted :
    ∃ acks store replies final later,
      recover { progress := Roster.empty.insert ⟨"a", by decide⟩ 7 : UnreliableProgress } 5 =
        (.ok acks, store) ∧
      takeAll acks store switching = (replies, final, later) ∧
      acks.progress ⟨"a", by decide⟩ = some 4 ∧
      final.progress ⟨"a", by decide⟩ = highest (some 4) [3, 6] ∧
      final.progress ⟨"b", by decide⟩ = highest none [0] ∧
      final.all = ProgressSink.load later ∧
      ∃ fault raised kept, acknowledge final later ⟨"b", by decide⟩ 1 9 =
        (.error fault, raised, kept) ∧ raised.all = final.all := by
  have recovering : recover
      { progress := Roster.empty.insert ⟨"a", by decide⟩ 7 : UnreliableProgress } 5 =
        (.ok _, _) := rfl
  obtain ⟨replies, final, later, taken, recorded, highest, answers⟩ :=
    progress_is_highest_accepted (.recovered recovering) switching
  obtain ⟨result, raised, kept, answered, -, refused, unchanged⟩ :=
    answers ⟨"b", by decide⟩ 1 9
  have onward : ∃ fault, result = .error fault := by
    refine refused.mpr (.inr ⟨?_, ?_⟩)
    · cases taken
      rfl
    · intro current shown
      cases taken
      cases shown
      decide
  obtain ⟨fault, failed⟩ := onward
  refine ⟨_, _, replies, final, later, recovering, taken, rfl, ?_, ?_, recorded, fault, raised,
    kept, failed ▸ answered, (unchanged fault failed).2.1⟩
  · rw [highest]
    cases taken
    rfl
  · rw [highest]
    cases taken
    rfl

end ChangeLog.Acks
