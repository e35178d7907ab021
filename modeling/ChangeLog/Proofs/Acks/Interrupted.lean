/-
  Taking over recorded progress that is interrupted and tried again. The sink is changed while a
  copy of what it held is gone through, and may fail at any consumer. Wherever it fails, each
  consumer's recorded progress is as it was, or is what the end of the log leaves of it (`Halfway`):
  one rewind keeps this (`Halfway.rewind`), and so does going through any part of the copy
  (`settle_halfway`). Settling twice is settling once, so that from anything halfway the same
  acknowledgements are taken over and the same progress is left (`recover_eq_of_halfway`).
-/
import ChangeLog.Proofs.Acks

namespace ChangeLog.Acks

variable {acks taken : Acks} {next : UInt64} {p q : Progress}

/-! ## Halfway -/

/-- Each consumer's progress is as it was, or is what a log that ends at `next` leaves of it. -/
def Halfway (next : UInt64) (p q : Progress) : Prop :=
  ∀ c, q.get? c = p.get? c ∨ q.get? c = (p.get? c).bind (settled next)

theorem settled_of_lt {offset : UInt64} (inside : offset < next) :
    settled next offset = some offset := if_pos inside

theorem settled_of_le {offset : UInt64} (past : next ≤ offset) :
    settled next offset = if next = 0 then none else some (next - 1) :=
  if_neg (UInt64.not_lt.mpr past)

/-- Settling what is settled leaves it as it is. -/
theorem bind_settled_settled (next : UInt64) (recorded : Option UInt64) :
    (recorded.bind (settled next)).bind (settled next) = recorded.bind (settled next) := by
  cases left : recorded.bind (settled next) with
  | none => rfl
  | some kept =>
      obtain ⟨offset, -, settling⟩ := Option.bind_eq_some_iff.mp left
      exact settled_of_lt (lt_of_settled settling).2

theorem Halfway.refl (next : UInt64) (p : Progress) : Halfway next p p := fun _ => .inl rfl

/-- What is halfway is settled to the same. -/
theorem Halfway.settled_eq (half : Halfway next p q) (c : Consumer) :
    (q.get? c).bind (settled next) = (p.get? c).bind (settled next) := by
  rcases half c with same | already
  · rw [same]
  · rw [already, bind_settled_settled]

theorem Halfway.trans {r : Progress} (half : Halfway next p q) (further : Halfway next q r) :
    Halfway next p r := by
  intro c
  rcases further c with same | already
  · rw [same]
    exact half c
  · exact .inr (already.trans (half.settled_eq c))

/-- Rewinding a consumer that was past the end to the end keeps everything halfway. -/
theorem Halfway.rewind (half : Halfway next p q) {c : Consumer} {offset : UInt64}
    (recorded : p.get? c = some offset) (past : next ≤ offset) :
    Halfway next p (Progress.rewind q c (if next = 0 then none else some (next - 1))) := by
  intro k
  rw [Progress.get?_rewind]
  split
  · rename_i same
    rw [same, recorded, Option.bind_some, settled_of_le past]
    exact .inr rfl
  · exact half k

section Sink

variable {σ : Type} [ProgressSink σ] {Holds : σ → Progress → Prop} {sink later : σ}

/-- Wherever settling stops, whether it fails there or has come to the end, the sink holds something
halfway. -/
theorem settle_halfway (tracks : Tracks Holds) (held : Holds sink q) (half : Halfway next p q)
    {entries : List (Consumer × UInt64)} (recorded : ∀ e ∈ entries, p.get? e.1 = some e.2)
    {result : Except LogError Acks} (settling : settle next entries acks sink = (result, later)) :
    ∃ left, Holds later left ∧ Halfway next p left := by
  induction entries generalizing acks sink q with
  | nil =>
      cases settling
      exact ⟨q, held, half⟩
  | cons entry rest ih =>
      obtain ⟨c, offset⟩ := entry
      have here : p.get? c = some offset := recorded _ List.mem_cons_self
      have there := fun e he => recorded e (List.mem_cons_of_mem _ he)
      rw [settle] at settling
      split at settling
      · exact ih held half there settling
      · rename_i outside
        dsimp only at settling
        rcases tracks.rewind_cases held c (if next = 0 then none else some (next - 1)) with
          ⟨cause, failed, refused, kept⟩ | ⟨rewound, rewinding, kept⟩
        · rw [refused] at settling
          cases settling
          exact ⟨q, kept, half⟩
        · rw [rewinding] at settling
          have half := half.rewind here (UInt64.not_lt.mp outside)
          split at settling
          · rename_i failed
            cases failed
          · rename_i done
            cases done
            split at settling
            all_goals exact ih kept half there settling

/-- Taking over, whether it fails or not, leaves the sink with something halfway. -/
theorem recover_halfway (tracks : Tracks Holds) (held : Holds sink p)
    {result : Except LogError Acks} (recovering : recover sink next = (result, later)) :
    ∃ left, Holds later left ∧ Halfway next p left := by
  rw [recover, tracks.load_eq held] at recovering
  exact settle_halfway tracks held (.refl next p)
    (fun _ he => Roster.lookup_eq_some_of_mem p.sorted he) recovering

/-! ## Trying again -/

/-- Attempts to take over that have all failed. Before the next one the sink may be mended in any
way that leaves recorded progress as it is, or carries out more of the rewinds. -/
inductive Attempts (Holds : σ → Progress → Prop) (next : UInt64) : σ → σ → Prop where
  | start (sink : σ) : Attempts Holds next sink sink
  | again {first sink failed mended : σ} {fault : LogError} {p q : Progress} :
      Attempts Holds next first sink → recover sink next = (.error fault, failed) →
      Holds failed p → Holds mended q → Halfway next p q → Attempts Holds next first mended

/-- What a sink holds is decided by what it loads. -/
theorem Tracks.eq_of_holds (tracks : Tracks Holds) (held : Holds sink p) (held' : Holds sink q) :
    p = q := by
  have entries := (tracks.load_eq held).symm.trans (tracks.load_eq held')
  refine Roster.ext_get? fun c => ?_
  rw [Roster.get?, Roster.get?, entries]

theorem Attempts.halfway (tracks : Tracks Holds) {mended : σ}
    (attempts : Attempts Holds next sink mended) (held : Holds sink p) :
    ∃ left, Holds mended left ∧ Halfway next p left := by
  induction attempts with
  | start => exact ⟨p, held, .refl next p⟩
  | again _ recovering before after mending ih =>
      obtain ⟨between, holding, half⟩ := ih
      obtain ⟨left, stopped, further⟩ := recover_halfway tracks holding recovering
      cases tracks.eq_of_holds stopped before
      exact ⟨_, after, (half.trans further).trans mending⟩

/-! ## Succeeding -/

/-- What is taken over of a list of recorded progress by a log that ends at `next`. -/
structure TakenOver (next : UInt64) (listed : List (Consumer × UInt64)) (taken : Acks) : Prop where
  inside : ∀ c offset, (c, offset) ∈ listed → offset < next → taken.progress c = some offset
  past : ∀ c offset, (c, offset) ∈ listed → next ≤ offset → 0 < next →
    taken.progress c = some (next - 1)
  empty : next = 0 → ∀ c, taken.progress c = none
  unlisted : ∀ c, (∀ offset, (c, offset) ∉ listed) → taken.progress c = none

theorem takenOver_of_progress
    (progress : ∀ c, taken.progress c = (p.get? c).bind (settled next)) :
    TakenOver next p.entries taken := by
  have recorded : ∀ {c offset}, (c, offset) ∈ p.entries →
      taken.progress c = settled next offset := by
    intro c offset listed
    rw [progress, Roster.get?, Roster.lookup_eq_some_of_mem p.sorted listed, Option.bind_some]
  refine ⟨?_, ?_, ?_, ?_⟩
  · intro c offset listed inside
    rw [recorded listed, settled_of_lt inside]
  · intro c offset listed past positive
    rw [recorded listed, settled_of_le past, if_neg (UInt64.pos_iff_ne_zero.mp positive)]
  · rintro rfl c
    rw [progress]
    cases p.get? c with
    | none => rfl
    | some offset => exact (settled_of_le (UInt64.zero_le ..)).trans (if_pos rfl)
  · intro c missing
    rw [progress]
    cases found : p.get? c with
    | none => rfl
    | some offset =>
        obtain ⟨front, back, listed, -⟩ := List.lookup_eq_some_iff.mp found
        exact absurd (by rw [listed]; exact List.mem_append_cons_self) (missing offset)

/-- Sinks of any two kinds, of which one holds something halfway from what the other one holds: the
same is taken over from both, and they are left with the same. -/
theorem recover_eq_of_halfway {τ : Type} [ProgressSink τ] {Keeps : τ → Progress → Prop}
    (tracks : Tracks Holds) (tracks' : Tracks Keeps) {other kept : τ} {taken' : Acks}
    (held : Holds sink q) (held' : Keeps other p) (half : Halfway next p q)
    (recovering : recover sink next = (.ok taken, later))
    (recovering' : recover other next = (.ok taken', kept)) :
    taken' = taken ∧ ProgressSink.load kept = ProgressSink.load later := by
  obtain ⟨left, holding, settling, slots, -⟩ := recover_progress tracks held recovering
  obtain ⟨left', holding', settling', slots', -⟩ := recover_progress tracks' held' recovering'
  have same : left' = left := Roster.ext_get? fun c => by
    rw [settling', settling, half.settled_eq]
  subst same
  exact ⟨ext_slots fun c => (slots' c).trans (slots c).symm,
    (tracks'.load_eq holding').trans (tracks.load_eq holding).symm⟩

/-- Taking over again, by a log that has not become shorter, from any sink that lists what the first
one was left with: it is not asked to rewind anything, whatever it would do, and the same is taken
over. -/
theorem recover_again (tracks : Tracks Holds) (held : Holds sink p)
    (recovering : recover sink next = (.ok taken, later)) {more : UInt64} (le : next ≤ more)
    {τ : Type} [ProgressSink τ] {other : τ}
    (same : ProgressSink.load other = ProgressSink.load later) :
    recover other more = (.ok taken, other) := by
  obtain ⟨left, holding, settling, slots, -⟩ := recover_progress tracks held recovering
  have inside : ∀ c offset, left.get? c = some offset → offset < more := by
    intro c offset found
    rw [settling] at found
    obtain ⟨old, -, kept⟩ := Option.bind_eq_some_iff.mp found
    exact UInt64.lt_of_lt_of_le (lt_of_settled kept).2 le
  have listed : ∀ e ∈ left.entries, e.2 < more := fun e he =>
    inside e.1 e.2 (Roster.lookup_eq_some_of_mem left.sorted he)
  obtain ⟨again, unchanged⟩ := settle_of_lt listed {}
  have onward : recover later more = (.ok again, later) := by
    rw [recover, tracks.load_eq holding]
    exact unchanged later
  obtain ⟨left', holding', -, slots', -⟩ := recover_progress tracks holding onward
  cases tracks.eq_of_holds holding holding'
  have equal : again = taken := ext_slots fun c => (slots' c).trans (slots c).symm
  rw [recover, same, tracks.load_eq holding, ← equal]
  exact unchanged other

end Sink

/-! ## Restarting -/

/-- A progress store in memory that holds this progress. -/
def InMemory : ProgressStore × Disk → Progress → Prop
  | (store, _), p => store = { progress := p }

theorem tracks_inMemory : Tracks InMemory := by
  refine ⟨?_, ?_⟩
  · rintro ⟨store, disk⟩ p rfl
    rfl
  · rintro ⟨store, disk⟩ p rfl c offset
    exact .inr ⟨({ progress := p.rewind c offset }, disk), rfl, rfl⟩

/-- Taking over what a store in memory has recorded is never interrupted. -/
theorem recover_inMemory (p : Progress) (disk : Disk) (next : UInt64) :
    ∃ taken whole,
      recover (({ progress := p } : ProgressStore), disk) next = (.ok taken, whole) := by
  have held : InMemory ({ progress := p }, disk) p := rfl
  rcases recover_holds tracks_inMemory held next with
    ⟨fault, failed, -, ⟨store, disk⟩, q, c, offset, cause, rfl, refused⟩ |
      ⟨taken, whole, -, recovering, -⟩
  · cases refused
  · exact ⟨taken, whole, recovering⟩

section Sink

variable {σ : Type} [ProgressSink σ] {Holds : σ → Progress → Prop} {sink mended later : σ}

/-- Over any sink, after any number of attempts that failed anywhere: where taking over succeeds,
each consumer's progress is what it was before the first attempt, but no further than the end of the
log, and it is what the sink lists afterwards. Taking over again, also by a longer log, rewinds
nothing and gives the same. An attempt that is never interrupted, be it over such a sink or over a
store in memory, gives the same acknowledgements and leaves the same progress. -/
theorem recovery_restartable (tracks : Tracks Holds) (held : Holds sink p)
    (attempts : Attempts Holds next sink mended)
    (recovering : recover mended next = (.ok taken, later)) :
    TakenOver next (ProgressSink.load sink) taken ∧
      taken.all = ProgressSink.load later ∧
      (∀ more, next ≤ more → ∀ {τ : Type} [ProgressSink τ] (other : τ),
        ProgressSink.load other = ProgressSink.load later →
          recover other more = (.ok taken, other)) ∧
      (∀ sound taken' kept, Holds sound p → recover sound next = (.ok taken', kept) →
        taken' = taken ∧ ProgressSink.load kept = ProgressSink.load later) ∧
      ∀ disk : Disk, ∃ whole,
        recover (({ progress := p } : ProgressStore), disk) next = (.ok taken, whole) ∧
          ProgressSink.load whole = ProgressSink.load later := by
  obtain ⟨left, holding, half⟩ := attempts.halfway tracks held
  obtain ⟨settled, kept, settling, -, progress⟩ := recover_progress tracks holding recovering
  refine ⟨?_, ?_, ?_, ?_, ?_⟩
  · rw [tracks.load_eq held]
    refine takenOver_of_progress fun c => ?_
    rw [progress, settling, half.settled_eq]
  · rw [tracks.load_eq kept]
    exact all_eq_of_progress settled.sorted progress
  · intro more le τ _ other same
    exact recover_again tracks holding recovering le same
  · intro sound taken' whole sound_holds uninterrupted
    exact recover_eq_of_halfway tracks tracks holding sound_holds half recovering uninterrupted
  · intro disk
    obtain ⟨taken', whole, uninterrupted⟩ := recover_inMemory p disk next
    have inMemory : InMemory ({ progress := p }, disk) p := rfl
    obtain ⟨rfl, same⟩ :=
      recover_eq_of_halfway tracks tracks_inMemory holding inMemory half recovering uninterrupted
    exact ⟨whole, uninterrupted, same⟩

end Sink

/-- Progress in memory that takes some more changes and fails from then on. -/
structure FadingProgress where
  progress : Progress
  changes : Nat
deriving DecidableEq

/-- Makes a change, or fails. -/
def FadingProgress.attempt (store : FadingProgress) (record : ProgressRecord) :
    Except StoreError Unit × FadingProgress :=
  match store.changes with
  | 0 => (.error (.io .deviceFailure), store)
  | changes + 1 => (.ok (), ⟨store.progress.apply record, changes⟩)

instance : ProgressSink FadingProgress where
  record store consumer offset := store.attempt (.ack consumer offset)
  rewind store consumer offset := store.attempt (.rewind consumer offset)
  load store := store.progress.entries

theorem tracks_fading : Tracks fun (store : FadingProgress) p => store.progress = p := by
  refine ⟨?_, ?_⟩
  · rintro store p rfl
    rfl
  · rintro ⟨progress, changes⟩ p rfl c offset
    cases changes with
    | zero => exact .inl ⟨_, _, rfl, rfl⟩
    | succ changes => exact .inr ⟨_, rfl, rfl⟩

/-- Three consumers, of which two are past the end of a log of 5 events. -/
def aheadOfFive : Progress :=
  ((Roster.empty.insert ⟨"p", by decide⟩ 7).insert ⟨"q", by decide⟩ 2).insert ⟨"r", by decide⟩ 5

/-- The store takes the first rewind and fails at the second one; when it works again, the rest is
done. -/
theorem interrupted_rewinds_restarted :
    ∃ fault failed taken later,
      recover (⟨aheadOfFive, 1⟩ : FadingProgress) 5 = (.error fault, failed) ∧
      failed.progress ≠ aheadOfFive ∧
      recover { failed with changes := 2 } 5 = (.ok taken, later) ∧
      taken.all = [(⟨"p", by decide⟩, 4), (⟨"q", by decide⟩, 2), (⟨"r", by decide⟩, 4)] ∧
      taken.all = ProgressSink.load later ∧
      (∀ disk : Disk, ∃ whole,
        recover (({ progress := aheadOfFive } : ProgressStore), disk) 5 = (.ok taken, whole)) ∧
      recover later 9 = (.ok taken, later) := by
  have first : recover (⟨aheadOfFive, 1⟩ : FadingProgress) 5 = (.error _, _) := rfl
  let mended : FadingProgress :=
    { (recover (⟨aheadOfFive, 1⟩ : FadingProgress) 5).2 with changes := 2 }
  have second : recover mended 5 = (.ok _, _) := rfl
  have attempts : Attempts (fun (store : FadingProgress) p => store.progress = p) 5
      ⟨aheadOfFive, 1⟩ mended := .again (.start _) first rfl rfl (.refl _ mended.progress)
  obtain ⟨-, all, again, -, whole⟩ := recovery_restartable tracks_fading rfl attempts second
  refine ⟨_, _, _, _, first, by decide, second, rfl, all, ?_, again 9 (by decide) _ rfl⟩
  intro disk
  obtain ⟨kept, uninterrupted, -⟩ := whole disk
  exact ⟨kept, uninterrupted⟩

end ChangeLog.Acks
