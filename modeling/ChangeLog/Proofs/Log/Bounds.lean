/-
  Offsets that readers hold. A log may be opened over any two stores, also where progress was
  recorded far past the end of the events; from then on no slot and no cursor lies past the end, and
  no slot is ever lowered. One call keeps both (`slot_perform`), so any run does, and the end itself
  only moves up. A consumer can therefore always be subscribed where it resumes
  (`offsets_inside`).
-/
import ChangeLog.Proofs.Log.Delivery
import ChangeLog.Proofs.Acks

namespace ChangeLog.Log

variable {log : Log} {disk : Disk}

/-- No consumer resumes past the end of the log. -/
def Inside (log : Log) : Prop :=
  ∀ c, (log.acks.slot c).toNat ≤ log.events.events.length

theorem append_acks (log : Log) (disk : Disk) (now : Time.Instant) (draft : Draft) :
    (log.append disk now draft).2.1.acks = log.acks := by
  unfold append
  split
  · rfl
  · split
    · rfl
    · rfl

/-- What a call can do to a slot: it is not lowered, and not set past the end of the log. -/
theorem slot_perform (log : Log) (disk : Disk) (call : Call) (c : Consumer) :
    log.acks.slot c ≤ (perform log disk call).2.1.acks.slot c ∧
      ((perform log disk call).2.1.acks.slot c = log.acks.slot c ∨
        (perform log disk call).2.1.acks.slot c ≤ log.nextOffset) := by
  -- Only an acknowledgement reaches the slots.
  have unchanged : ∀ {later : Log}, later.acks = log.acks →
      log.acks.slot c ≤ later.acks.slot c ∧
        (later.acks.slot c = log.acks.slot c ∨ later.acks.slot c ≤ log.nextOffset) := by
    intro later same
    rw [same]
    exact ⟨UInt64.le_refl _, .inl rfl⟩
  cases call with
  | append now draft => exact unchanged (append_acks log disk now draft)
  | subscribe fresh start owner =>
      obtain ⟨cursors, same⟩ := subscribe_cursors log fresh start owner
      have same : (log.subscribe fresh start owner).2.acks = log.acks := by rw [same]
      exact unchanged same
  | read id max =>
      obtain ⟨cursors, same⟩ := read_cursors log id max
      have same : (log.read id max).2.acks = log.acks := by rw [same]
      exact unchanged same
  | unsubscribe id =>
      obtain ⟨cursors, same⟩ := unsubscribe_cursors log id
      have same : (log.unsubscribe id).2.acks = log.acks := by rw [same]
      exact unchanged same
  | acknowledge consumer offset =>
      rw [perform]
      dsimp only
      unfold acknowledge
      split
      · exact unchanged rfl
      · exact Acks.slot_acknowledge log.acks (log.progress, disk) consumer c offset log.nextOffset
  | _ => exact unchanged rfl

theorem Inside.perform (h : Inside log) (disk : Disk) (call : Call) :
    Inside (perform log disk call).2.1 := by
  intro c
  have grows := (isPrefix_events_perform log disk call).length_le
  have next_le : log.nextOffset.toNat ≤ log.events.events.length :=
    log.events.toNat_nextOffset_le
  rcases (slot_perform log disk call c).2 with same | inside
  · rw [same]
    exact Nat.le_trans (h c) grows
  · exact Nat.le_trans (UInt64.le_iff_toNat_le.mp inside) (Nat.le_trans next_le grows)

theorem Inside.performAll (h : Inside log) (disk : Disk) (calls : List Call) :
    Inside (performAll log disk calls).2.1 := by
  induction calls generalizing log disk with
  | nil => exact h
  | cons call calls ih => exact ih (h.perform disk call) _

theorem slot_le_performAll (log : Log) (disk : Disk) (calls : List Call) (c : Consumer) :
    log.acks.slot c ≤ (performAll log disk calls).2.1.acks.slot c := by
  induction calls generalizing log disk with
  | nil => exact UInt64.le_refl _
  | cons call calls ih => exact UInt64.le_trans (slot_perform log disk call c).1 (ih _ _)

/-- A log that was just opened, over whatever stores: nobody resumes past its end, and it has no
cursors. -/
theorem inside_of_assemble {events : EventStore} {progress : ProgressStore} {maxBatch : UInt64}
    {opened : Disk} (assembled : assemble events progress disk maxBatch = (.ok log, opened)) :
    Inside log ∧ log.cursors = {} := by
  unfold assemble at assembled
  split at assembled
  · cases assembled
  · rename_i acks kept later recovering
    cases assembled
    refine ⟨?_, rfl⟩
    intro c
    exact Nat.le_trans (UInt64.le_iff_toNat_le.mp (Acks.slot_recover_le recovering c))
      events.toNat_nextOffset_le

/-- Where nobody resumes past the end, everybody can be subscribed where they resume. (Offsets have
to be able to count the events.) -/
theorem Inside.subscribe (h : Inside log) (isOpen : log.isClosed = false)
    (numbered : log.events.events.length < UInt64.size) (c : Consumer) (fresh : CursorId)
    (owner : Option String) :
    ∃ start later, log.resumeOffset c = .ok start ∧
      log.subscribe fresh start owner = (.ok fresh, later) := by
  have isOpen : log.events.isClosed = false := isOpen
  have next_eq : log.events.nextOffset.toNat = log.events.events.length :=
    UInt64.toNat_ofNat_of_lt' numbered
  have near : ¬ log.events.nextOffset < log.acks.slot c := by
    rw [UInt64.not_lt, UInt64.le_iff_toNat_le, next_eq]
    exact h c
  refine ⟨log.acks.slot c, (log.subscribe fresh (log.acks.slot c) owner).2, ?_, ?_⟩
  · rw [resumeOffset, whenOpen, isOpen, Acks.resumeOffset_eq]
    rfl
  · rw [Log.subscribe, isOpen, if_neg Bool.false_ne_true, Cursors.subscribe, if_neg near]

/-- Over any run of calls on a log that was opened over any two stores: all progress is that of an
event of the log, every cursor lies between where it was opened and the end of the log, progress is
never lowered, and while the log is open every consumer can be subscribed where it resumes. (The
last, and the bounds by the next offset, need that offsets can count the events.) -/
theorem offsets_inside {events : EventStore} {progress : ProgressStore} {maxBatch : UInt64}
    {opened : Disk} (assembled : assemble events progress disk maxBatch = (.ok log, opened))
    (calls : List Call) :
    ∃ answers final later, performAll log opened calls = (answers, final, later) ∧
      (∀ c offset, final.acks.progress c = some offset →
        offset.toNat < final.events.events.length) ∧
      (∀ id cursor, final.cursors.find? id = some cursor →
        cursor.start ≤ cursor.position ∧
        cursor.position.toNat ≤ final.events.events.length) ∧
      (∀ more replies still last, performAll final later more = (replies, still, last) →
        ∀ c offset, final.acks.progress c = some offset →
          ∃ higher, still.acks.progress c = some higher ∧ offset ≤ higher) ∧
      (final.events.events.length < UInt64.size →
        (∀ c offset, final.acks.progress c = some offset → offset < final.nextOffset) ∧
        (∀ id cursor, final.cursors.find? id = some cursor →
          cursor.position ≤ final.nextOffset) ∧
        (final.isClosed = false → ∀ c fresh owner, ∃ start next,
          final.resumeOffset c = .ok start ∧
            final.subscribe fresh start owner = (.ok fresh, next))) := by
  obtain ⟨start, empty⟩ := inside_of_assemble assembled
  have inside := start.performAll opened calls
  have progress_lt : ∀ c offset,
      (performAll log opened calls).2.1.acks.progress c = some offset →
        offset.toNat < (performAll log opened calls).2.1.events.events.length := by
    intro c offset shown
    have bound := inside c
    rw [Acks.progress_eq_some_iff.mp shown] at bound
    exact bound
  have position_le : ∀ id cursor,
      (performAll log opened calls).2.1.cursors.find? id = some cursor →
        cursor.start ≤ cursor.position ∧
          cursor.position.toNat ≤ (performAll log opened calls).2.1.events.events.length := by
    intro id cursor found
    obtain ⟨-, ordered, bound, -⟩ := (tracked_nil empty).performAll opened calls cursor found
    exact ⟨UInt64.le_iff_toNat_le.mpr ordered, bound⟩
  refine ⟨_, _, _, rfl, progress_lt, position_le, ?_, ?_⟩
  · intro more replies still last ran c offset shown
    have le := slot_le_performAll (performAll log opened calls).2.1
      (performAll log opened calls).2.2 more c
    rw [ran] at le
    exact Acks.exists_progress_of_slot_le le shown
  · intro numbered
    have next_eq : (performAll log opened calls).2.1.nextOffset.toNat =
        (performAll log opened calls).2.1.events.events.length :=
      UInt64.toNat_ofNat_of_lt' numbered
    refine ⟨?_, ?_, ?_⟩
    · intro c offset shown
      rw [UInt64.lt_iff_toNat_lt, next_eq]
      exact progress_lt c offset shown
    · intro id cursor found
      rw [UInt64.le_iff_toNat_le, next_eq]
      exact (position_le id cursor found).2
    · exact fun isOpen c fresh owner => inside.subscribe isOpen numbered c fresh owner

/-- Progress of a consumer at the greatest of all offsets. -/
def farAhead (c : Consumer) : ProgressStore :=
  { progress := Roster.empty.insert c (UInt64.ofNat (UInt64.size - 1)) }

/-- Calls that make the log longer and read all of it. -/
def extending (now : Time.Instant) : List Call :=
  [.append now { type := "put" }, .subscribe ⟨1⟩ 0 none, .read ⟨1⟩ 9]

/-- A consumer that was far ahead of a log of one event is taken back to its end, and goes on from
there when the log grows. -/
theorem far_ahead_comes_back :
    ∃ log opened answers final later next,
      assemble { events := [Event.stamp { type := "put" } 0 ⟨5, 0, by decide⟩] }
        (farAhead ⟨"c", by decide⟩) {} 100 = (.ok log, opened) ∧
      performAll log opened (extending ⟨6, 0, by decide⟩) = (answers, final, later) ∧
      log.acks.progress ⟨"c", by decide⟩ = some 0 ∧
      final.cursors.find? ⟨1⟩ = some { owner := none, start := 0, position := 2 } ∧
      (2 : UInt64) ≤ final.nextOffset ∧
      final.resumeOffset ⟨"c", by decide⟩ = .ok 1 ∧
      final.subscribe ⟨2⟩ 1 none = (.ok ⟨2⟩, next) := by
  have assembled : assemble { events := [Event.stamp { type := "put" } 0 ⟨5, 0, by decide⟩] }
      (farAhead ⟨"c", by decide⟩) {} 100 = (.ok _, _) := rfl
  obtain ⟨answers, final, later, ran, -, -, -, bounds⟩ :=
    offsets_inside assembled (extending ⟨6, 0, by decide⟩)
  have final_eq : final = _ := (congrArg (fun r => r.2.1) ran).symm
  have count : final.events.events.length = 2 := by
    rw [final_eq]
    rfl
  have found : final.cursors.find? ⟨1⟩ = some { owner := none, start := 0, position := 2 } := by
    rw [final_eq]
    rfl
  have isOpen : final.isClosed = false := by
    rw [final_eq]
    rfl
  have one : final.resumeOffset ⟨"c", by decide⟩ = .ok 1 := by
    rw [final_eq]
    rfl
  obtain ⟨-, position, resumes⟩ := bounds (by rw [count]; decide)
  obtain ⟨start, next, resume, subscribed⟩ := resumes isOpen ⟨"c", by decide⟩ ⟨2⟩ none
  rw [one] at resume
  cases resume
  exact ⟨_, _, answers, final, later, next, assembled, ran, by decide +kernel, found,
    position _ _ found, one, subscribed⟩

end ChangeLog.Log
