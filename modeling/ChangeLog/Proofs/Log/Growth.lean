/-
  How the events of a log change over a run. A call leaves them alone or puts one behind them that
  was stamped with the next offset (`events_perform`), and a restart finds them again. So in every
  state of a run the events are those that the log began with and, behind them, stamped ones, each
  at its own offset (`Standing.takeAll`), wherever the log came from.
-/
import ChangeLog.Proofs.Log.Refusal

namespace ChangeLog.Log

/-! ## Origins -/

/-- Where a log comes from, and what becomes of it at a restart: it was put together over any two
stores, the first of them numbered, and is taken up again as it is; or it was opened in a
directory, whatever the bytes of its files, and is opened there again. -/
inductive Begins : (Log → Disk → Except LogError Log × Disk) → Log → Disk → Prop where
  | assembled {events : EventStore} {progress : ProgressStore} {disk start : Disk}
      {maxBatch : UInt64} {log : Log} :
      EventStore.Numbered events.events →
      assemble events progress disk maxBatch = (.ok log, start) → Begins fromMemory log start
  | opened {disk start : Disk} {directory : String} {maxBatch : UInt64} {log : Log} :
      disk.Stored → disk.Unshared →
      openIn disk directory maxBatch = (.ok log, start) → Begins (fromDirectory directory) log start

/-- What every state of a run has: events at their own offsets, and where they are kept in a
directory, the files that a log can be opened from. -/
inductive Standing : (Log → Disk → Except LogError Log × Disk) → Log → Disk → Prop where
  | inMemory {log : Log} {disk : Disk} :
      EventStore.Numbered log.events.events → Standing fromMemory log disk
  | inDirectory {directory : String} {journal : Journal Event} {ledger : Journal ProgressRecord}
      {log : Log} {disk : Disk} :
      Live directory journal ledger log disk → Standing (fromDirectory directory) log disk

/-- The events of before and, behind them, others whose identifiers are right. -/
def Extends (events later : List Event) : Prop :=
  ∃ more, later = events ++ more ∧ ∀ e ∈ more, e.verifies = true

variable {reopen : Log → Disk → Except LogError Log × Disk} {log : Log} {disk : Disk}
  {events between later : List Event}

theorem Begins.standing (h : Begins reopen log disk) : Standing reopen log disk := by
  cases h with
  | assembled numbered assembled =>
      refine .inMemory ?_
      unfold assemble at assembled
      split at assembled
      · cases assembled
      · cases assembled
        exact numbered
  | opened stored unshared opened =>
      obtain ⟨journal, ledger, live⟩ := live_of_openIn stored unshared opened
      exact .inDirectory live

theorem Standing.numbered (h : Standing reopen log disk) :
    EventStore.Numbered log.events.events := by
  cases h with
  | inMemory numbered => exact numbered
  | inDirectory live => exact live.events.numbered

/-! ## What a turn adds -/

theorem Extends.refl (events : List Event) : Extends events events := by
  refine ⟨[], (List.append_nil events).symm, ?_⟩
  intro e there
  cases there

theorem Extends.trans (h : Extends events between) (h' : Extends between later) :
    Extends events later := by
  obtain ⟨more, rfl, verified⟩ := h
  obtain ⟨others, rfl, verified'⟩ := h'
  refine ⟨more ++ others, List.append_assoc .., ?_⟩
  intro e there
  rcases List.mem_append.mp there with first | second
  · exact verified e first
  · exact verified' e second

theorem Extends.isPrefix (h : Extends events later) : events <+: later := by
  obtain ⟨more, rfl, -⟩ := h
  exact List.prefix_append ..

/-- What a call does to the events: nothing, or it appends one that it stamps. -/
theorem events_perform (log : Log) (disk : Disk) (call : Call) :
    (perform log disk call).2.1.events.events = log.events.events ∨
      ∃ now draft, call = .append now draft ∧ (perform log disk call).2.1.events.events =
        log.events.events ++ [Event.stamp draft log.nextOffset now] := by
  rcases perform_cases log disk call with
    ⟨cursors, looked⟩ | ⟨now, draft, rfl⟩ | ⟨consumer, offset, rfl⟩ | rfl
  · rw [looked]
    exact .inl rfl
  · rw [perform]
    rcases appended : log.append disk now draft with ⟨fault | e, after, final⟩
    · have refused : refusal (log.append disk now draft).1 = some fault := by
        rw [appended]
        rfl
      have unchanged := append_refused refused
      rw [appended] at unchanged
      cases unchanged
      exact .inl rfl
    · obtain ⟨rfl, more⟩ := append_stamps appended
      exact .inr ⟨now, draft, rfl, more⟩
  · exact .inl (congrArg EventStore.events (acknowledge_keeps log disk consumer offset).1)
  · exact .inl rfl

theorem extends_perform (log : Log) (disk : Disk) (call : Call) :
    Extends log.events.events (perform log disk call).2.1.events.events := by
  rcases events_perform log disk call with same | ⟨now, draft, -, more⟩
  · rw [same]
    exact Extends.refl _
  · refine ⟨_, more, ?_⟩
    intro e there
    rw [List.mem_singleton.mp there]
    exact Event.verifies_stamp draft log.nextOffset now

theorem numbered_perform (numbered : EventStore.Numbered log.events.events) (disk : Disk)
    (call : Call) : EventStore.Numbered (perform log disk call).2.1.events.events := by
  rcases events_perform log disk call with same | ⟨now, draft, -, more⟩
  · rw [same]
    exact numbered
  · rw [more]
    exact numbered.append rfl

/-- One turn. A restart succeeds and finds the events of before. -/
theorem Standing.take (h : Standing reopen log disk) (turn : Turn) :
    Standing reopen (take reopen log disk turn).2.1 (take reopen log disk turn).2.2 ∧
      Extends log.events.events (take reopen log disk turn).2.1.events.events ∧
      ∀ result, (take reopen log disk turn).1 = .restarted result → result = .ok () := by
  cases turn with
  | call call =>
      refine ⟨?_, extends_perform log disk call, nofun⟩
      cases h with
      | inMemory numbered => exact .inMemory (numbered_perform numbered disk call)
      | inDirectory live =>
          obtain ⟨answer, grown, raised, final, later, performed, live', -⟩ :=
            perform_unbacked live call disk
          rw [Log.take, performed]
          exact .inDirectory live'
  | restart =>
      cases h with
      | inMemory numbered =>
          refine ⟨.inMemory numbered, Extends.refl _, ?_⟩
          rintro result same
          cases same
          rfl
      | inDirectory live =>
          obtain ⟨again, final, opened, same⟩ :=
            openIn_of_backed live.events live.files log.maxBatch
          obtain ⟨result, final', opened', -, -, -, found⟩ := openIn_of_files live.files log.maxBatch
          rw [opened] at opened'
          cases opened'
          obtain ⟨journal, ledger, live', -, -⟩ := found again rfl
          rw [Log.take, fromDirectory, opened]
          refine ⟨.inDirectory live', ?_, ?_⟩
          · rw [same]
            exact Extends.refl _
          · rintro result reopened
            cases reopened
            rfl

/-- Any turns. The events of the start stay where they are, and all that come behind them were
stamped. -/
theorem Standing.takeAll (h : Standing reopen log disk) (turns : List Turn) :
    Standing reopen (takeAll reopen log disk turns).2.1 (takeAll reopen log disk turns).2.2 ∧
      Extends log.events.events (takeAll reopen log disk turns).2.1.events.events ∧
      ∀ result, .restarted result ∈ (takeAll reopen log disk turns).1 → result = .ok () := by
  induction turns generalizing log disk with
  | nil => exact ⟨h, Extends.refl _, nofun⟩
  | cons turn turns ih =>
      obtain ⟨standing, grows, reopened⟩ := h.take turn
      obtain ⟨standing', grows', reopened'⟩ := ih standing
      refine ⟨standing', grows.trans grows', ?_⟩
      intro result there
      rcases List.mem_cons.mp there with here | behind
      · exact reopened result here.symm
      · exact reopened' result behind

end ChangeLog.Log
