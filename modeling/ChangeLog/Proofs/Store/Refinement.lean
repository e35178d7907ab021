/-
  A store with a journal against a store in memory. Both are asked the same calls in the same order;
  where the first is dropped and opened again in its directory, the second only forgets that it was
  closed. Their answers are the same throughout (`journal_refines_memory`), whatever bytes the
  journal was first opened with.

  Proved for one call (`perform_backed`), and from it for any list of calls by induction; the
  invariant is `Backed`, and the store in memory is at every moment the other one without its
  journal.
-/
import ChangeLog.Proofs.Store.Events

namespace ChangeLog.EventStore

/-- What a store is asked. -/
inductive Call where
  | append (now : Time.Instant) (draft : Draft)
  | get (offset : UInt64)
  | slice (first stop : UInt64)
  | nextOffset
  | close
  | isClosed
  | reopen
deriving DecidableEq, Repr

/-- What it answers. -/
inductive Answer where
  | appended (result : Except StoreError Event)
  | event (result : Except StoreError (Option Event))
  | events (result : Except StoreError (List Event))
  | offset (next : UInt64)
  | closed
  | flag (isClosed : Bool)
  | reopened (result : Except StoreError Unit)

/-- Answers a call. `reopen` drops the store and opens it again; where that fails, what was there
before stays. -/
def perform (reopen : EventStore → Disk → Except StoreError EventStore × Disk)
    (store : EventStore) (disk : Disk) : Call → Answer × EventStore × Disk
  | .append now draft =>
    let (result, store, disk) := store.append disk now draft
    (.appended result, store, disk)
  | .get offset => (.event (store.get offset), store, disk)
  | .slice first stop => (.events (store.slice first stop), store, disk)
  | .nextOffset => (.offset store.nextOffset, store, disk)
  | .close => (.closed, store.close, disk)
  | .isClosed => (.flag store.isClosed, store, disk)
  | .reopen =>
    match reopen store disk with
    | (.error fault, disk) => (.reopened (.error fault), store, disk)
    | (.ok store, disk) => (.reopened (.ok ()), store, disk)

/-- Answers calls one after the other. -/
def performAll (reopen : EventStore → Disk → Except StoreError EventStore × Disk)
    (store : EventStore) (disk : Disk) : List Call → List Answer × EventStore × Disk
  | [] => ([], store, disk)
  | call :: calls =>
    let (answer, store, disk) := perform reopen store disk call
    let (answers, store, disk) := performAll reopen store disk calls
    (answer :: answers, store, disk)

/-- A store with a journal is opened again in its directory. -/
def fromDirectory (directory : String) (_ : EventStore) (disk : Disk) :
    Except StoreError EventStore × Disk := openIn disk directory

/-- A store in memory only forgets that it was closed. -/
def fromMemory (store : EventStore) (disk : Disk) : Except StoreError EventStore × Disk :=
  (.ok { store with isClosed := false }, disk)

/-- The events that were appended, in their order. -/
def accepted (answers : List Answer) : List Event :=
  answers.filterMap fun
    | .appended (.ok e) => some e
    | _ => none

/-- The store without its journal. -/
def unbacked (store : EventStore) : EventStore := { store with journal := none }

/-- A call whose record, if it appends one, takes less than 4 GiB. -/
def Call.Small : Call → Prop
  | .append now draft => Journal.Fits (Event.stamp draft 0 now)
  | _ => True

variable {disk start : Disk} {directory : String} {store : EventStore} {journal : Journal Event}

/-- A store in memory takes any event. -/
theorem append_unbacked (isOpen : store.isClosed = false) (disk : Disk) (now : Time.Instant)
    (draft : Draft) :
    store.unbacked.append disk now draft =
      (.ok (Event.stamp draft store.nextOffset now),
        { events := store.events ++ [Event.stamp draft store.nextOffset now] }, disk) := by
  obtain ⟨journal, events, isClosed⟩ := store
  cases isOpen
  rfl

/-- One call: the same answer from both, and both are in step behind it. -/
theorem perform_backed (h : Backed directory journal store disk) {call : Call} (small : call.Small)
    (other : Disk) :
    ∃ answer final grown later, perform (fromDirectory directory) store disk call =
        (answer, final, later) ∧
      Backed directory grown final later ∧
      perform fromMemory store.unbacked other call = (answer, final.unbacked, other) ∧
      final.events = store.events ++ accepted [answer] := by
  cases call with
  | append now draft =>
      cases isOpen : store.isClosed with
      | true =>
          refine ⟨.appended (.error .closed), store, journal, disk, ?_, h, ?_, ?_⟩
          · rw [perform, append, if_pos isOpen]
          · rw [perform, append, if_pos (show store.unbacked.isClosed = true from isOpen)]
          · exact (List.append_nil _).symm
      | false =>
          have fits : Journal.Fits (Event.stamp draft store.nextOffset now) :=
            Event.fits_stamp_iff.mp small
          obtain ⟨grown, later, appended, -, -, -, backed⟩ := append_ok h isOpen rfl fits
          refine ⟨.appended (.ok (Event.stamp draft store.nextOffset now)), _, grown, later, ?_,
            backed, ?_, rfl⟩
          · rw [perform, appended]
          · rw [perform, append_unbacked isOpen]
            rfl
  | close =>
      exact ⟨_, store.close, journal, disk, rfl, ⟨h.journal_eq, h.path_eq, h.holds, h.numbered⟩,
        rfl, (List.append_nil _).symm⟩
  | get _ | slice _ _ | nextOffset | isClosed =>
      exact ⟨_, store, journal, disk, rfl, h, rfl, (List.append_nil _).symm⟩
  | reopen =>
      -- The numbering in `Backed` is the one that opening checks.
      refine ⟨.reopened (.ok ()), { store with isClosed := false }, journal, disk, ?_,
        ⟨h.journal_eq, h.path_eq, h.holds, h.numbered⟩, rfl, (List.append_nil _).symm⟩
      rw [perform, fromDirectory, h.openIn_eq]

/-- Any calls: the same answers from both, and both are in step behind them. -/
theorem performAll_backed (h : Backed directory journal store disk) {calls : List Call}
    (small : ∀ call ∈ calls, call.Small) (other : Disk) :
    ∃ answers final grown later, performAll (fromDirectory directory) store disk calls =
        (answers, final, later) ∧
      Backed directory grown final later ∧
      performAll fromMemory store.unbacked other calls = (answers, final.unbacked, other) ∧
      final.events = store.events ++ accepted answers := by
  induction calls generalizing store journal disk with
  | nil => exact ⟨[], store, journal, disk, rfl, h, rfl, (List.append_nil _).symm⟩
  | cons call calls ih =>
      obtain ⟨answer, middle, between, halfway, first, backed, first', events⟩ :=
        perform_backed h (small call List.mem_cons_self) other
      obtain ⟨answers, final, grown, later, others, backed', others', events'⟩ :=
        ih backed fun call hc => small call (List.mem_cons_of_mem _ hc)
      refine ⟨answer :: answers, final, grown, later, ?_, backed', ?_, ?_⟩
      · rw [performAll, first]
        dsimp only
        rw [others]
      · rw [performAll, first']
        dsimp only
        rw [others']
      · rw [events', events, List.append_assoc, accepted, accepted, accepted,
          ← List.filterMap_append, List.singleton_append]

/-- A store in memory is never refused when it is opened again. -/
theorem reopened_fromMemory {calls : List Call} {result : Except StoreError Unit}
    (h : .reopened result ∈ (performAll fromMemory store disk calls).1) : result = .ok () := by
  induction calls generalizing store disk with
  | nil => cases h
  | cons call calls ih =>
      rcases List.mem_cons.mp h with here | later
      · cases call with
        | reopen =>
            cases here
            rfl
        | _ => cases here
      · exact ih later

/-- A store opened on any bytes answers every sequence of calls like the store in memory that was
given the recovered events and takes opening again for clearing the closed flag. Its events are
those that were recovered, then those that it accepted, each at its own offset. -/
theorem journal_refines_memory (stored : disk.Stored)
    (opened : openIn disk directory = (.ok store, start)) {calls : List Call}
    (small : ∀ call ∈ calls, call.Small) :
    ∃ answers final later,
      performAll (fromDirectory directory) store start calls = (answers, final, later) ∧
      performAll fromMemory { events := store.events } {} calls = (answers, final.unbacked, {}) ∧
      (∀ result, Answer.reopened result ∈ answers → result = .ok ()) ∧
      final.events = store.events ++ accepted answers ∧ Numbered final.events := by
  obtain ⟨journal, backed, isOpen, -⟩ := backed_of_openIn stored opened
  obtain ⟨answers, final, grown, later, run, backed', run', events⟩ :=
    performAll_backed backed small {}
  have start_eq : store.unbacked = { events := store.events } := by
    rw [unbacked, isOpen]
  rw [start_eq] at run'
  refine ⟨answers, final, later, run, run', ?_, events, backed'.numbered⟩
  intro result there
  have memory : .reopened result ∈
      (performAll fromMemory { events := store.events } {} calls).1 := by
    rw [run']
    exact there
  exact reopened_fromMemory memory

/-- An event, closing, opening again, the event read back, and another one with an earlier time. -/
def backInTime : List Call :=
  [.append ⟨25, 0, by decide⟩ { type := "put" }, .close, .reopen, .get 0,
    .append ⟨24, 0, by decide⟩ { type := "put" }]

/-- On a disk with nothing on it: the first event is read back, and the second one is accepted. -/
theorem new_journal_refines_memory :
    ∃ answers final later,
      performAll (fromDirectory "") { journal := some Journal.blank } Journal.blankDisk backInTime =
        (answers, final, later) ∧
      performAll fromMemory {} {} backInTime = (answers, final.unbacked, {}) ∧
      final.events = accepted answers ∧
      answers =
        [.appended (.ok (Event.stamp { type := "put" } 0 ⟨25, 0, by decide⟩)), .closed,
          .reopened (.ok ()),
          .event (.ok (some (Event.stamp { type := "put" } 0 ⟨25, 0, by decide⟩))),
          .appended (.ok (Event.stamp { type := "put" } 1 ⟨24, 0, by decide⟩))] ∧
      final.events.map (fun e => (e.offset, e.type, e.time.seconds)) =
        [(0, "put", 25), (1, "put", 24)] := by
  have small : ∀ call ∈ backInTime, call.Small := by
    intro call hc
    simp only [backInTime, List.mem_cons, List.not_mem_nil, or_false] at hc
    rcases hc with rfl | rfl | rfl | rfl | rfl
    · change (Wire.write (Event.stamp _ 0 _)).length < UInt32.size
      rw [Event.length_write]
      decide +kernel
    · trivial
    · trivial
    · trivial
    · change (Wire.write (Event.stamp _ 0 _)).length < UInt32.size
      rw [Event.length_write]
      decide +kernel
  obtain ⟨answers, final, later, run, memory, -, events, -⟩ :=
    journal_refines_memory Disk.stored_empty openIn_blank small
  have answers_eq : answers = (performAll fromMemory {} {} backInTime).1 := by rw [memory]
  refine ⟨answers, final, later, run, memory, events, answers_eq, ?_⟩
  rw [events, answers_eq]
  rfl

end ChangeLog.EventStore
