/-
  A progress store with a journal against one in memory. The first leaves out records that raise
  nothing, applies the rest as it writes them, and makes its state anew from its journal whenever it
  is opened; the second takes the higher offset at every record, and does not notice the opening.
  Their answers are the same throughout (`journal_tracks_memory`), whatever bytes the journal was
  first opened with.

  Proved for one call (`perform_backed`), and from it for any list of calls by induction. The
  invariant is `Backed`: the progress of the store is the fold of its journal's records.
-/
import ChangeLog.Proofs.Run
import ChangeLog.Proofs.Store.Progress

namespace ChangeLog.ProgressStore

/-- What a store is asked. -/
inductive Call where
  | record (consumer : Consumer) (offset : UInt64)
  | rewind (consumer : Consumer) (offset : Option UInt64)
  | load
  | reopen
deriving DecidableEq, Repr

/-- What it answers. -/
inductive Answer where
  | changed (result : Except StoreError Unit)
  | entries (all : List (Consumer × UInt64))
  | reopened (result : Except StoreError Unit)

/-- Answers a call. `reopen` drops the store and opens it again; where that fails, what was there
before stays. -/
def perform (reopen : ProgressStore → Disk → Except StoreError ProgressStore × Disk)
    (state : ProgressStore × Disk) : Call → Answer × ProgressStore × Disk
  | .record consumer offset =>
    let (result, store, disk) := state.1.record state.2 consumer offset
    (.changed result, store, disk)
  | .rewind consumer offset =>
    let (result, store, disk) := state.1.rewind state.2 consumer offset
    (.changed result, store, disk)
  | .load => (.entries state.1.load, state)
  | .reopen =>
    match reopen state.1 state.2 with
    | (.error fault, disk) => (.reopened (.error fault), state.1, disk)
    | (.ok store, disk) => (.reopened (.ok ()), store, disk)

/-- A store with a journal is opened again in its directory. -/
def fromDirectory (directory : String) (_ : ProgressStore) (disk : Disk) :
    Except StoreError ProgressStore × Disk := openIn disk directory

/-- A store in memory stays as it is. -/
def fromMemory (store : ProgressStore) (disk : Disk) : Except StoreError ProgressStore × Disk :=
  (.ok store, disk)

/-- The answers of progress itself: a record raises it to the higher offset, a rewind sets it or
forgets the consumer, and opening again is nothing to it. -/
def reckon (p : Progress) : Call → Answer × Progress
  | .record consumer offset => (.changed (.ok ()), p.record consumer offset)
  | .rewind consumer offset => (.changed (.ok ()), p.rewind consumer offset)
  | .load => (.entries p.entries, p)
  | .reopen => (.reopened (.ok ()), p)

variable {disk start other : Disk} {directory : String} {store : ProgressStore}
  {journal : Journal ProgressRecord}

/-- One call to a store in memory is one to its progress. -/
theorem perform_unbacked (p : Progress) (disk : Disk) (call : Call) :
    perform fromMemory ({ progress := p }, disk) call =
      ((reckon p call).1, { progress := (reckon p call).2 }, disk) := by
  cases call with
  | record c offset =>
      rw [perform, reckon, record]
      dsimp only
      cases found : p.get? c with
      | none => rfl
      | some current =>
          dsimp only
          by_cases low : offset ≤ current
          · rw [if_pos low, Progress.record_of_le found low]
          · rw [if_neg low]
            rfl
  | _ => rfl

theorem runAll_unbacked (p : Progress) (disk : Disk) (calls : List Call) :
    runAll (perform fromMemory) ({ progress := p }, disk) calls =
      ((runAll reckon p calls).1, { progress := (runAll reckon p calls).2 }, disk) := by
  induction calls generalizing p with
  | nil => rfl
  | cons call calls ih =>
      rw [runAll_cons, perform_unbacked]
      dsimp only
      rw [ih]
      rfl

/-- A record that raises nothing is not written. -/
theorem perform_record_of_le (reopen : ProgressStore → Disk → Except StoreError ProgressStore × Disk)
    (disk : Disk) {c : Consumer} {current offset : UInt64}
    (found : store.progress.get? c = some current) (low : offset ≤ current) :
    perform reopen (store, disk) (.record c offset) = (.changed (.ok ()), store, disk) := by
  rw [perform, record]
  dsimp only
  rw [found]
  dsimp only
  rw [if_pos low]

/-- Opening again finds what there was, and writes nothing. -/
theorem perform_reopen (h : Backed directory journal store disk) :
    perform (fromDirectory directory) (store, disk) .reopen =
      (.reopened (.ok ()), store, disk) := by
  rw [perform, fromDirectory, h.openIn_eq]

/-- One call: the same answer as from progress itself, and the store holds what comes of it. -/
theorem perform_backed (h : Backed directory journal store disk) (call : Call) :
    ∃ final grown later, perform (fromDirectory directory) (store, disk) call =
        ((reckon store.progress call).1, final, later) ∧
      Backed directory grown final later ∧ final.progress = (reckon store.progress call).2 := by
  cases call with
  | record c offset =>
      obtain ⟨grown, raised, later, recorded, -, -, backed, found⟩ := record_ok h c offset
      refine ⟨raised, grown, later, ?_, backed, ?_⟩
      · rw [perform]
        dsimp only
        rw [recorded]
        rfl
      · refine Roster.ext_get? fun k => ?_
        rw [found, reckon, Progress.get?_record]
  | rewind c offset =>
      obtain ⟨grown, later, applied, -, -, backed⟩ := apply_ok h (.rewind c offset)
      refine ⟨_, grown, later, ?_, backed, rfl⟩
      rw [perform]
      dsimp only
      rw [rewind, applied]
      rfl
  | load => exact ⟨store, journal, disk, rfl, h, rfl⟩
  | reopen => exact ⟨store, journal, disk, perform_reopen h, h, rfl⟩

theorem runAll_backed (h : Backed directory journal store disk) (calls : List Call) :
    ∃ final grown later, runAll (perform (fromDirectory directory)) (store, disk) calls =
        ((runAll reckon store.progress calls).1, final, later) ∧
      Backed directory grown final later ∧
      final.progress = (runAll reckon store.progress calls).2 := by
  induction calls generalizing store journal disk with
  | nil => exact ⟨store, journal, disk, rfl, h, rfl⟩
  | cons call calls ih =>
      obtain ⟨middle, between, halfway, first, backed, same⟩ := perform_backed h call
      obtain ⟨final, grown, later, others, backed', same'⟩ := ih backed
      rw [same] at others same'
      refine ⟨final, grown, later, ?_, backed', same'⟩
      rw [runAll_cons, first]
      dsimp only
      rw [others]
      rfl

/-- No change of progress is refused, and no opening again. -/
theorem results_reckon {p : Progress} {calls : List Call} {result : Except StoreError Unit}
    (there : .changed result ∈ (runAll reckon p calls).1 ∨
      .reopened result ∈ (runAll reckon p calls).1) : result = .ok () := by
  induction calls generalizing p with
  | nil =>
      rcases there with there | there
      · cases there
      · cases there
  | cons call calls ih =>
      rw [runAll_cons, List.mem_cons, List.mem_cons] at there
      rcases there with (here | later) | (here | later)
      · cases call with
        | record c offset | rewind c offset =>
            cases here
            rfl
        | load | reopen => cases here
      · exact ih (.inl later)
      · cases call with
        | reopen =>
            cases here
            rfl
        | record c offset | rewind c offset | load => cases here
      · exact ih (.inr later)

/-- What is loaded is in the order of names, one entry a name, and the names are valid. -/
theorem entries_reckon {p : Progress} {calls : List Call} {all : List (Consumer × UInt64)}
    (there : .entries all ∈ (runAll reckon p calls).1) :
    Roster.Sorted all ∧ ∀ e ∈ all, Consumer.ofText e.1.name = .ok e.1 := by
  induction calls generalizing p with
  | nil => cases there
  | cons call calls ih =>
      rw [runAll_cons, List.mem_cons] at there
      rcases there with here | later
      · cases call with
        | load =>
            cases here
            exact ⟨p.sorted, fun e _ => e.1.ofText_name⟩
        | record c offset | rewind c offset | reopen => cases here
      · exact ih later

/-- A store that was opened on any bytes answers every sequence of calls, whatever the consumers and
offsets, like the store in memory that was given the recovered progress, and both like progress
itself, where a record takes the higher offset and a rewind is exact. What they load is in strict
order of names, all of them valid. In the state behind the calls, and so at any moment, a record
that does not raise its consumer's progress and opening again change nothing on the disk. -/
theorem journal_tracks_memory (stored : disk.Stored)
    (opened : openIn disk directory = (.ok store, start)) (calls : List Call) :
    ∃ answers final later,
      runAll (perform (fromDirectory directory)) (store, start) calls = (answers, final, later) ∧
      runAll (perform fromMemory) ({ progress := store.progress }, {}) calls =
        (answers, { progress := final.progress }, {}) ∧
      runAll reckon store.progress calls = (answers, final.progress) ∧
      (∀ result, Answer.changed result ∈ answers ∨ .reopened result ∈ answers →
        result = .ok ()) ∧
      (∀ all, .entries all ∈ answers →
        Roster.Sorted all ∧ ∀ e ∈ all, Consumer.ofText e.1.name = .ok e.1) ∧
      (∀ c current offset, final.progress.get? c = some current → offset ≤ current →
        perform (fromDirectory directory) (final, later) (.record c offset) =
          (.changed (.ok ()), final, later)) ∧
      perform (fromDirectory directory) (final, later) .reopen =
        (.reopened (.ok ()), final, later) := by
  obtain ⟨journal, backed, -⟩ := backed_of_openIn stored opened
  obtain ⟨final, grown, later, ran, backed', same⟩ := runAll_backed backed calls
  refine ⟨_, final, later, ran, ?_, ?_, fun _ => results_reckon, fun _ => entries_reckon,
    fun c current offset => perform_record_of_le _ later, perform_reopen backed'⟩
  · rw [runAll_unbacked, same]
  · rw [same]

/-- A record of one consumer, a frame with a wrong checksum, and a piece of a third frame. -/
def wornBytes : Bytes :=
  (Frame.ofRecord (ProgressRecord.ack ⟨"w", rfl⟩ 7)).write ++
    ((⟨0, [1]⟩ : Frame).write ++ [8, 0, 0])

/-- A disk with nothing but a file of these bytes. -/
def wornDisk : Disk := (({} : Disk).newFile ["progress.wal"]).setContent 0 wornBytes

/-- Records that raise nothing, rewinds and openings, for two consumers. -/
def mixedCalls : List Call :=
  [.record ⟨"w", rfl⟩ 3, .load, .rewind ⟨"w", rfl⟩ (some 1), .record ⟨"d", rfl⟩ 5, .reopen,
    .record ⟨"w", rfl⟩ 2, .rewind ⟨"d", rfl⟩ none, .reopen, .load]

/-- On these bytes the consumer is found at 7, and behind the calls it is at 2 and alone. -/
theorem worn_journal_tracks_memory :
    ∃ store start answers final later, openIn wornDisk "" = (.ok store, start) ∧
      runAll (perform (fromDirectory "")) (store, start) mixedCalls = (answers, final, later) ∧
      runAll (perform fromMemory) ({ progress := store.progress }, {}) mixedCalls =
        (answers, { progress := final.progress }, {}) ∧
      store.load = [(⟨"w", rfl⟩, 7)] ∧ final.load = [(⟨"w", rfl⟩, 2)] := by
  have resolved : ({} : Disk).resolve (Path.parts "progress.wal") = .ok ["progress.wal"] := rfl
  have made := Journal.openAt_of_vacant (α := ProgressRecord) resolved rfl
  have stored : wornDisk.Stored := (Disk.onlyIn_setContent _ _ _).stored
    ((Journal.ready_of_openAt made).stored Disk.stored_empty)
  have loaded : (openIn wornDisk "").1.toOption.map load = some [(⟨"w", rfl⟩, 7)] := by
    decide +kernel
  rcases opened : openIn wornDisk "" with ⟨_ | store, start⟩
  · rw [opened] at loaded
    cases loaded
  · rw [opened] at loaded
    have entries : store.progress.entries = [(⟨"w", rfl⟩, 7)] := Option.some.inj loaded
    have progress : store.progress = Roster.empty.insert ⟨"w", rfl⟩ 7 := by
      obtain ⟨_, ⟨_, _⟩⟩ := store
      cases entries
      rfl
    obtain ⟨answers, final, later, ran, memory, reckoned, -⟩ :=
      journal_tracks_memory stored opened mixedCalls
    refine ⟨store, start, answers, final, later, rfl, ran, memory, entries, ?_⟩
    have final_eq : final.progress = (runAll reckon store.progress mixedCalls).2 := by
      rw [reckoned]
    rw [load, final_eq, progress]
    rfl

end ChangeLog.ProgressStore
