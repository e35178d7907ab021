/-
  Logs in a directory. `Files` says what a directory needs so that a log can be opened in it: two
  files, of which the one for progress has no leftover. `Live` ties an open log to its disk. Opening
  a log where the files are there (`openIn_of_files`) never loses progress records or adds any but
  rewinds, and each operation on a live log keeps it live.
-/
import ChangeLog.Proofs.Disk.Path
import ChangeLog.Proofs.Store.Events
import ChangeLog.Proofs.Acks
import ChangeLog.Log

namespace ChangeLog.Log

variable {disk later : Disk} {directory : String} {log : Log} {journal : Journal Event}
  {ledger : Journal ProgressRecord} {maxBatch : UInt64}

/-- The directory has its two files, and progress is recorded without a leftover. -/
structure Files (directory : String) (file twin : Nat) (disk : Disk) : Prop where
  events : disk.Reaches (Path.parts (Path.join directory EventStore.fileName)) file
  progress : disk.Reaches (Path.parts (Path.join directory ProgressStore.fileName)) twin
  events_stored : file < disk.contents.length
  progress_stored : twin < disk.contents.length
  apart : file ≠ twin
  whole : Frame.leftover (disk.content twin) = []

/-- Whatever was done to the file of events, the directory has its files. -/
theorem Files.elsewhere {file twin : Nat} (h : Files directory file twin disk)
    (change : Disk.OnlyIn file disk later) : Files directory file twin later :=
  ⟨change.keeps.reaches h.events, change.keeps.reaches h.progress, change.length ▸ h.events_stored,
    change.length ▸ h.progress_stored, h.apart, change.others twin h.apart.symm ▸ h.whole⟩

/-- An open log in a directory: both stores are backed, each slot is one more than the recorded
offset, and recorded offsets are offsets of events. -/
structure Live (directory : String) (journal : Journal Event) (ledger : Journal ProgressRecord)
    (log : Log) (disk : Disk) : Prop where
  events : EventStore.Backed directory journal log.events disk
  progress : ProgressStore.Backed directory ledger log.progress disk
  apart : journal.file ≠ ledger.file
  slots : ∀ k, log.acks.slots.get? k = (log.progress.progress.get? k).map (· + 1)
  bound : ∀ k offset, log.progress.progress.get? k = some offset →
    offset.toNat < log.events.events.length ∧ offset.toNat + 1 < UInt64.size

theorem Live.events_eq (h : Live directory journal ledger log disk) :
    EventStore.eventsIn (disk.content journal.file) = log.events.events :=
  h.events.holds.records_eq

theorem Live.files (h : Live directory journal ledger log disk) :
    Files directory journal.file ledger.file disk :=
  ⟨h.events.path_eq ▸ h.events.holds.reaches, h.progress.path_eq ▸ h.progress.holds.reaches,
    h.events.holds.stored, h.progress.holds.stored, h.apart, h.progress.holds.whole⟩

/-- Where a consumer goes on is one past its recorded offset. -/
theorem Live.resumeOffset_eq (h : Live directory journal ledger log disk) (c : Consumer) :
    log.acks.resumeOffset c = ((log.progress.progress.get? c).map (· + 1)).getD 0 := by
  rw [Acks.resumeOffset_eq, Acks.slot, h.slots]

/-- What lies in front of where a consumer goes on is not behind its recorded offset. -/
theorem Live.exists_of_lt_resumeOffset (h : Live directory journal ledger log disk) {c : Consumer}
    {i : UInt64} (below : i < log.acks.resumeOffset c) :
    ∃ offset, log.progress.progress.get? c = some offset ∧ i ≤ offset := by
  rw [h.resumeOffset_eq] at below
  cases found : log.progress.progress.get? c with
  | none =>
      rw [found] at below
      exact absurd below (UInt64.not_lt.mpr (UInt64.zero_le ..))
  | some offset =>
      rw [found] at below
      change i < offset + 1 at below
      rw [UInt64.lt_iff_toNat_lt, Acks.toNat_add_one (h.bound c offset found).2] at below
      exact ⟨offset, rfl, UInt64.le_iff_toNat_le.mpr (Nat.le_of_lt_succ below)⟩

/-! ## Opening -/

/-- Two stores that are backed by different files make a log, and at most progress is rewound. -/
theorem assemble_ok {events : EventStore} {progress : ProgressStore}
    (backed : EventStore.Backed directory journal events disk)
    (recorded : ProgressStore.Backed directory ledger progress disk)
    (apart : journal.file ≠ ledger.file) (maxBatch : UInt64) :
    ∃ grown log later, assemble events progress disk maxBatch = (.ok log, later) ∧
      Disk.OnlyIn ledger.file disk later ∧ grown.file = ledger.file ∧ log.events = events ∧
      Live directory journal grown log later ∧
      ∀ k offset, log.progress.progress.get? k = some offset →
        ∃ old, progress.progress.get? k = some old ∧ offset ≤ old := by
  obtain ⟨acks, grown, kept, later, recovering, change, file, backed', slots, lower⟩ :=
    Acks.recover_ok recorded events.nextOffset
  refine ⟨grown, { events, progress := kept, acks, maxBatch }, later, ?_, change, file, rfl, ?_,
    fun k offset found => (lower k offset found).2⟩
  · rw [assemble, recovering]
  · exact ⟨backed.elsewhere change.confined apart, backed', file ▸ apart, slots,
      fun k offset found => EventStore.lt_of_lt_nextOffset (lower k offset found).1⟩

/-- A log that was opened is live, whatever was in its directory. -/
theorem live_of_openIn (stored : disk.Stored) (unshared : disk.Unshared)
    (opened : openIn disk directory maxBatch = (.ok log, later)) :
    ∃ journal ledger, Live directory journal ledger log later := by
  unfold openIn at opened
  split at opened
  · cases opened
  · rename_i events middle openedEvents
    obtain ⟨journal, backed, -, confined⟩ := EventStore.backed_of_openIn stored openedEvents
    split at opened
    · cases opened
    · rename_i progress final openedProgress
      obtain ⟨ledger, recorded, confined'⟩ :=
        ProgressStore.backed_of_openIn (confined.stored stored) openedProgress
      have both := confined'.unshared (confined.stored stored) (confined.unshared stored unshared)
      -- Two names never stand for one file.
      have apart : journal.file ≠ ledger.file :=
        Disk.file_ne_of_name_ne both (by decide) (by decide) (by decide)
          (confined'.keeps.locate (backed.path_eq ▸ backed.holds.reaches.located))
          (recorded.path_eq ▸ recorded.holds.reaches.located)
      obtain ⟨grown, made, last, assembled, -, -, -, live, -⟩ :=
        assemble_ok (backed.elsewhere confined' apart) recorded apart maxBatch
      rw [assembled] at opened
      cases opened
      exact ⟨journal, grown, live⟩

/-- Opening where the files are there: the events in the file stay, recorded offsets are at most
lowered, and a log that comes of it is live. -/
theorem openIn_of_files {file twin : Nat} (h : Files directory file twin disk)
    (maxBatch : UInt64) :
    ∃ result later, openIn disk directory maxBatch = (result, later) ∧
      Files directory file twin later ∧
      EventStore.eventsIn (later.content file) = EventStore.eventsIn (disk.content file) ∧
      (∀ k offset, (ProgressStore.progressIn (later.content twin)).get? k = some offset →
        ∃ old, (ProgressStore.progressIn (disk.content twin)).get? k = some old ∧ offset ≤ old) ∧
      ∀ log, result = .ok log → ∃ journal ledger, Live directory journal ledger log later ∧
        journal.file = file ∧ ledger.file = twin := by
  obtain ⟨result, middle, opened, change, records, backed⟩ :=
    EventStore.openIn_of_reaches h.events h.events_stored
  have same := change.others twin h.apart.symm
  have kept := h.elsewhere change
  unfold openIn
  rw [opened]
  cases result with
  | error fault =>
      refine ⟨_, middle, rfl, kept, records, ?_, ?_⟩
      · rw [same]
        exact fun k offset found => ⟨offset, found, UInt64.le_refl _⟩
      · intro log opened
        cases opened
  | ok events =>
      obtain ⟨journal, found, rfl⟩ := backed events rfl
      obtain ⟨ledger, progress, opened', recorded, rfl⟩ :=
        ProgressStore.openIn_of_reaches kept.progress kept.progress_stored kept.whole
      dsimp only
      rw [opened']
      obtain ⟨grown, log, later, assembled, change', same_file, -, live, lower⟩ :=
        assemble_ok found recorded h.apart maxBatch
      refine ⟨_, later, assembled, ?_, ?_, ?_, ?_⟩
      · rw [← same_file]
        exact live.files
      · rw [change'.others _ h.apart, records]
      · intro k offset found
        rw [← same, ← recorded.progress_eq]
        rw [← same_file, ← live.progress.progress_eq] at found
        exact lower k offset found
      · intro made opened
        cases opened
        exact ⟨journal, grown, live, rfl, same_file⟩

/-- Opening where a store of events is backed is never refused, and finds its events. -/
theorem openIn_of_backed {events : EventStore} {twin : Nat}
    (backed : EventStore.Backed directory journal events disk)
    (files : Files directory journal.file twin disk) (maxBatch : UInt64) :
    ∃ log later, openIn disk directory maxBatch = (.ok log, later) ∧
      log.events.events = events.events := by
  obtain ⟨ledger, progress, opened, recorded, same_file⟩ :=
    ProgressStore.openIn_of_reaches files.progress files.progress_stored files.whole
  have reopened : EventStore.Backed directory journal { events with isClosed := false } disk :=
    ⟨backed.journal_eq, backed.path_eq, backed.holds, backed.numbered⟩
  obtain ⟨grown, log, later, assembled, -, -, same, -⟩ :=
    assemble_ok reopened recorded (same_file ▸ files.apart) maxBatch
  refine ⟨log, later, ?_, by rw [same]⟩
  rw [openIn, backed.openIn_eq]
  dsimp only
  rw [opened]
  exact assembled

/-- The log without its cursors, and open. -/
def restarted (log : Log) : Log :=
  { log with events := { log.events with isClosed := false }, cursors := {} }

/-- Opening a live log again finds the same events and the same progress, and changes nothing on the
disk. (Offsets have to be able to count the events.) -/
theorem Live.openIn_eq (h : Live directory journal ledger log disk)
    (numbered : log.events.events.length < UInt64.size) :
    openIn disk directory log.maxBatch = (.ok log.restarted, disk) := by
  have next_eq : log.events.nextOffset.toNat = log.events.events.length :=
    UInt64.toNat_ofNat_of_lt' numbered
  have inside : ∀ k offset, log.progress.progress.get? k = some offset →
      offset < log.events.nextOffset := by
    intro k offset found
    rw [UInt64.lt_iff_toNat_lt, next_eq]
    exact (h.bound k offset found).1
  have recovered : Acks.recover (log.progress, disk)
      { log.events with isClosed := false }.nextOffset = (.ok log.acks, log.progress, disk) :=
    Acks.recover_of_lt h.progress h.slots inside
  rw [openIn, h.events.openIn_eq]
  dsimp only
  rw [h.progress.openIn_eq]
  dsimp only
  rw [assemble, recovered]
  rfl

/-- The directory is there, and neither of the log's two files is in it. -/
structure Fresh (directory : String) (disk : Disk) : Prop where
  events : disk.Vacant (Path.parts (Path.join directory EventStore.fileName))
  progress : disk.Vacant (Path.parts (Path.join directory ProgressStore.fileName))

/-- A log without events over two journals. -/
def overJournals (journal : Journal Event) (ledger : Journal ProgressRecord) (maxBatch : UInt64) :
    Log :=
  { events := { journal := some journal }, progress := { journal := some ledger }, maxBatch }

/-- Where the files are missing, opening makes a log without events, and two empty files. -/
theorem openIn_of_fresh (h : Fresh directory disk) (maxBatch : UInt64) :
    ∃ journal ledger later,
      openIn disk directory maxBatch = (.ok (overJournals journal ledger maxBatch), later) ∧
        Live directory journal ledger (overJournals journal ledger maxBatch) later := by
  obtain ⟨⟨place, resolved, free⟩, ⟨place', resolved', free'⟩⟩ := h
  obtain ⟨journal, openedEvents, backed, journal_eq⟩ :=
    EventStore.openIn_of_vacant resolved free
  -- The other file is still missing, since it has another name.
  have apart := Disk.place_ne_of_name_ne (by decide) (by decide) (by decide) resolved resolved'
  have resolved' := (Disk.keeps_newFile free).resolve resolved'
  have free' : (disk.newFile place).find? place' = none := by
    rw [Disk.find?_newFile free, if_neg apart.symm, free']
  obtain ⟨ledger, openedProgress, recorded, confined, ledger_eq⟩ :=
    ProgressStore.openIn_of_vacant resolved' free'
  have differ : journal.file ≠ ledger.file := by
    rw [journal_eq, ledger_eq, Disk.length_newFile]
    exact Nat.ne_of_lt (Nat.lt_succ_self _)
  refine ⟨journal, ledger, (disk.newFile place).newFile place', ?_,
    ⟨backed.elsewhere confined differ, recorded, differ, fun _ => rfl, ?_⟩⟩
  · rw [openIn, openedEvents]
    dsimp only
    rw [openedProgress]
    rfl
  · intro k offset found
    cases found

/-- The disk after a log was opened where there was nothing. -/
def blankFiles : Disk :=
  { entries := [(["progress.wal"], .file 1), (["events.wal"], .file 0)], contents := [[], []] }

theorem fresh_empty : Fresh "" {} :=
  ⟨⟨["events.wal"], rfl, rfl⟩, ⟨["progress.wal"], rfl, rfl⟩⟩

/-- The journal of progress on that disk. -/
def blankLedger : Journal ProgressRecord := { path := "progress.wal", file := 1, length := 0 }

theorem openIn_blank_eq (maxBatch : UInt64) : openIn {} "" maxBatch =
    (.ok (overJournals Journal.blank blankLedger maxBatch), blankFiles) := by
  have resolved : Journal.blankDisk.resolve (Path.parts (Path.join "" ProgressStore.fileName)) =
      .ok ["progress.wal"] := rfl
  obtain ⟨ledger, progress, -, -, rfl⟩ := ProgressStore.openIn_of_vacant resolved rfl
  have both : Journal.blankDisk.newFile ["progress.wal"] = blankFiles := rfl
  rw [openIn, EventStore.openIn_blank]
  dsimp only
  rw [progress, both]
  rfl

theorem live_blank (maxBatch : UInt64) : Live "" Journal.blank blankLedger
    (overJournals Journal.blank blankLedger maxBatch) blankFiles := by
  obtain ⟨journal, ledger, later, opened, live⟩ := openIn_of_fresh fresh_empty maxBatch
  rw [openIn_blank_eq] at opened
  cases opened
  exact live

/-- Opening a log on a disk with nothing on it. -/
theorem openIn_blank (maxBatch : UInt64) :
    ∃ log, openIn {} "" maxBatch = (.ok log, blankFiles) ∧
      ∀ consumer, log.acks.resumeOffset consumer = 0 :=
  ⟨_, openIn_blank_eq maxBatch, fun _ => rfl⟩

/-! ## Operations -/

/-- Appending adds at most one event at the end and leaves progress alone. -/
theorem append_live (h : Live directory journal ledger log disk) (now : Time.Instant)
    (draft : Draft) :
    ∃ result grown final later, log.append disk now draft = (result, final, later) ∧
      Live directory grown ledger final later ∧ grown.file = journal.file ∧
      log.events.events <+: final.events.events ∧ final.progress = log.progress := by
  unfold append
  split
  · exact ⟨_, journal, log, disk, rfl, h, rfl, List.prefix_refl _, rfl⟩
  · split
    · exact ⟨_, journal, log, disk, rfl, h, rfl, List.prefix_refl _, rfl⟩
    · rename_i isOpen
      rw [Bool.not_eq_true] at isOpen
      by_cases fits : Journal.Fits (Event.stamp draft log.events.nextOffset now)
      · obtain ⟨grown, later, appended, change, file, -, backed⟩ :=
          EventStore.append_ok h.events isOpen rfl fits
        rw [appended]
        refine ⟨_, grown, _, later, rfl, ⟨backed, ?_, ?_, h.slots, ?_⟩, file,
          List.prefix_append _ _, rfl⟩
        · exact h.progress.elsewhere change.confined h.apart.symm
        · rw [file]
          exact h.apart
        · intro k offset found
          obtain ⟨inside, below⟩ := h.bound k offset found
          refine ⟨?_, below⟩
          rw [List.length_append]
          omega
      · rw [EventStore.append_tooLarge h.events isOpen fits]
        exact ⟨_, journal, log, disk, rfl, h, rfl, List.prefix_refl _, rfl⟩

/-- Acknowledging leaves events alone; recorded offsets are as before, but for the one just
acknowledged. -/
theorem acknowledge_live (h : Live directory journal ledger log disk) (c : Consumer)
    (offset : UInt64) :
    ∃ result grown final later, log.acknowledge disk c offset = (result, final, later) ∧
      Live directory journal grown final later ∧ grown.file = ledger.file ∧
      final.events = log.events ∧
      ∀ k other, final.progress.progress.get? k = some other →
        log.progress.progress.get? k = some other ∨
          (k = c ∧ other = offset ∧ ∃ progress, result = .ok progress) := by
  unfold acknowledge
  split
  · exact ⟨_, ledger, log, disk, rfl, h, rfl, rfl, fun _ _ found => .inl found⟩
  · obtain ⟨result, raised, grown, kept, later, acknowledged, change, file, backed, slots, found⟩ :=
      Acks.acknowledge_ok h.progress h.slots (fun k other there => (h.bound k other there).2) c
        offset log.events.nextOffset
    rw [acknowledged]
    refine ⟨result, grown, _, later, rfl, ⟨?_, backed, ?_, slots, ?_⟩, file, rfl, ?_⟩
    · exact h.events.elsewhere change.confined h.apart
    · rw [file]
      exact h.apart
    · intro k other there
      rcases found k other there with before | ⟨-, rfl, inside, -⟩
      · exact h.bound k other before
      · exact EventStore.lt_of_lt_nextOffset inside
    · intro k other there
      exact (found k other there).imp_right fun ⟨same, equal, _, ok⟩ => ⟨same, equal, ok⟩

/-- Whatever happens to its cursors, a log stays live. -/
theorem Live.cursors (h : Live directory journal ledger log disk) (cursors : Cursors) :
    Live directory journal ledger { log with cursors } disk :=
  ⟨h.events, h.progress, h.apart, h.slots, h.bound⟩

theorem Live.restarted (h : Live directory journal ledger log disk) :
    Live directory journal ledger log.restarted disk :=
  ⟨⟨h.events.journal_eq, h.events.path_eq, h.events.holds, h.events.numbered⟩, h.progress, h.apart,
    h.slots, h.bound⟩

theorem close_live (h : Live directory journal ledger log disk) :
    Live directory journal ledger log.close disk :=
  ⟨⟨h.events.journal_eq, h.events.path_eq, h.events.holds, h.events.numbered⟩, h.progress, h.apart,
    h.slots, h.bound⟩

end ChangeLog.Log
