/-
  Logs that lose the end of their progress. After any run the file of progress is cut at any byte,
  and the log is opened again. What is left are the first few records, and each consumer resumes
  where these say, or at the end of the log if that comes first (`openIn_loseProgress`).

  Records that acknowledge only raise, so that losing them sets consumers back. A rewind lowers, and
  losing one may set its consumer forward, past events that it never saw (`lost_rewind_skips`): the
  acknowledgements in front of it were of events that the log has lost, and nothing else in the two
  files tells so. `lost_progress_not_ahead_iff` says exactly when a consumer does not come out ahead
  of where it was.
-/
import ChangeLog.Proofs.Log.LostTail

namespace ChangeLog

/-- Opening a store whose journal is there, whatever its bytes: it is refused where an intact frame
is hidden, and else the progress is that of the records in the file. -/
theorem ProgressStore.openIn_cases {disk : Disk} {directory : String} {file : Nat}
    (reaches : disk.Reaches (Path.parts (Path.join directory fileName)) file)
    (stored : file < disk.contents.length) :
    (Frame.Hides (Frame.leftover (disk.content file)) ∧
      ∃ fault, openIn disk directory = (.error fault, disk)) ∨
    ∃ store later journal, openIn disk directory = (.ok store, later) ∧
      store.progress = progressIn (disk.content file) ∧
      Backed directory journal store later := by
  have attached : Journal.Attached
      (⟨Path.join directory fileName, file, (disk.content file).length⟩ : Journal ProgressRecord)
      disk := ⟨reaches, stored, rfl⟩
  rw [openIn, Journal.openAt_of_reaches reaches]
  dsimp only
  by_cases hides : Frame.Hides (Frame.leftover (disk.content file))
  · rw [Journal.recover_corrupt attached.reaches hides]
    exact .inl ⟨hides, _, rfl⟩
  · obtain ⟨later, recovered, -, -, holds⟩ := Journal.recover_ok attached hides
    rw [recovered]
    refine .inr ⟨_, later, _, rfl, rfl, rfl, rfl, ?_, ?_⟩
    · rw [holds.records_eq]
      exact holds
    · rw [progressIn, holds.records_eq]

namespace Log

variable {directory : String} {file twin : Nat} {start : Option Log × Disk} {disk : Disk}
  {log : Log} {journal : Journal Event} {ledger : Journal ProgressRecord}

/-- The disk with no more than the given number of bytes in the file of progress. -/
def loseProgress (directory : String) (kept : Nat) (disk : Disk) : Disk :=
  match disk.locate (Path.parts (Path.join directory ProgressStore.fileName)) with
  | .ok file => disk.setContent file ((disk.content file).take kept)
  | .error _ => disk

/-- The records in the file of progress. -/
def recorded (directory : String) (disk : Disk) : List ProgressRecord :=
  match disk.read (Path.parts (Path.join directory ProgressStore.fileName)) with
  | .ok bytes => Journal.recordsIn bytes
  | .error _ => []

/-- The last rewind of a consumer among some records, if there is one, or what the consumer has
acknowledged since, comes up to a number of events. -/
def Regains (consumer : Consumer) (n : Nat) (records : List ProgressRecord) : Prop :=
  ∀ front target back, records = front ++ .rewind consumer target :: back →
    (∀ other, .rewind consumer other ∉ back) →
    n ≤ (target.map fun offset => offset.toNat + 1).getD 0 ∨
      ∃ offset, .ack consumer offset ∈ back ∧ n ≤ offset.toNat + 1

/-! ## Records -/

theorem loseProgress_eq (h : Files directory file twin disk) (kept : Nat) :
    loseProgress directory kept disk = disk.setContent twin ((disk.content twin).take kept) := by
  unfold loseProgress
  rw [h.progress.located]

theorem recorded_eq (h : Files directory file twin disk) :
    recorded directory disk = Journal.recordsIn (disk.content twin) := by
  unfold recorded
  rw [h.progress.read]

theorem recorded_loseProgress (h : Files directory file twin disk) (kept : Nat) :
    recorded directory (loseProgress directory kept disk) =
      Journal.recordsIn ((disk.content twin).take kept) := by
  have change := Disk.onlyIn_setContent disk twin ((disk.content twin).take kept)
  have bytes := Disk.content_setContent h.progress_stored ((disk.content twin).take kept)
  rw [loseProgress_eq h]
  unfold recorded
  rw [(change.keeps.reaches h.progress).read]
  exact congrArg Journal.recordsIn bytes

/-- Cutting the file of progress leaves the first few of its records. -/
theorem isPrefix_recorded (h : Files directory file twin disk) (kept : Nat) :
    recorded directory (loseProgress directory kept disk) <+: recorded directory disk := by
  rw [recorded_loseProgress h, recorded_eq h]
  exact (Frame.isPrefix_chain_take _ kept).filterMap _

/-- What the first records leave of a number of events, all records keep if the last rewind among
the others does not take it back, or it was acknowledged again since. -/
theorem le_count_append_iff {left lost : List ProgressRecord} {consumer : Consumer} {n : Nat}
    (within : n ≤ (Progress.ofRecords left).count consumer) :
    n ≤ (Progress.ofRecords (left ++ lost)).count consumer ↔ Regains consumer n lost := by
  constructor
  · rintro all front target back rfl last
    rw [← List.append_assoc, Progress.le_count_behind_rewind_iff last] at all
    exact all
  · intro regains
    rcases Progress.exists_last_rewind lost consumer with
      raising | ⟨front, target, back, rfl, last⟩
    · rw [Progress.ofRecords, List.foldl_append, Progress.le_count_foldl_iff raising]
      exact .inl within
    · rw [← List.append_assoc, Progress.le_count_behind_rewind_iff last]
      exact regains front target back rfl last

/-! ## Opening -/

/-- A consumer of a live log resumes behind the events that it has acknowledged. -/
theorem Live.toNat_resumeOffset (h : Live directory journal ledger log disk) (c : Consumer) :
    (log.acks.resumeOffset c).toNat = log.progress.progress.count c := by
  rw [h.resumeOffset_eq, Progress.count]
  cases found : log.progress.progress.get? c with
  | none => rfl
  | some offset => exact Acks.toNat_add_one (h.bound c offset found).2

/-- A live log that lost the end of its progress is refused, because an intact frame is hidden
behind the torn one; or it has all its events, and its consumers resume where the records that are
left say, but not behind the end. -/
theorem openIn_loseProgress (h : Live directory journal ledger log disk) (kept : Nat)
    (maxBatch : UInt64) :
    (Frame.Hides (Frame.leftover ((disk.content ledger.file).take kept)) ∧ ∃ fault later,
      openIn (loseProgress directory kept disk) directory maxBatch = (.error fault, later)) ∨
    ∃ again later,
      openIn (loseProgress directory kept disk) directory maxBatch = (.ok again, later) ∧
      again.events.events = log.events.events ∧
      ∀ c, (again.acks.resumeOffset c).toNat =
        min ((Progress.ofRecords (recorded directory (loseProgress directory kept disk))).count c)
          again.nextOffset.toNat := by
  have change :=
    Disk.onlyIn_setContent disk ledger.file ((disk.content ledger.file).take kept)
  have bytes := Disk.content_setContent h.progress.holds.stored
    ((disk.content ledger.file).take kept)
  have events := h.events.elsewhere change.confined h.apart
  have reaches := change.keeps.reaches h.files.progress
  have stored := change.length ▸ h.progress.holds.stored
  rw [recorded_loseProgress h.files, loseProgress_eq h.files, openIn, events.openIn_eq]
  dsimp only
  rcases ProgressStore.openIn_cases reaches stored with
    ⟨hides, fault, refused⟩ | ⟨store, middle, grown, opened, progress, backed⟩
  · rw [bytes] at hides
    rw [refused]
    exact .inl ⟨hides, _, _, rfl⟩
  · obtain ⟨taken, grown', rest, later, recovering, -, -, -, settling, slots⟩ :=
      Acks.recover_settles backed { log.events with isClosed := false }.nextOffset
    rw [opened]
    dsimp only
    rw [assemble, recovering]
    refine .inr ⟨_, later, rfl, rfl, ?_⟩
    intro c
    rw [bytes, ProgressStore.progressIn] at progress
    rw [← progress]
    exact Acks.toNat_resumeOffset ((slots c).trans (congrArg _ (settling c)))

/-! ## Runs -/

/-- Every state of a run is sane. -/
theorem sane_run (h : Sane directory file twin start) (moves : List Move) :
    Sane directory file twin (run directory start moves) := by
  induction moves generalizing start with
  | nil => exact h
  | cons move rest ih => exact ih (step_sane h move).1

/-- Take any run from the first opening on, lose the end of the file of progress, and open the log
again. All events are there. A consumer resumes where the records that are left say, but not behind
the end of the log; and this is not ahead of where it was before if and only if its last rewind
among the lost records set it no lower, or it has acknowledged as much again since. So it is never
ahead where none of its rewinds are lost. -/
theorem lost_progress_not_ahead_iff {disk opened later final : Disk} {log last again : Log}
    {maxBatch bound : UInt64} (stored : disk.Stored) (unshared : disk.Unshared)
    (opening : openIn disk directory maxBatch = (.ok log, opened)) {moves : List Move}
    (ran : run directory (some log, opened) moves = (some last, later)) {kept : Nat}
    (reopening : openIn (loseProgress directory kept later) directory bound =
      (.ok again, final)) :
    again.events.events = last.events.events ∧
    ∃ left lost, recorded directory later = left ++ lost ∧
      recorded directory (loseProgress directory kept later) = left ∧
      ∀ consumer,
        (again.acks.resumeOffset consumer).toNat =
          min ((Progress.ofRecords left).count consumer) again.nextOffset.toNat ∧
        (again.acks.resumeOffset consumer ≤ last.acks.resumeOffset consumer ↔
          Regains consumer (again.acks.resumeOffset consumer).toNat lost) := by
  obtain ⟨journal, ledger, live⟩ := live_of_openIn stored unshared opening
  have sane := sane_run (sane_of_live live) moves
  rw [ran] at sane
  obtain ⟨journal', ledger', live', -, -⟩ := sane.live last rfl
  rcases openIn_loseProgress live' kept bound with
    ⟨-, fault, final', refused⟩ | ⟨again', final', opened', events, resumes⟩
  · rw [refused] at reopening
    cases reopening
  rw [opened'] at reopening
  cases reopening
  refine ⟨events, ?_⟩
  obtain ⟨lost, split⟩ := isPrefix_recorded live'.files kept
  refine ⟨_, lost, split.symm, rfl, ?_⟩
  intro consumer
  refine ⟨resumes consumer, ?_⟩
  have before : (last.acks.resumeOffset consumer).toNat =
      (Progress.ofRecords (recorded directory later)).count consumer := by
    rw [live'.toNat_resumeOffset, live'.progress.progress_eq, recorded_eq live'.files]
    rfl
  rw [UInt64.le_iff_toNat_le, before, ← split]
  exact le_count_append_iff (by rw [resumes]; exact Nat.min_le_left _ _)

/-! ## A lost rewind -/

/-- A consumer of the examples. -/
def reader : Consumer := ⟨"c", by decide⟩

/-- An event is appended, acknowledged and lost, and another one takes its place. The restart in
between rewinds the consumer. -/
def rewound (now : Time.Instant) : List Move :=
  [.append now { type := "put" }, .acknowledge reader 0, .restart 0 7,
    .append now { type := "cut" }]

/-- The log in an empty directory, and its disk. -/
def blankStart : Option Log × Disk :=
  (some (overJournals Journal.blank blankLedger 100), blankFiles)

/-- A run from nothing on that leaves a log of one event, and an opening behind it where the record
of the first acknowledgement is all that is left of progress. -/
theorem exists_reopened {moves : List Move} {resume : UInt64} {type : String}
    (runs : ((run "" blankStart moves).1.map fun log =>
      (log.acks.resumeOffset reader, log.events.events.map (·.type))) = some (resume, [type]))
    (left : Journal.recordsIn (((run "" blankStart moves).2.content 1).take 29) =
      [ProgressRecord.ack reader 0])
    (whole : Frame.leftover (((run "" blankStart moves).2.content 1).take 29) = []) :
    ∃ last later again final, run "" blankStart moves = (some last, later) ∧
      openIn (loseProgress "" 29 later) "" 7 = (.ok again, final) ∧
      last.acks.resumeOffset reader = resume ∧ again.events.events.map (·.type) = [type] ∧
      again.acks.resumeOffset reader = 1 := by
  have sane := sane_run (sane_of_live (live_blank 100)) moves
  change Sane "" 0 1 (run "" blankStart moves) at sane
  cases ran : run "" blankStart moves with
  | mk last? later =>
    rw [ran] at runs left whole sane
    obtain ⟨last, rfl, shows⟩ := Option.map_eq_some_iff.mp runs
    obtain ⟨resumed, types⟩ := Prod.mk.inj shows
    obtain ⟨journal, ledger, live, -, twin⟩ := sane.live last rfl
    dsimp only at left whole
    rw [← twin] at left whole
    rcases openIn_loseProgress live 29 7 with
      ⟨hides, -⟩ | ⟨again, final, reopening, events, resumes⟩
    · rw [whole] at hides
      exact absurd hides Frame.not_hides_nil
    rw [← events] at types
    have one : again.nextOffset = 1 := by
      have count := congrArg List.length types
      rw [List.length_map] at count
      exact congrArg UInt64.ofNat count
    have resumes := resumes reader
    rw [recorded_loseProgress live.files, left, one] at resumes
    exact ⟨last, later, again, final, rfl, reopening, resumed, types, UInt64.toNat_inj.mp resumes⟩

/-- The record of the rewind is lost, and the consumer resumes behind an event that it never saw. -/
theorem lost_rewind_skips :
    ∃ log opened last later again final,
      openIn {} "" 100 = (.ok log, opened) ∧
      run "" (some log, opened) (rewound ⟨5, 0, by decide⟩) = (some last, later) ∧
      openIn (loseProgress "" 29 later) "" 7 = (.ok again, final) ∧
      again.events.events.map (·.type) = ["cut"] ∧
      last.acks.resumeOffset reader = 0 ∧ again.acks.resumeOffset reader = 1 ∧
      ¬ again.acks.resumeOffset reader ≤ last.acks.resumeOffset reader := by
  have runs : ((run "" blankStart (rewound ⟨5, 0, by decide⟩)).1.map fun log =>
      (log.acks.resumeOffset reader, log.events.events.map (·.type))) = some (0, ["cut"]) := by
    decide +kernel
  obtain ⟨last, later, again, final, ran, reopening, before, types, after⟩ :=
    exists_reopened runs (by decide +kernel) (by decide +kernel)
  refine ⟨_, _, last, later, again, final, openIn_blank_eq 100, ran, reopening, types, before,
    after, ?_⟩
  rw [before, after]
  decide

/-- The record of the rewind is lost, but the consumer has acknowledged the new event as well. -/
theorem lost_rewind_regained :
    ∃ log opened last later again final lost,
      openIn {} "" 100 = (.ok log, opened) ∧
      run "" (some log, opened) (rewound ⟨5, 0, by decide⟩ ++ [.acknowledge reader 0]) =
        (some last, later) ∧
      openIn (loseProgress "" 29 later) "" 7 = (.ok again, final) ∧
      recorded "" later = recorded "" (loseProgress "" 29 later) ++ lost ∧
      (again.acks.resumeOffset reader ≤ last.acks.resumeOffset reader ↔
        Regains reader 1 lost) ∧
      again.acks.resumeOffset reader = 1 ∧ last.acks.resumeOffset reader = 1 := by
  have runs : ((run "" blankStart (rewound ⟨5, 0, by decide⟩ ++ [.acknowledge reader 0])).1.map
      fun log => (log.acks.resumeOffset reader, log.events.events.map (·.type))) =
        some (1, ["cut"]) := by
    decide +kernel
  obtain ⟨last, later, again, final, ran, reopening, before, -, after⟩ :=
    exists_reopened runs (by decide +kernel) (by decide +kernel)
  obtain ⟨-, left, lost, split, rfl, resumes⟩ :=
    lost_progress_not_ahead_iff Disk.stored_empty Disk.unshared_empty (openIn_blank_eq 100) ran
      reopening
  have exactly := (resumes reader).2
  rw [after] at exactly
  refine ⟨_, _, last, later, again, final, lost, openIn_blank_eq 100, ran, reopening, split, ?_,
    after, before⟩
  rw [after]
  exact exactly

end Log
end ChangeLog
