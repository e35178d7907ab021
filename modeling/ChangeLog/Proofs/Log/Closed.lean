/-
  Closing a log. Each operation looks at the flag in its own place, some in the store and some in
  front of their own checks; one lemma says of all of them what they do once the flag is set
  (`perform_close`), and any calls behind a closing do what that lemma says, call by call
  (`closed_for_good`). All are refused for the same reason but one: an append looks at the type of
  its event before it looks at the flag. Nothing is refused for being closed while the log is open
  (`perform_open`), where a store refuses an event only for its size, and no progress at all.
-/
import ChangeLog.Proofs.Log.Calls
import ChangeLog.Proofs.Acks

namespace ChangeLog

/-! ## What stores refuse -/

/-- A journal refuses a record only for its size. -/
theorem Journal.append_fault {α : Type} [Wire α] {journal : Journal α} {disk : Disk} {record : α}
    {cause : StoreError} (refused : (journal.append disk record).1 = .error cause) :
    cause = .recordTooLarge := by
  unfold append at refused
  dsimp only at refused
  split at refused
  · cases refused
    rfl
  · cases refused

/-- An open store refuses an event only for its size. -/
theorem EventStore.append_fault {store : EventStore} (isOpen : store.isClosed = false)
    {disk : Disk} {now : Time.Instant} {draft : Draft} {cause : StoreError}
    (refused : (store.append disk now draft).1 = .error cause) : cause = .recordTooLarge := by
  unfold append write at refused
  rw [isOpen, if_neg Bool.false_ne_true] at refused
  cases kept : store.journal with
  | none =>
      rw [kept] at refused
      cases refused
  | some journal =>
      rw [kept] at refused
      dsimp only at refused
      split at refused
      · rename_i wrote
        split at wrote
        · rename_i failed
          cases wrote
          cases refused
          exact Journal.append_fault (congrArg Prod.fst failed)
        · cases wrote
      · cases refused

namespace Log

/-- Why a result is a refusal, if it is one. -/
def refusal {α : Type} : Except LogError α → Option LogError
  | .ok _ => none
  | .error fault => some fault

/-- Why an answer is a refusal, if it is one. -/
def Answer.fault? : Answer → Option LogError
  | .event result => refusal result
  | .cursor result => refusal result
  | .batch result => refusal result
  | .unsubscribed result => refusal result
  | .info _ result => refusal result
  | .progress result => refusal result
  | .reached result => refusal result
  | .consumers result => refusal result
  | .events result => refusal result
  | .offset _ | .closed | .flag _ | .stats .. => none

/-- Whether a call submits an event with a type of nothing but white space. -/
def Call.submitsBlank : Call → Bool
  | .append _ draft => Text.allBlank draft.type
  | _ => false

/-- Whether a call is more than closing the log and looking at it from outside. -/
def Call.needsOpen : Call → Bool
  | .nextOffset | .close | .isClosed | .stats => false
  | _ => true

/-- Why a closed log refuses a call, if it does. -/
def Call.whenClosed (call : Call) : Option LogError :=
  if call.needsOpen then some (if call.submitsBlank then .blankType else .closed) else none

variable {log : Log}

/-! ## Open logs -/

theorem append_open (isOpen : log.events.isClosed = false) (disk : Disk) (now : Time.Instant)
    (draft : Draft) : refusal (log.append disk now draft).1 ≠ some .closed := by
  unfold append
  rw [isOpen, if_neg Bool.false_ne_true]
  split
  · simp [refusal]
  · cases tried : (log.events.append disk now draft).1 with
    | ok e => simp [tried, LogError.lift, refusal]
    | error cause =>
        simp [tried, LogError.lift, refusal, EventStore.append_fault isOpen tried,
          LogError.ofStore]

theorem get_open (isOpen : log.events.isClosed = false) (offset : UInt64) :
    refusal (log.get offset) ≠ some .closed := by
  unfold get EventStore.get
  rw [isOpen, if_neg Bool.false_ne_true]
  by_cases behind : log.events.nextOffset ≤ offset
  · simp [if_pos behind, refusal]
  · rw [if_neg behind]
    cases log.events.events[offset.toNat]? with
    | none => simp [refusal]
    | some e => simp [refusal]

theorem subscribe_open (isOpen : log.events.isClosed = false) (fresh : CursorId) (start : UInt64)
    (owner : Option String) : refusal (log.subscribe fresh start owner).1 ≠ some .closed := by
  unfold subscribe Cursors.subscribe
  rw [isOpen, if_neg Bool.false_ne_true]
  dsimp only
  split
  · simp [refusal]
  · simp [refusal]

theorem read_open (isOpen : log.events.isClosed = false) (id : CursorId) (max : UInt64) :
    refusal (log.read id max).1 ≠ some .closed := by
  unfold read
  rw [isOpen, if_neg Bool.false_ne_true]
  cases found : log.cursors.find? id with
  | none => simp [Cursors.read_of_find?_none found, refusal]
  | some cursor =>
      obtain ⟨stop, handed, -⟩ := Cursors.read_eq found isOpen (min max log.maxBatch)
      simp [handed, refusal]

theorem unsubscribe_open (isOpen : log.events.isClosed = false) (id : CursorId) :
    refusal (log.unsubscribe id).1 ≠ some .closed := by
  unfold unsubscribe Cursors.unsubscribe
  rw [isOpen, if_neg Bool.false_ne_true]
  cases log.cursors.find? id with
  | none => simp [refusal]
  | some cursor => simp [refusal]

theorem cursorInfo_open (isOpen : log.events.isClosed = false) (id : CursorId) :
    refusal (log.cursorInfo id) ≠ some .closed := by
  unfold cursorInfo whenOpen Cursors.info
  rw [isOpen, if_neg Bool.false_ne_true]
  cases log.cursors.find? id with
  | none => simp [refusal]
  | some cursor => simp [refusal]

theorem acknowledge_open (isOpen : log.events.isClosed = false) (disk : Disk) (c : Consumer)
    (offset : UInt64) : refusal (log.acknowledge disk c offset).1 ≠ some .closed := by
  unfold acknowledge
  rw [isOpen, if_neg Bool.false_ne_true]
  rcases Acks.acknowledge_cases log.acks (log.progress, disk) c offset log.events.nextOffset with
    ⟨-, refused⟩ | ⟨-, current, -, -, stale⟩ | ⟨-, -, outcome⟩
  · simp [refused, refusal]
  · simp [stale, refusal]
  · rcases outcome with ⟨cause, failed, tried, -⟩ | ⟨recorded, -, raised⟩
    · exact absurd tried (log.progress.record_ne_error disk c offset)
    · simp [raised, refusal]

theorem replay_open (isOpen : log.events.isClosed = false) (first last : UInt64) :
    refusal (log.replay first last) ≠ some .closed := by
  unfold replay whenOpen EventStore.replay
  rw [isOpen, if_neg Bool.false_ne_true, EventStore.slice_eq isOpen]
  split
  · simp [refusal]
  · split
    · simp [refusal]
    · simp [LogError.lift, refusal]

theorem replayFrom_open (isOpen : log.events.isClosed = false) (first : UInt64) :
    refusal (log.replayFrom first) ≠ some .closed := by
  have replayed := replay_open isOpen first (log.events.nextOffset - 1)
  unfold replay whenOpen at replayed
  unfold replayFrom whenOpen EventStore.replayFrom
  rw [isOpen, if_neg Bool.false_ne_true] at replayed ⊢
  split
  · simp [refusal]
  · exact replayed

/-- An open log refuses nothing for being closed. -/
theorem perform_open (isOpen : log.isClosed = false) (disk : Disk) (call : Call) :
    (perform log disk call).1.fault? ≠ some .closed := by
  have isOpen : log.events.isClosed = false := isOpen
  cases call with
  | append now draft => exact append_open isOpen disk now draft
  | get offset => exact get_open isOpen offset
  | subscribe fresh start owner => exact subscribe_open isOpen fresh start owner
  | read id max => exact read_open isOpen id max
  | unsubscribe id => exact unsubscribe_open isOpen id
  | cursorInfo id => exact cursorInfo_open isOpen id
  | acknowledge c offset => exact acknowledge_open isOpen disk c offset
  | replay first last => exact replay_open isOpen first last
  | replayFrom first => exact replayFrom_open isOpen first
  | progressOf _ | resumeOffset _ | consumers =>
      rw [perform]
      simp [progressOf, resumeOffset, Log.consumers, whenOpen, isOpen, Answer.fault?, refusal]
  | nextOffset | close | isClosed | stats => simp [perform, Answer.fault?]

/-! ## Closed logs -/

/-- A closed log refuses an append, but a blank type comes first. -/
theorem append_close (log : Log) (disk : Disk) (now : Time.Instant) (draft : Draft) :
    log.close.append disk now draft =
      (.error (if Text.allBlank draft.type then .blankType else .closed), log.close, disk) := by
  unfold append
  split
  · rfl
  · rfl

/-- A closed log refuses what needs it open, and no call changes it. -/
theorem perform_close (log : Log) (disk : Disk) (call : Call) :
    (perform log.close disk call).1.fault? = call.whenClosed ∧
      (perform log.close disk call).2 = (log.close, disk) := by
  cases call with
  | append now draft =>
      rw [perform, append_close]
      exact ⟨rfl, rfl⟩
  | _ => exact ⟨rfl, rfl⟩

theorem performAll_close (log : Log) (disk : Disk) (calls : List Call) :
    (performAll log.close disk calls).1.map Answer.fault? = calls.map Call.whenClosed ∧
      (performAll log.close disk calls).2 = (log.close, disk) := by
  induction calls with
  | nil => exact ⟨rfl, rfl⟩
  | cons call calls ih =>
      obtain ⟨fault, same⟩ := perform_close log disk call
      rw [performAll_cons, same, List.map_cons, List.map_cons, fault, ih.1]
      exact ⟨rfl, ih.2⟩

/-- Closing is for good. While the log is open, no call is refused for its being closed. Behind the
closing, whatever is called and with whatever arguments: a call that needs an open log is refused,
for its being closed unless the call submits a blank type (for which it is refused then), closing
again is not refused, and neither the counters, the events, the cursors and the acknowledgements nor
anything on the disk ever changes. -/
theorem closed_for_good (log : Log) (disk : Disk) (calls : List Call) :
    (log.isClosed = false → ∀ call, (perform log disk call).1.fault? ≠ some .closed) ∧
    ∃ answers final later,
      performAll log disk (.close :: calls) = (.closed :: answers, final, later) ∧
      answers.map Answer.fault? = calls.map Call.whenClosed ∧
      final.stats = { log.stats with isClosed := true } ∧
      final.events.events = log.events.events ∧ final.cursors = log.cursors ∧
      final.acks = log.acks ∧ final.progress = log.progress ∧ later = disk := by
  obtain ⟨faults, same⟩ := performAll_close log disk calls
  refine ⟨fun isOpen => perform_open isOpen disk, _, log.close, disk, ?_, faults, rfl, rfl, rfl,
    rfl, rfl, rfl⟩
  rw [performAll_cons, ← same]
  rfl

/-- A log that was just closed refuses an event with a blank type for its type. -/
theorem blank_type_before_closed :
    (performAll (inMemory 100) {}
        [.append ⟨5, 0, by decide⟩ { type := "put" }, .close,
          .append ⟨5, 0, by decide⟩ { type := " " }]).1.map Answer.fault? =
        [none, none, some .blankType] ∧
      some LogError.blankType ≠ some .closed := by
  refine ⟨rfl, ?_⟩
  decide

end Log
end ChangeLog
