/-
  Calls that a log refuses. Such a call may look at the log in several places before it is refused,
  and none of them has changed anything by then: what is checked comes before what is written, in
  each operation and in the stores below (`perform_refused`). So a refused call leaves no trace: a
  run without it, or without any number of such calls, gives the same answers to all others and ends
  in the same state, restarts included (`refused_calls_leave_no_trace`).
-/
import ChangeLog.Proofs.Log.Closed
import ChangeLog.Proofs.Log.Restart
import ChangeLog.Proofs.Run

namespace ChangeLog

/-! ## Refusals of the stores -/

/-- A journal that refuses a record is left alone. -/
theorem Journal.append_refused {α : Type} [Wire α] {journal after : Journal α} {disk later : Disk}
    {record : α} {cause : StoreError}
    (refused : journal.append disk record = (.error cause, after, later)) :
    after = journal ∧ later = disk := by
  unfold append at refused
  dsimp only at refused
  split at refused
  · cases refused
    exact ⟨rfl, rfl⟩
  · cases refused

namespace EventStore

variable {store kept : EventStore} {disk later : Disk} {cause : StoreError}

theorem write_refused {e : Event} (refused : store.write disk e = (.error cause, kept, later)) :
    kept = store ∧ later = disk := by
  unfold write at refused
  cases keeps : store.journal with
  | none =>
      rw [keeps] at refused
      cases refused
  | some journal =>
      rw [keeps] at refused
      dsimp only at refused
      split at refused
      · rename_i tried
        obtain ⟨rfl, rfl⟩ := Journal.append_refused tried
        cases refused
        exact ⟨by rw [← keeps], rfl⟩
      · cases refused

/-- A store that refuses an event is left alone: the journal comes first, and the event shows only
behind it. -/
theorem append_refused {now : Time.Instant} {draft : Draft}
    (refused : store.append disk now draft = (.error cause, kept, later)) :
    kept = store ∧ later = disk := by
  unfold append at refused
  split at refused
  · cases refused
    exact ⟨rfl, rfl⟩
  · dsimp only at refused
    split at refused
    · rename_i tried
      cases refused
      exact write_refused tried
    · cases refused

end EventStore

namespace Log

variable {log : Log} {disk : Disk} {fault : LogError}

/-! ## Refused calls -/

theorem append_refused {now : Time.Instant} {draft : Draft}
    (refused : refusal (log.append disk now draft).1 = some fault) :
    (log.append disk now draft).2 = (log, disk) := by
  unfold append at refused ⊢
  by_cases blank : Text.allBlank draft.type = true
  · rw [if_pos blank]
  · rw [if_neg blank] at refused ⊢
    by_cases closed : log.events.isClosed = true
    · rw [if_pos closed]
    · rw [if_neg closed] at refused ⊢
      rcases tried : log.events.append disk now draft with ⟨_ | e, kept, later⟩
      · obtain ⟨rfl, rfl⟩ := EventStore.append_refused tried
        rfl
      · rw [tried] at refused
        cases refused

/-- An acknowledgement is refused only where it is out of range, which is looked at first of all;
no store refuses its record. -/
theorem acknowledge_refused {c : Consumer} {offset : UInt64}
    (refused : refusal (log.acknowledge disk c offset).1 = some fault) :
    (log.acknowledge disk c offset).2 = (log, disk) := by
  unfold acknowledge at refused ⊢
  by_cases closed : log.events.isClosed = true
  · rw [if_pos closed]
  · rw [if_neg closed] at refused ⊢
    rcases Acks.acknowledge_cases log.acks (log.progress, disk) c offset log.events.nextOffset with
      ⟨-, outside⟩ | ⟨-, current, -, -, stale⟩ | ⟨-, -, outcome⟩
    · rw [outside]
    · rw [stale] at refused
      cases refused
    · rcases outcome with ⟨cause, failed, tried, -⟩ | ⟨recorded, -, raised⟩
      · exact absurd tried (log.progress.record_ne_error disk c offset)
      · rw [raised] at refused
        cases refused

/-- A refused call changes nothing, in the log or on the disk. -/
theorem perform_refused {call : Call} (refused : (perform log disk call).1.fault? = some fault) :
    (perform log disk call).2 = (log, disk) := by
  cases call with
  | append now draft => exact append_refused refused
  | acknowledge c offset => exact acknowledge_refused refused
  | subscribe fresh start owner =>
      rw [perform] at refused ⊢
      rcases subscribe_cases log fresh start owner with ⟨cause, same⟩ | ⟨-, made⟩
      · rw [same]
      · rw [made] at refused
        cases refused
  | read id max =>
      rw [perform] at refused ⊢
      rcases read_cases log id max with ⟨cause, same⟩ | ⟨cursor, stop, -, gave, -⟩
      · rw [same]
      · rw [gave] at refused
        cases refused
  | unsubscribe id =>
      rw [perform] at refused ⊢
      rcases unsubscribe_cases log id with ⟨cause, same⟩ | gone
      · rw [same]
      · rw [gone] at refused
        cases refused
  | close => cases refused
  | _ => rfl

/-! ## Runs -/

/-- Whether a reply refuses what the log was asked. -/
def Reply.isRefusal : Reply → Bool
  | .answer given => given.fault?.isSome
  | .restarted _ => false

theorem takeAll_eq_runAll (reopen : Log → Disk → Except LogError Log × Disk) (log : Log)
    (disk : Disk) (turns : List Turn) :
    takeAll reopen log disk turns =
      runAll (fun state : Log × Disk => take reopen state.1 state.2) (log, disk) turns := by
  induction turns generalizing log disk with
  | nil => rfl
  | cons turn turns ih =>
      rw [takeAll, runAll_cons]
      dsimp only
      rw [ih]

theorem take_refused (reopen : Log → Disk → Except LogError Log × Disk) {turn : Turn}
    (refused : (take reopen log disk turn).1.isRefusal = true) :
    (take reopen log disk turn).2 = (log, disk) := by
  cases turn with
  | call call =>
      obtain ⟨fault, found⟩ := Option.isSome_iff_exists.mp refused
      exact perform_refused found
  | restart =>
      rw [take] at refused
      split at refused
      · cases refused
      · cases refused

/-- In every state of a log, in memory or with journals, a call that is refused changes nothing,
neither in the log (its events, cursors, acknowledgements, recorded progress and flag) nor on the
disk. So it leaves no trace: of any run of calls and restarts, any of the refused calls can be left
out, and all other calls and restarts are answered as before and end in the same state. -/
theorem refused_calls_leave_no_trace (reopen : Log → Disk → Except LogError Log × Disk) (log : Log)
    (disk : Disk) :
    (∀ call, (perform log disk call).1.fault?.isSome = true →
      (perform log disk call).2 = (log, disk)) ∧
    ∀ turns, ∃ replies final later,
      takeAll reopen log disk turns = (replies, final, later) ∧ replies.length = turns.length ∧
      ∀ kept, OmitsOnly Reply.isRefusal kept (turns.zip replies) →
        takeAll reopen log disk (kept.map Prod.fst) = (kept.map Prod.snd, final, later) := by
  constructor
  · intro call refused
    obtain ⟨fault, found⟩ := Option.isSome_iff_exists.mp refused
    exact perform_refused found
  · intro turns
    refine ⟨_, _, _, rfl, ?_, ?_⟩
    · rw [takeAll_eq_runAll, length_runAll]
    · intro kept omits
      rw [takeAll_eq_runAll] at omits ⊢
      rw [takeAll_eq_runAll]
      exact runAll_of_omitsOnly (fun _ _ => take_refused reopen) omits

/-- Calls that are refused, one of each kind, among others and a restart. -/
def spoiledTurns : List Turn :=
  [.call (.append ⟨8, 0, by decide⟩ { type := " " }),
    .call (.append ⟨8, 0, by decide⟩ { type := "put" }), .call (.subscribe ⟨1⟩ 2 none),
    .call (.subscribe ⟨1⟩ 0 none), .call (.get 1), .call (.read ⟨2⟩ 9), .call (.read ⟨1⟩ 9),
    .call (.acknowledge ⟨"s", rfl⟩ 1), .call (.acknowledge ⟨"s", rfl⟩ 0), .call (.replay 1 0),
    .call (.replay 0 1), .call .close, .call (.unsubscribe ⟨1⟩), .restart, .call (.cursorInfo ⟨1⟩),
    .call (.resumeOffset ⟨"s", rfl⟩)]

/-- The same turns without those. -/
def plainTurns : List Turn :=
  [.call (.append ⟨8, 0, by decide⟩ { type := "put" }), .call (.subscribe ⟨1⟩ 0 none),
    .call (.read ⟨1⟩ 9), .call (.acknowledge ⟨"s", rfl⟩ 0), .call .close, .restart,
    .call (.resumeOffset ⟨"s", rfl⟩)]

/-- Nine of sixteen turns are refused, and the other seven are as they would be alone. -/
theorem spoiled_turns_as_plain :
    ∃ replies final later, takeAll fromMemory (inMemory 2) {} spoiledTurns =
        (replies, final, later) ∧
      takeAll fromMemory (inMemory 2) {} plainTurns =
        (replies.filter fun reply => !reply.isRefusal, final, later) ∧
      (replies.filter Reply.isRefusal).length = 9 := by
  obtain ⟨-, left_out⟩ := refused_calls_leave_no_trace fromMemory (inMemory 2) {}
  obtain ⟨replies, final, later, ran, lengths, unchanged⟩ := left_out spoiledTurns
  have replies_eq : replies = (takeAll fromMemory (inMemory 2) {} spoiledTurns).1 := by rw [ran]
  have same := unchanged ((spoiledTurns.zip replies).filter fun e => !e.2.isRefusal)
    ⟨List.filter_sublist, by rw [List.filter_filter]; simp⟩
  have turns : ((spoiledTurns.zip replies).filter fun e => !e.2.isRefusal).map Prod.fst =
      plainTurns := by
    rw [replies_eq]
    rfl
  have answers : ((spoiledTurns.zip replies).filter fun e => !e.2.isRefusal).map Prod.snd =
      replies.filter fun reply => !reply.isRefusal := by
    rw [replies_eq]
    rfl
  rw [turns, answers] at same
  refine ⟨replies, final, later, ran, same, ?_⟩
  rw [replies_eq]
  rfl

end Log
end ChangeLog
