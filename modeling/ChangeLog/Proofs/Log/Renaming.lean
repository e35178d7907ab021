/-
  Logs do not look at the identifiers of cursors. Where each identifier is replaced by another one,
  in the log and in what it is asked, the answers are the same but for that replacement
  (`perform_rename`). Only that different identifiers stay different matters.
-/
import Mathlib.Logic.Function.Basic
import ChangeLog.Proofs.Log.Calls

namespace ChangeLog

variable {σ : CursorId → CursorId}

/-- A refusal with the identifier in it replaced, if it names one. -/
def LogError.rename (σ : CursorId → CursorId) : LogError → LogError
  | .cursorNotFound id => .cursorNotFound (σ id)
  | fault => fault

/-- What a store refuses names no cursor. -/
theorem LogError.rename_ofStore (cause : StoreError) :
    (LogError.ofStore cause).rename σ = .ofStore cause := by
  cases cause with
  | _ => rfl

/-! ## Cursors -/

namespace Cursors

/-- The same cursors under other identifiers. -/
def rename (σ : CursorId → CursorId) (cs : Cursors) : Cursors :=
  ⟨cs.entries.map fun (k, c) => (σ k, c)⟩

variable (cs : Cursors) (store : EventStore) (id : CursorId)

theorem find?_rename (injective : Function.Injective σ) :
    (cs.rename σ).find? (σ id) = cs.find? id := by
  obtain ⟨entries⟩ := cs
  unfold rename find?
  induction entries with
  | nil => rfl
  | cons entry rest ih =>
      obtain ⟨k, c⟩ := entry
      dsimp only at ih ⊢
      rw [List.map_cons, Roster.lookup_cons_ite, Roster.lookup_cons_ite, ih]
      by_cases same : id = k
      · rw [if_pos same, if_pos (congrArg σ same)]
      · rw [if_neg same, if_neg fun h => same (injective h)]

theorem move_rename (injective : Function.Injective σ) (position : UInt64) :
    (cs.rename σ).move (σ id) position = (cs.move id position).rename σ := by
  unfold rename move
  rw [List.map_map, List.map_map]
  congr 1
  refine List.map_congr_left fun (k, c) _ => ?_
  show (σ k, if σ k = σ id then _ else c) = (σ k, if k = id then _ else c)
  by_cases same : k = id
  · rw [if_pos same, if_pos (congrArg σ same)]
  · rw [if_neg same, if_neg fun h => same (injective h)]

theorem erase_rename (injective : Function.Injective σ) :
    (cs.rename σ).erase (σ id) = (cs.erase id).rename σ := by
  unfold rename erase
  rw [List.filter_map]
  congr 2
  refine List.filter_congr fun (k, c) _ => ?_
  show decide (σ k ≠ σ id) = decide (k ≠ id)
  rw [decide_eq_decide]
  exact not_congr injective.eq_iff

theorem subscribe_rename (injective : Function.Injective σ) (start : UInt64)
    (owner : Option String) :
    (cs.rename σ).subscribe store (σ id) start owner =
      ((cs.subscribe store id start owner).1.map σ,
        (cs.subscribe store id start owner).2.rename σ) := by
  unfold subscribe
  split
  · rfl
  · rw [erase_rename cs id injective]
    unfold rename
    rw [List.map_append]
    rfl

theorem read_rename (injective : Function.Injective σ) (max : UInt64) :
    (cs.rename σ).read store (σ id) max =
      ((cs.read store id max).1.mapError (LogError.rename σ),
        (cs.read store id max).2.rename σ) := by
  unfold read
  rw [find?_rename cs id injective]
  cases cs.find? id with
  | none => rfl
  | some cursor =>
      dsimp only
      cases store.slice cursor.position (saturatingAdd cursor.position max) with
      | error cause =>
          dsimp only [Except.mapError]
          rw [LogError.rename_ofStore]
      | ok events =>
          dsimp only
          rw [move_rename cs id injective]
          rfl

theorem unsubscribe_rename (injective : Function.Injective σ) :
    (cs.rename σ).unsubscribe (σ id) =
      ((cs.unsubscribe id).1.mapError (LogError.rename σ), (cs.unsubscribe id).2.rename σ) := by
  unfold unsubscribe
  rw [find?_rename cs id injective]
  cases cs.find? id with
  | none => rfl
  | some cursor =>
      dsimp only
      rw [erase_rename cs id injective]
      rfl

theorem info_rename (injective : Function.Injective σ) :
    (cs.rename σ).info (σ id) = (cs.info id).mapError (LogError.rename σ) := by
  unfold info
  rw [find?_rename cs id injective]
  cases cs.find? id with
  | none => rfl
  | some cursor => rfl

end Cursors

/-! ## Logs -/

namespace Log

/-- The same log with its cursors under other identifiers. -/
def rename (σ : CursorId → CursorId) (log : Log) : Log :=
  { log with cursors := log.cursors.rename σ }

/-- The same call with other identifiers. -/
def Call.rename (σ : CursorId → CursorId) : Call → Call
  | .subscribe fresh start owner => .subscribe (σ fresh) start owner
  | .read id max => .read (σ id) max
  | .unsubscribe id => .unsubscribe (σ id)
  | .cursorInfo id => .cursorInfo (σ id)
  | call => call

/-- The same answer with other identifiers. -/
def Answer.rename (σ : CursorId → CursorId) : Answer → Answer
  | .cursor result => .cursor (result.map σ)
  | .batch result => .batch (result.mapError (LogError.rename σ))
  | .unsubscribed result => .unsubscribed (result.mapError (LogError.rename σ))
  | .info id result => .info (σ id) (result.mapError (LogError.rename σ))
  | answer => answer

variable (log : Log) (disk : Disk)

theorem events_rename : (log.rename σ).events = log.events := rfl

theorem cursors_rename : (log.rename σ).cursors = log.cursors.rename σ := rfl

theorem append_rename (now : Time.Instant) (draft : Draft) :
    (log.rename σ).append disk now draft =
      ((log.append disk now draft).1, (log.append disk now draft).2.1.rename σ,
        (log.append disk now draft).2.2) := by
  unfold append
  rw [events_rename]
  by_cases blank : Text.allBlank draft.type = true
  · rw [if_pos blank, if_pos blank]
  · rw [if_neg blank, if_neg blank]
    by_cases closed : log.events.isClosed = true
    · rw [if_pos closed, if_pos closed]
    · rw [if_neg closed, if_neg closed]
      rfl

theorem subscribe_rename (injective : Function.Injective σ) (fresh : CursorId) (start : UInt64)
    (owner : Option String) :
    (log.rename σ).subscribe (σ fresh) start owner =
      ((log.subscribe fresh start owner).1.map σ,
        (log.subscribe fresh start owner).2.rename σ) := by
  unfold subscribe
  rw [events_rename, cursors_rename,
    Cursors.subscribe_rename log.cursors log.events fresh injective]
  by_cases closed : log.events.isClosed = true
  · rw [if_pos closed, if_pos closed]
    rfl
  · rw [if_neg closed, if_neg closed]
    rfl

theorem read_rename (injective : Function.Injective σ) (id : CursorId) (max : UInt64) :
    (log.rename σ).read (σ id) max =
      ((log.read id max).1.mapError (LogError.rename σ), (log.read id max).2.rename σ) := by
  unfold read
  rw [events_rename, cursors_rename, Cursors.read_rename log.cursors log.events id injective]
  by_cases closed : log.events.isClosed = true
  · rw [if_pos closed, if_pos closed]
    rfl
  · rw [if_neg closed, if_neg closed]
    rfl

theorem unsubscribe_rename (injective : Function.Injective σ) (id : CursorId) :
    (log.rename σ).unsubscribe (σ id) =
      ((log.unsubscribe id).1.mapError (LogError.rename σ),
        (log.unsubscribe id).2.rename σ) := by
  unfold unsubscribe
  rw [events_rename, cursors_rename, Cursors.unsubscribe_rename log.cursors id injective]
  by_cases closed : log.events.isClosed = true
  · rw [if_pos closed, if_pos closed]
    rfl
  · rw [if_neg closed, if_neg closed]
    rfl

theorem cursorInfo_rename (injective : Function.Injective σ) (id : CursorId) :
    (log.rename σ).cursorInfo (σ id) = (log.cursorInfo id).mapError (LogError.rename σ) := by
  unfold cursorInfo whenOpen
  rw [events_rename, cursors_rename, Cursors.info_rename log.cursors id injective]
  by_cases closed : log.events.isClosed = true
  · rw [if_pos closed, if_pos closed]
    rfl
  · rw [if_neg closed, if_neg closed]

theorem acknowledge_rename (consumer : Consumer) (offset : UInt64) :
    (log.rename σ).acknowledge disk consumer offset =
      ((log.acknowledge disk consumer offset).1,
        (log.acknowledge disk consumer offset).2.1.rename σ,
        (log.acknowledge disk consumer offset).2.2) := by
  unfold acknowledge
  rw [events_rename]
  by_cases closed : log.events.isClosed = true
  · rw [if_pos closed, if_pos closed]
  · rw [if_neg closed, if_neg closed]
    rfl

/-- A log with other identifiers answers as before, with other identifiers. -/
theorem perform_rename (injective : Function.Injective σ) (call : Call) :
    perform (log.rename σ) disk (call.rename σ) =
      ((perform log disk call).1.rename σ, (perform log disk call).2.1.rename σ,
        (perform log disk call).2.2) := by
  cases call with
  | append now draft =>
      change perform (log.rename σ) disk (.append now draft) = _
      rw [perform, append_rename]
      rfl
  | subscribe fresh start owner =>
      rw [Call.rename, perform, subscribe_rename log injective]
      rfl
  | read id max =>
      rw [Call.rename, perform, read_rename log injective]
      rfl
  | unsubscribe id =>
      rw [Call.rename, perform, unsubscribe_rename log injective]
      rfl
  | cursorInfo id =>
      rw [Call.rename, perform, cursorInfo_rename log injective]
      rfl
  | acknowledge consumer offset =>
      change perform (log.rename σ) disk (.acknowledge consumer offset) = _
      rw [perform, acknowledge_rename]
      rfl
  | stats =>
      have size : (log.cursors.rename σ).size = log.cursors.size := List.length_map _
      change perform (log.rename σ) disk .stats = _
      rw [perform, stats]
      dsimp only [rename]
      rw [size]
      rfl
  | _ => rfl

end Log
end ChangeLog
