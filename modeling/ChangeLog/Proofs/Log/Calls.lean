/-
  What a log is asked, and what it answers: every operation as a value, so that statements can be
  made about all runs of calls. Calls are answered one after the other; a call may change one cursor
  at most (`find?_perform`), and the events only grow (`performAll_keeps`).
-/
import ChangeLog.Proofs.Cursor
import ChangeLog.Log

namespace ChangeLog

/-- An event that a store accepts is stamped with the next offset and comes at the end. -/
theorem EventStore.append_stamps {store later : EventStore} {disk after : Disk}
    {now : Time.Instant} {draft : Draft} {e : Event}
    (accepted : store.append disk now draft = (.ok e, later, after)) :
    e = Event.stamp draft store.nextOffset now ∧ later.events = store.events ++ [e] := by
  unfold append at accepted
  split at accepted
  · cases accepted
  · dsimp only at accepted
    split at accepted
    · cases accepted
    · rename_i kept after' wrote
      cases accepted
      refine ⟨rfl, ?_⟩
      unfold write at wrote
      split at wrote
      · cases wrote
        rfl
      · split at wrote
        · cases wrote
        · cases wrote
          rfl

namespace Log

/-- What a log is asked. A subscription brings the identifier that its cursor is to have. -/
inductive Call where
  | append (now : Time.Instant) (draft : Draft)
  | nextOffset
  | get (offset : UInt64)
  | subscribe (fresh : CursorId) (start : UInt64) (owner : Option String)
  | read (id : CursorId) (max : UInt64)
  | unsubscribe (id : CursorId)
  | cursorInfo (id : CursorId)
  | acknowledge (consumer : Consumer) (offset : UInt64)
  | progressOf (consumer : Consumer)
  | resumeOffset (consumer : Consumer)
  | consumers
  | replay (first last : UInt64)
  | replayFrom (first : UInt64)
  | close
  | isClosed
  | stats
deriving DecidableEq, Repr

/-- What it answers. -/
inductive Answer where
  | event (result : Except LogError Event)
  | offset (next : UInt64)
  | cursor (result : Except LogError CursorId)
  | batch (result : Except LogError Batch)
  | unsubscribed (result : Except LogError Unit)
  | info (id : CursorId) (result : Except LogError Cursor)
  | progress (result : Except LogError UInt64)
  | reached (result : Except LogError (Option UInt64))
  | consumers (result : Except LogError (List (Consumer × UInt64)))
  | events (result : Except LogError (List Event))
  | closed
  | flag (isClosed : Bool)
  | stats (counters : Stats) (maxBatch : UInt64)

/-- Answers a call. -/
def perform (log : Log) (disk : Disk) : Call → Answer × Log × Disk
  | .append now draft =>
    let (result, log, disk) := log.append disk now draft
    (.event result, log, disk)
  | .nextOffset => (.offset log.nextOffset, log, disk)
  | .get offset => (.event (log.get offset), log, disk)
  | .subscribe fresh start owner =>
    let (result, log) := log.subscribe fresh start owner
    (.cursor result, log, disk)
  | .read id max =>
    let (result, log) := log.read id max
    (.batch result, log, disk)
  | .unsubscribe id =>
    let (result, log) := log.unsubscribe id
    (.unsubscribed result, log, disk)
  | .cursorInfo id => (.info id (log.cursorInfo id), log, disk)
  | .acknowledge consumer offset =>
    let (result, log, disk) := log.acknowledge disk consumer offset
    (.progress result, log, disk)
  | .progressOf consumer => (.reached (log.progressOf consumer), log, disk)
  | .resumeOffset consumer => (.progress (log.resumeOffset consumer), log, disk)
  | .consumers => (.consumers log.consumers, log, disk)
  | .replay first last => (.events (log.replay first last), log, disk)
  | .replayFrom first => (.events (log.replayFrom first), log, disk)
  | .close => (.closed, log.close, disk)
  | .isClosed => (.flag log.isClosed, log, disk)
  | .stats => (.stats log.stats log.maxBatch, log, disk)

/-- Answers calls one after the other. -/
def performAll (log : Log) (disk : Disk) : List Call → List Answer × Log × Disk
  | [] => ([], log, disk)
  | call :: calls =>
    let (answer, log, disk) := perform log disk call
    let (answers, log, disk) := performAll log disk calls
    (answer :: answers, log, disk)

/-- The calls that can add an event. -/
def Call.appends : Call → Bool
  | .append _ _ => true
  | _ => false

/-- The calls that can change the cursor of a name. -/
def Call.Touches (id : CursorId) : Call → Prop
  | .subscribe fresh _ _ => fresh = id
  | .read other _ | .unsubscribe other => other = id
  | _ => False

variable {log : Log} {disk : Disk} {id : CursorId}

theorem performAll_cons (log : Log) (disk : Disk) (call : Call) (calls : List Call) :
    performAll log disk (call :: calls) =
      ((perform log disk call).1 ::
          (performAll (perform log disk call).2.1 (perform log disk call).2.2 calls).1,
        (performAll (perform log disk call).2.1 (perform log disk call).2.2 calls).2) := rfl

/-! ## What operations on cursors do -/

/-- A subscription is refused, or there is a new cursor at a place of the log or at its end. -/
theorem subscribe_cases (log : Log) (fresh : CursorId) (start : UInt64) (owner : Option String) :
    (∃ fault, log.subscribe fresh start owner = (.error fault, log)) ∨
    (start ≤ log.nextOffset ∧ log.subscribe fresh start owner = (.ok fresh, { log with cursors :=
      ⟨(log.cursors.erase fresh).entries ++ [(fresh, { owner, start, position := start })]⟩ })) := by
  unfold subscribe Cursors.subscribe
  split
  · exact .inl ⟨_, rfl⟩
  · by_cases far : log.events.nextOffset < start
    · rw [if_pos far]
      exact .inl ⟨_, rfl⟩
    · rw [if_neg far]
      exact .inr ⟨UInt64.not_lt.mp far, rfl⟩

/-- An open log reads from every cursor that is there. -/
theorem read_eq_ok {cursor : Cursor} (found : log.cursors.find? id = some cursor)
    (isOpen : log.isClosed = false) (max : UInt64) :
    ∃ stop,
      log.read id max =
        (.ok { events := between log.events.events cursor.position stop, position := stop },
          { log with cursors := log.cursors.move id stop }) ∧
      stop.toNat = cursor.position.toNat + min (min max.toNat log.maxBatch.toNat)
        (log.nextOffset.toNat - cursor.position.toNat) := by
  have isOpen : log.events.isClosed = false := isOpen
  obtain ⟨stop, handed, stop_eq⟩ := Cursors.read_eq found isOpen (min max log.maxBatch)
  rw [Cursors.toNat_min] at stop_eq
  unfold read
  rw [isOpen, if_neg Bool.false_ne_true, handed]
  exact ⟨stop, rfl, stop_eq⟩

theorem exists_read_eq_ok {cursor : Cursor} (found : log.cursors.find? id = some cursor)
    (isOpen : log.isClosed = false) (max : UInt64) :
    ∃ batch later, log.read id max = (.ok batch, later) := by
  obtain ⟨stop, gave, -⟩ := read_eq_ok found isOpen max
  exact ⟨_, _, gave⟩

/-- A read is refused, or it moves a cursor that is there. -/
theorem read_cases (log : Log) (id : CursorId) (max : UInt64) :
    (∃ fault, log.read id max = (.error fault, log)) ∨
    ∃ cursor stop, log.cursors.find? id = some cursor ∧
      log.read id max =
        (.ok { events := between log.events.events cursor.position stop, position := stop },
          { log with cursors := log.cursors.move id stop }) ∧
      stop.toNat = cursor.position.toNat + min (min max.toNat log.maxBatch.toNat)
        (log.nextOffset.toNat - cursor.position.toNat) := by
  by_cases closed : log.events.isClosed = true
  · left
    rw [read, if_pos closed]
    exact ⟨_, rfl⟩
  · cases found : log.cursors.find? id with
    | none =>
        left
        rw [read, if_neg closed, Cursors.read_of_find?_none found]
        exact ⟨_, rfl⟩
    | some cursor =>
        obtain ⟨stop, gave, stop_eq⟩ := read_eq_ok found (Bool.not_eq_true _ ▸ closed) max
        exact .inr ⟨cursor, stop, rfl, gave, stop_eq⟩

/-- Closing a cursor is refused, or the cursor is gone. -/
theorem unsubscribe_cases (log : Log) (id : CursorId) :
    (∃ fault, log.unsubscribe id = (.error fault, log)) ∨
    log.unsubscribe id = (.ok (), { log with cursors := log.cursors.erase id }) := by
  unfold unsubscribe Cursors.unsubscribe
  split
  · exact .inl ⟨_, rfl⟩
  · cases log.cursors.find? id with
    | none => exact .inl ⟨_, rfl⟩
    | some cursor => exact .inr rfl

/-! ## What replays give -/

section Replays

variable {first last : UInt64} {es : List Event}

/-- What replaying a range of an open log comes to. -/
theorem replay_eq (isOpen : log.isClosed = false) (first last : UInt64) :
    log.replay first last =
      if last < first then .error (.invalidRange first last)
      else if log.nextOffset ≤ last then .error (.outOfRange last log.nextOffset)
      else .ok (between log.events.events first (last + 1)) := by
  have isOpen : log.events.isClosed = false := isOpen
  rw [replay, whenOpen, isOpen, if_neg Bool.false_ne_true, EventStore.replay_eq isOpen]
  rfl

/-- When a range is given, and what is given. -/
theorem replay_eq_ok_iff (isOpen : log.isClosed = false) :
    log.replay first last = .ok es ↔
      first ≤ last ∧ last < log.nextOffset ∧ es = between log.events.events first (last + 1) := by
  rw [replay_eq isOpen]
  constructor
  · intro given
    split at given
    · cases given
    · rename_i ordered
      split at given
      · cases given
      · rename_i inside
        cases given
        exact ⟨UInt64.not_lt.mp ordered, UInt64.not_le.mp inside, rfl⟩
  · rintro ⟨ordered, inside, rfl⟩
    rw [if_neg (UInt64.not_lt.mpr ordered), if_neg (UInt64.not_le.mpr inside)]

theorem isOpen_of_replay (replayed : log.replay first last = .ok es) : log.isClosed = false := by
  cases closed : log.isClosed with
  | false => rfl
  | true =>
      rw [replay, whenOpen, if_pos (show log.events.isClosed = true from closed)] at replayed
      cases replayed

end Replays

/-! ## What every call leaves alone -/

theorem subscribe_cursors (log : Log) (fresh : CursorId) (start : UInt64)
    (owner : Option String) : ∃ cursors,
    (log.subscribe fresh start owner).2 = { log with cursors } := by
  unfold subscribe
  split
  · exact ⟨log.cursors, rfl⟩
  · exact ⟨_, rfl⟩

theorem read_cursors (log : Log) (id : CursorId) (max : UInt64) : ∃ cursors,
    (log.read id max).2 = { log with cursors } := by
  unfold read
  split
  · exact ⟨log.cursors, rfl⟩
  · exact ⟨_, rfl⟩

theorem unsubscribe_cursors (log : Log) (id : CursorId) : ∃ cursors,
    (log.unsubscribe id).2 = { log with cursors } := by
  unfold unsubscribe
  split
  · exact ⟨log.cursors, rfl⟩
  · exact ⟨_, rfl⟩

/-- A store's events stay, or one more comes at the end. -/
theorem events_append_cases (store : EventStore) (disk : Disk) (now : Time.Instant)
    (draft : Draft) :
    (store.append disk now draft).2.1.events = store.events ∨
      ∃ e, (store.append disk now draft).2.1.events = store.events ++ [e] := by
  unfold EventStore.append EventStore.write
  split
  · exact .inl rfl
  · cases store.journal with
    | none => exact .inr ⟨_, rfl⟩
    | some journal =>
        dsimp only
        unfold Journal.append
        dsimp only
        split
        · rename_i wrote
          split at wrote
          · cases wrote
            exact .inl rfl
          · cases wrote
        · rename_i wrote
          split at wrote
          · cases wrote
          · cases wrote
            exact .inr ⟨_, rfl⟩

theorem append_keeps (log : Log) (disk : Disk) (now : Time.Instant) (draft : Draft) :
    ((log.append disk now draft).2.1.events.events = log.events.events ∨
        ∃ e, (log.append disk now draft).2.1.events.events = log.events.events ++ [e]) ∧
      (log.append disk now draft).2.1.maxBatch = log.maxBatch ∧
      (log.append disk now draft).2.1.cursors = log.cursors := by
  unfold append
  split
  · exact ⟨.inl rfl, rfl, rfl⟩
  · split
    · exact ⟨.inl rfl, rfl, rfl⟩
    · exact ⟨events_append_cases log.events disk now draft, rfl, rfl⟩

theorem append_stamps {later : Log} {after : Disk} {now : Time.Instant} {draft : Draft}
    {e : Event} (accepted : log.append disk now draft = (.ok e, later, after)) :
    e = Event.stamp draft log.nextOffset now ∧
      later.events.events = log.events.events ++ [e] := by
  unfold append at accepted
  split at accepted
  · cases accepted
  · split at accepted
    · cases accepted
    · rcases stored : log.events.append disk now draft with ⟨_ | d, kept, after'⟩
      · rw [stored] at accepted
        cases accepted
      · rw [stored] at accepted
        cases accepted
        exact EventStore.append_stamps stored

theorem acknowledge_keeps (log : Log) (disk : Disk) (consumer : Consumer) (offset : UInt64) :
    (log.acknowledge disk consumer offset).2.1.events = log.events ∧
      (log.acknowledge disk consumer offset).2.1.maxBatch = log.maxBatch ∧
      (log.acknowledge disk consumer offset).2.1.cursors = log.cursors := by
  unfold acknowledge
  split
  · exact ⟨rfl, rfl, rfl⟩
  · exact ⟨rfl, rfl, rfl⟩

/-- Beside appending, acknowledging and closing, a call changes cursors at most. -/
theorem perform_cases (log : Log) (disk : Disk) (call : Call) :
    (∃ cursors, (perform log disk call).2 = ({ log with cursors }, disk)) ∨
    (∃ now draft, call = .append now draft) ∨
    (∃ consumer offset, call = .acknowledge consumer offset) ∨ call = .close := by
  cases call with
  | append now draft => exact .inr (.inl ⟨now, draft, rfl⟩)
  | acknowledge consumer offset => exact .inr (.inr (.inl ⟨consumer, offset, rfl⟩))
  | close => exact .inr (.inr (.inr rfl))
  | subscribe fresh start owner =>
      obtain ⟨cursors, same⟩ := subscribe_cursors log fresh start owner
      exact .inl ⟨cursors, congrArg (·, disk) same⟩
  | read id max =>
      obtain ⟨cursors, same⟩ := read_cursors log id max
      exact .inl ⟨cursors, congrArg (·, disk) same⟩
  | unsubscribe id =>
      obtain ⟨cursors, same⟩ := unsubscribe_cursors log id
      exact .inl ⟨cursors, congrArg (·, disk) same⟩
  | _ => exact .inl ⟨log.cursors, rfl⟩

/-- No call takes events away or changes the bound on reads, and only appending adds an event. -/
theorem perform_keeps (log : Log) (disk : Disk) (call : Call) :
    ((perform log disk call).2.1.events.events = log.events.events ∨
        (call.appends = true ∧
          ∃ e, (perform log disk call).2.1.events.events = log.events.events ++ [e])) ∧
      (perform log disk call).2.1.maxBatch = log.maxBatch := by
  rcases perform_cases log disk call with
    ⟨cursors, looked⟩ | ⟨now, draft, rfl⟩ | ⟨consumer, offset, rfl⟩ | rfl
  · rw [looked]
    exact ⟨.inl rfl, rfl⟩
  · obtain ⟨events, maxBatch, -⟩ := append_keeps log disk now draft
    exact ⟨events.imp_right fun more => ⟨rfl, more⟩, maxBatch⟩
  · obtain ⟨events, maxBatch, -⟩ := acknowledge_keeps log disk consumer offset
    exact ⟨.inl (congrArg EventStore.events events), maxBatch⟩
  · exact ⟨.inl rfl, rfl⟩

theorem isPrefix_events_perform (log : Log) (disk : Disk) (call : Call) :
    log.events.events <+: (perform log disk call).2.1.events.events := by
  rcases (perform_keeps log disk call).1 with same | ⟨-, e, more⟩
  · exact same ▸ List.prefix_refl _
  · exact more ▸ List.prefix_append _ _

theorem isClosed_append (store : EventStore) (disk : Disk) (now : Time.Instant) (draft : Draft) :
    (store.append disk now draft).2.1.isClosed = store.isClosed := by
  unfold EventStore.append EventStore.write
  split
  · rfl
  · cases store.journal with
    | none => rfl
    | some journal =>
        dsimp only
        cases appended : journal.append disk (Event.stamp draft store.nextOffset now) with
        | mk result later => cases result <;> rfl

/-- No call but closing closes a log, and none opens it. -/
theorem isClosed_perform {call : Call} (stays : call ≠ .close) (log : Log) (disk : Disk) :
    (perform log disk call).2.1.isClosed = log.isClosed := by
  rcases perform_cases log disk call with
    ⟨cursors, looked⟩ | ⟨now, draft, rfl⟩ | ⟨consumer, offset, rfl⟩ | closes
  · rw [looked]
    rfl
  · rw [perform]
    dsimp only
    unfold append
    split
    · rfl
    · split
      · rfl
      · exact isClosed_append log.events disk now draft
  · exact congrArg EventStore.isClosed (acknowledge_keeps log disk consumer offset).1
  · exact absurd closes stays

theorem performAll_keeps (log : Log) (disk : Disk) (calls : List Call) :
    log.events.events <+: (performAll log disk calls).2.1.events.events ∧
      (performAll log disk calls).2.1.maxBatch = log.maxBatch := by
  induction calls generalizing log disk with
  | nil => exact ⟨List.prefix_refl _, rfl⟩
  | cons call calls ih =>
      have others := ih (perform log disk call).2.1 (perform log disk call).2.2
      exact ⟨(isPrefix_events_perform log disk call).trans others.1,
        others.2.trans (perform_keeps log disk call).2⟩

/-- A call leaves every cursor alone that it does not name. -/
theorem find?_perform {call : Call} (apart : ¬ call.Touches id) (log : Log) (disk : Disk) :
    (perform log disk call).2.1.cursors.find? id = log.cursors.find? id := by
  cases call with
  | append now draft =>
      rw [perform]
      exact congrArg (Cursors.find? · id) (append_keeps log disk now draft).2.2
  | subscribe fresh start owner =>
      have ne : id ≠ fresh := fun same => apart same.symm
      rw [perform]
      rcases subscribe_cases log fresh start owner with ⟨fault, same⟩ | ⟨-, made⟩
      · rw [same]
      · rw [made]
        dsimp only
        rw [Cursors.find?_insert, if_neg ne]
  | read other max =>
      have ne : id ≠ other := fun same => apart same.symm
      rw [perform]
      rcases read_cases log other max with ⟨fault, same⟩ | ⟨cursor, stop, -, moved, -⟩
      · rw [same]
      · rw [moved]
        dsimp only
        rw [Cursors.find?_move, if_neg ne]
  | unsubscribe other =>
      have ne : id ≠ other := fun same => apart same.symm
      rw [perform]
      rcases unsubscribe_cases log other with ⟨fault, same⟩ | gone
      · rw [same]
      · rw [gone]
        dsimp only
        rw [Cursors.find?_erase, if_neg ne]
  | acknowledge consumer offset =>
      rw [perform]
      exact congrArg (Cursors.find? · id) (acknowledge_keeps log disk consumer offset).2.2
  | _ => rfl

end Log
end ChangeLog
