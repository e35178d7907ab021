/-
  The log: events, the progress of consumers, open cursors and acknowledgements under one roof, in
  memory or in a directory. Every operation but looking at the counters is refused once the log is
  closed, and a refused operation changes nothing.
-/
import ChangeLog.Acks
import ChangeLog.Cursor
import ChangeLog.Log.Replay

namespace ChangeLog

/-- A log. `maxBatch` bounds what one read hands out. -/
structure Log where
  events : EventStore := {}
  progress : ProgressStore := {}
  cursors : Cursors := {}
  acks : Acks := {}
  maxBatch : UInt64
deriving DecidableEq

/-- Counters of a log at one moment. -/
structure Log.Stats where
  nextOffset : UInt64
  openCursors : Nat
  trackedConsumers : Nat
  isClosed : Bool
deriving DecidableEq, Repr

namespace Log

/-- The bound on a read where none is given. -/
def defaultMaxBatch : UInt64 := 100

/-! ## Opening -/

/-- A log over two stores; takes over the recorded progress. -/
def assemble (events : EventStore) (progress : ProgressStore) (disk : Disk) (maxBatch : UInt64) :
    Except LogError Log × Disk :=
  match Acks.recover (progress, disk) events.nextOffset with
  | (.error fault, _, disk) => (.error fault, disk)
  | (.ok acks, progress, disk) => (.ok { events, progress, acks, maxBatch }, disk)

/-- A new log in memory. -/
def inMemory (maxBatch : UInt64) : Log := { maxBatch }

/-- The log in a directory, made if there is none. -/
def openIn (disk : Disk) (directory : String) (maxBatch : UInt64) : Except LogError Log × Disk :=
  match EventStore.openIn disk directory with
  | (.error cause, disk) => (.error (.ofStore cause), disk)
  | (.ok events, disk) =>
    match ProgressStore.openIn disk directory with
    | (.error cause, disk) => (.error (.ofStore cause), disk)
    | (.ok progress, disk) => assemble events progress disk maxBatch

/-! ## Events -/

/-- Gives an answer only while the log is open. -/
def whenOpen {α : Type} (log : Log) (answer : Except LogError α) : Except LogError α :=
  if log.events.isClosed then .error .closed else answer

/-- Appends a submitted event at the time `now`. A type of nothing but white space is refused. -/
def append (log : Log) (disk : Disk) (now : Time.Instant) (draft : Draft) :
    Except LogError Event × Log × Disk :=
  if Text.allBlank draft.type then (.error .blankType, log, disk)
  else if log.events.isClosed then (.error .closed, log, disk)
  else
    match log.events.append disk now draft with
    | (result, events, disk) => (LogError.lift result, { log with events }, disk)

/-- The offset that the next event gets. -/
def nextOffset (log : Log) : UInt64 := log.events.nextOffset

/-- The event at an offset. -/
def get (log : Log) (offset : UInt64) : Except LogError Event :=
  match log.events.get offset with
  | .error cause => .error (.ofStore cause)
  | .ok none => .error (.eventNotFound offset)
  | .ok (some e) => .ok e

/-! ## Cursors -/

/-- Opens a cursor under a fresh identifier. -/
def subscribe (log : Log) (fresh : CursorId) (start : UInt64) (owner : Option String) :
    Except LogError CursorId × Log :=
  if log.events.isClosed then (.error .closed, log)
  else
    let (result, cursors) := log.cursors.subscribe log.events fresh start owner
    (result, { log with cursors })

/-- Reads at most `max` events, and never more than the log's bound, from a cursor. -/
def read (log : Log) (id : CursorId) (max : UInt64) : Except LogError Batch × Log :=
  if log.events.isClosed then (.error .closed, log)
  else
    let (result, cursors) := log.cursors.read log.events id (min max log.maxBatch)
    (result, { log with cursors })

/-- Closes a cursor. -/
def unsubscribe (log : Log) (id : CursorId) : Except LogError Unit × Log :=
  if log.events.isClosed then (.error .closed, log)
  else
    let (result, cursors) := log.cursors.unsubscribe id
    (result, { log with cursors })

/-- What is known of a cursor. -/
def cursorInfo (log : Log) (id : CursorId) : Except LogError Cursor :=
  log.whenOpen (log.cursors.info id)

/-! ## Acknowledgements -/

/-- Acknowledges everything up to `offset`; gives the progress after it. -/
def acknowledge (log : Log) (disk : Disk) (consumer : Consumer) (offset : UInt64) :
    Except LogError UInt64 × Log × Disk :=
  if log.events.isClosed then (.error .closed, log, disk)
  else
    let (result, acks, progress, disk) :=
      log.acks.acknowledge (log.progress, disk) consumer offset log.events.nextOffset
    (result, { log with acks, progress }, disk)

/-- The highest offset that a consumer has acknowledged. -/
def progressOf (log : Log) (consumer : Consumer) : Except LogError (Option UInt64) :=
  log.whenOpen (.ok (log.acks.progress consumer))

/-- Where a consumer goes on after a restart. -/
def resumeOffset (log : Log) (consumer : Consumer) : Except LogError UInt64 :=
  log.whenOpen (.ok (log.acks.resumeOffset consumer))

/-- Every consumer that has acknowledged something, by name. -/
def consumers (log : Log) : Except LogError (List (Consumer × UInt64)) :=
  log.whenOpen (.ok log.acks.all)

/-! ## Replay -/

/-- The events with offsets from `first` to `last`. -/
def replay (log : Log) (first last : UInt64) : Except LogError (List Event) :=
  log.whenOpen (log.events.replay first last)

/-- The events from `first` to the end. -/
def replayFrom (log : Log) (first : UInt64) : Except LogError (List Event) :=
  log.whenOpen (log.events.replayFrom first)

/-! ## Lifecycle -/

/-- Closes the log for good. -/
def close (log : Log) : Log := { log with events := log.events.close }

/-- Whether the log is closed. -/
def isClosed (log : Log) : Bool := log.events.isClosed

/-- The counters of the log. -/
def stats (log : Log) : Stats :=
  { nextOffset := log.nextOffset, openCursors := log.cursors.size,
    trackedConsumers := log.acks.tracked, isClosed := log.isClosed }

end Log
end ChangeLog
