/-
  Event stores: the events of the log by offset, and a flag that closes the store for good. A store
  may keep a journal, in which an event is written before anyone can see it; reading never touches
  the journal.
-/
import ChangeLog.Event
import ChangeLog.Journal

namespace ChangeLog

/-- An event store, kept in a journal or in memory only. -/
structure EventStore where
  journal : Option (Journal Event) := none
  events : List Event := []
  isClosed : Bool := false
deriving DecidableEq, Repr

namespace EventStore

/-- The name of the journal in its directory. -/
def fileName : String := "events.wal"

/-- A new store in memory. -/
def inMemory : EventStore := {}

/-- The offset that the next event gets. -/
def nextOffset (store : EventStore) : UInt64 := UInt64.ofNat store.events.length

/-- The first event that does not stand at its own offset, counted from `expected`. -/
def gap? (expected : UInt64) : List Event → Option (UInt64 × UInt64)
  | [] => none
  | e :: rest => if e.offset = expected then gap? (expected + 1) rest else some (expected, e.offset)

/-- Opens the store in a directory and takes over the events of its journal, which have to be
numbered from 0 without gaps. -/
def openIn (disk : Disk) (directory : String) : Except StoreError EventStore × Disk :=
  let path := Path.join directory fileName
  match Journal.openAt disk path with
  | (.error fault, disk) => (.error fault, disk)
  | (.ok journal, disk) =>
    match journal.recover disk with
    | (.error fault, _, disk) => (.error fault, disk)
    | (.ok events, journal, disk) =>
      match gap? 0 events with
      | some (expected, found) => (.error (.offsetGap path expected found), disk)
      | none => (.ok { journal := some journal, events }, disk)

/-- Writes an event to the journal, if the store keeps one. -/
def write (store : EventStore) (disk : Disk) (e : Event) :
    Except StoreError Unit × EventStore × Disk :=
  match store.journal with
  | none => (.ok (), store, disk)
  | some journal =>
    match journal.append disk e with
    | (.error fault, journal, disk) => (.error fault, { store with journal := some journal }, disk)
    | (.ok _, journal, disk) => (.ok (), { store with journal := some journal }, disk)

/-- Stamps a submitted event with the next offset and the time `now`, and stores it. -/
def append (store : EventStore) (disk : Disk) (now : Time.Instant) (draft : Draft) :
    Except StoreError Event × EventStore × Disk :=
  if store.isClosed then (.error .closed, store, disk)
  else
    let e := Event.stamp draft store.nextOffset now
    match store.write disk e with
    | (.error fault, store, disk) => (.error fault, store, disk)
    | (.ok (), store, disk) => (.ok e, { store with events := store.events ++ [e] }, disk)

/-- The event at an offset. -/
def get (store : EventStore) (offset : UInt64) : Except StoreError (Option Event) :=
  if store.isClosed then .error .closed
  else if store.nextOffset ≤ offset then .ok none
  else .ok store.events[offset.toNat]?

/-- The events from offset `first` up to, but without, `stop`; both are cut to the log. -/
def slice (store : EventStore) (first stop : UInt64) : Except StoreError (List Event) :=
  if store.isClosed then .error .closed
  else
    let stop := min stop store.nextOffset
    if stop ≤ first then .ok []
    else .ok ((store.events.drop first.toNat).take (stop - first).toNat)

/-- Closes the store; closing again changes nothing. -/
def close (store : EventStore) : EventStore := { store with isClosed := true }

/-- The form of a store in memory for diagnostics. -/
def debug (store : EventStore) : String :=
  "InMemoryEventStore \x7b next_offset: " ++ toString store.nextOffset ++ ", closed: " ++
    toString store.isClosed ++ " \x7d"

end EventStore
end ChangeLog
