/-
  Progress stores: for each consumer the highest offset that was recorded. Recording never lowers
  it; rewinding sets it to anything, or forgets the consumer. A store may keep a journal of these
  changes; the state is the fold of the journal's records.
-/
import ChangeLog.Journal
import ChangeLog.Roster

namespace ChangeLog

/-- A change of progress as the journal keeps it. -/
inductive ProgressRecord where
  | ack (consumer : Consumer) (offset : UInt64)
  | rewind (consumer : Consumer) (offset : Option UInt64)
deriving DecidableEq, Repr

instance : Wire ProgressRecord where
  write
    | .ack consumer offset =>
      Wire.write (0 : UInt32) ++ (Wire.write consumer ++ Wire.write offset)
    | .rewind consumer offset =>
      Wire.write (1 : UInt32) ++ (Wire.write consumer ++ Wire.write offset)
  read bytes := do
    let (variant, bytes) ← Wire.read (α := UInt32) bytes
    let (consumer, bytes) ← Wire.read bytes
    match variant with
    | 0 =>
      let (offset, bytes) ← Wire.read bytes
      return (.ack consumer offset, bytes)
    | 1 =>
      let (offset, bytes) ← Wire.read bytes
      return (.rewind consumer offset, bytes)
    | _ => none

/-- The highest offset recorded for each consumer. -/
abbrev Progress := Roster UInt64

namespace Progress

/-- Raises the progress of a consumer to `offset`, if it is lower. -/
def record (p : Progress) (consumer : Consumer) (offset : UInt64) : Progress :=
  match p.get? consumer with
  | none => p.insert consumer offset
  | some current => p.insert consumer (max current offset)

/-- Sets the progress of a consumer to exactly `offset`, or forgets the consumer. -/
def rewind (p : Progress) (consumer : Consumer) : Option UInt64 → Progress
  | some offset => p.insert consumer offset
  | none => p.erase consumer

/-- Applies one record. -/
def apply (p : Progress) : ProgressRecord → Progress
  | .ack consumer offset => p.record consumer offset
  | .rewind consumer offset => p.rewind consumer offset

/-- Applies records in their order, from nothing. -/
def ofRecords (records : List ProgressRecord) : Progress := records.foldl apply Roster.empty

end Progress

/-- A progress store, kept in a journal or in memory only. -/
structure ProgressStore where
  journal : Option (Journal ProgressRecord) := none
  progress : Progress := Roster.empty
deriving DecidableEq

namespace ProgressStore

/-- The name of the journal in its directory. -/
def fileName : String := "progress.wal"

/-- A new store in memory. -/
def inMemory : ProgressStore := {}

/-- Opens the store in a directory and applies the records of its journal. -/
def openIn (disk : Disk) (directory : String) : Except StoreError ProgressStore × Disk :=
  match Journal.openAt disk (Path.join directory fileName) with
  | (.error fault, disk) => (.error fault, disk)
  | (.ok journal, disk) =>
    match journal.recover disk with
    | (.error fault, _, disk) => (.error fault, disk)
    | (.ok records, journal, disk) =>
      (.ok { journal := some journal, progress := Progress.ofRecords records }, disk)

/-- Writes a record to the journal, if the store keeps one, and applies it. -/
def apply (store : ProgressStore) (disk : Disk) (record : ProgressRecord) :
    Except StoreError Unit × ProgressStore × Disk :=
  match store.journal with
  | none => (.ok (), { store with progress := store.progress.apply record }, disk)
  | some journal =>
    match journal.append disk record with
    | (.error fault, journal, disk) => (.error fault, { store with journal := some journal }, disk)
    | (.ok _, journal, disk) =>
      (.ok (), { journal := some journal, progress := store.progress.apply record }, disk)

/-- Records an acknowledgement; one that raises nothing is not written. -/
def record (store : ProgressStore) (disk : Disk) (consumer : Consumer) (offset : UInt64) :
    Except StoreError Unit × ProgressStore × Disk :=
  match store.progress.get? consumer with
  | none => store.apply disk (.ack consumer offset)
  | some current =>
    if offset ≤ current then (.ok (), store, disk) else store.apply disk (.ack consumer offset)

/-- Sets the progress of a consumer, or forgets the consumer. -/
def rewind (store : ProgressStore) (disk : Disk) (consumer : Consumer) (offset : Option UInt64) :
    Except StoreError Unit × ProgressStore × Disk :=
  store.apply disk (.rewind consumer offset)

/-- Every consumer with its progress. -/
def load (store : ProgressStore) : List (Consumer × UInt64) := store.progress.entries

end ProgressStore
end ChangeLog
