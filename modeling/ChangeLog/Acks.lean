/-
  Acknowledgements: how far each consumer has come. A slot holds the acknowledged offset plus one,
  so that 0 stands for nothing acknowledged. An acknowledgement is recorded before it shows, so a
  sink that fails never lets one show that would be forgotten.
-/
import ChangeLog.Log.Error
import ChangeLog.Store.Progress

namespace ChangeLog

/-- Where progress is recorded for good. Recording and rewinding may fail. -/
class ProgressSink (σ : Type) where
  /-- Raises the recorded progress of a consumer. -/
  record : σ → Consumer → UInt64 → Except StoreError Unit × σ
  /-- Sets the recorded progress of a consumer, or forgets the consumer. -/
  rewind : σ → Consumer → Option UInt64 → Except StoreError Unit × σ
  /-- All recorded progress, by name of the consumer. -/
  load : σ → List (Consumer × UInt64)

/-- A progress store together with the disk that its journal is on. -/
instance : ProgressSink (ProgressStore × Disk) where
  record := fun (store, disk) consumer offset => store.record disk consumer offset
  rewind := fun (store, disk) consumer offset => store.rewind disk consumer offset
  load := fun (store, _) => store.load

/-- How far each consumer has come. -/
structure Acks where
  slots : Roster UInt64 := Roster.empty
deriving DecidableEq

namespace Acks

variable {σ : Type} [ProgressSink σ]

/-- The slot of a consumer. -/
def slot (acks : Acks) (consumer : Consumer) : UInt64 := (acks.slots.get? consumer).getD 0

/-- Makes a slot for a consumer that has none; nothing is acknowledged in it yet. -/
def reserve (acks : Acks) (consumer : Consumer) : Acks :=
  match acks.slots.get? consumer with
  | none => ⟨acks.slots.insert consumer 0⟩
  | some _ => acks

/-- The offset that a slot stands for. -/
def acknowledged (slot : UInt64) : Option UInt64 := if slot = 0 then none else some (slot - 1)

/-- Takes over recorded progress. What lies at or past `next` refers to events that the log no
longer holds: it is set back to the last event, or forgotten when the log is empty. -/
def settle (next : UInt64) :
    List (Consumer × UInt64) → Acks → σ → Except LogError Acks × σ
  | [], acks, sink => (.ok acks, sink)
  | (consumer, offset) :: rest, acks, sink =>
    if offset < next then settle next rest ⟨acks.slots.insert consumer (offset + 1)⟩ sink
    else
      let last := if next = 0 then none else some (next - 1)
      match ProgressSink.rewind sink consumer last with
      | (.error cause, sink) => (.error (.ofStore cause), sink)
      | (.ok (), sink) =>
        match last with
        | none => settle next rest acks sink
        | some offset => settle next rest ⟨acks.slots.insert consumer (offset + 1)⟩ sink

/-- Takes over all progress that a sink has recorded. -/
def recover (sink : σ) (next : UInt64) : Except LogError Acks × σ :=
  settle next (ProgressSink.load sink) {} sink

/-- Acknowledges everything up to `offset` of a log that ends at `next`; gives the progress after
it. An acknowledgement that raises nothing is accepted and not recorded. The consumer has its slot
before the offset is recorded, and keeps it when that fails. -/
def acknowledge (acks : Acks) (sink : σ) (consumer : Consumer) (offset next : UInt64) :
    Except LogError UInt64 × Acks × σ :=
  if next ≤ offset then (.error (.outOfRange offset next), acks, sink)
  else
    let acks := acks.reserve consumer
    let target := offset + 1
    let current := acks.slot consumer
    if target ≤ current then (.ok (current - 1), acks, sink)
    else
      match ProgressSink.record sink consumer offset with
      | (.error cause, sink) => (.error (.ofStore cause), acks, sink)
      | (.ok (), sink) =>
        (.ok (max current target - 1), ⟨acks.slots.insert consumer (max current target)⟩, sink)

/-- The highest offset that a consumer has acknowledged. -/
def progress (acks : Acks) (consumer : Consumer) : Option UInt64 :=
  (acks.slots.get? consumer).bind acknowledged

/-- Where a consumer goes on after a restart. -/
def resumeOffset (acks : Acks) (consumer : Consumer) : UInt64 :=
  match acks.progress consumer with
  | none => 0
  | some offset => offset + 1

/-- Every consumer that has acknowledged something, by name. -/
def all (acks : Acks) : List (Consumer × UInt64) :=
  acks.slots.entries.filterMap fun (consumer, slot) =>
    (acknowledged slot).map fun offset => (consumer, offset)

/-- How many consumers have acknowledged something. -/
def tracked (acks : Acks) : Nat := (acks.slots.entries.filter fun e => e.2 > 0).length

end Acks
end ChangeLog
