/-
  Events: what a producer submits, and what the log keeps of it once it has an offset, a time and
  an identifier. The images before and after the change are opaque bytes; an empty one means that
  the subject did not exist.
-/
import ChangeLog.Event.Id
import ChangeLog.Time.Rfc3339

namespace ChangeLog

/-- An event as a producer submits it. -/
structure Draft where
  type : String
  source : String := ""
  before : Bytes := []
  after : Bytes := []
deriving DecidableEq, Repr

/-- An event of the log. Offsets count from 0 without gaps and are the only order; the clock may
go backwards from one event to the next. -/
structure Event extends Draft where
  offset : UInt64
  id : EventId
  time : Time.Instant
deriving DecidableEq, Repr

namespace Event

/-- Gives a submitted event its place in the log. -/
def stamp (draft : Draft) (offset : UInt64) (time : Time.Instant) : Event :=
  { draft with offset, time, id := EventId.derive draft.type draft.source time offset }

/-- Whether the identifier is the one that the other fields give. -/
def verifies (e : Event) : Bool := EventId.derive e.type e.source e.time e.offset = e.id

/-- The subject came into being. -/
def isCreate (e : Event) : Bool := e.before.isEmpty && !e.after.isEmpty

/-- The subject ceased to be. -/
def isDelete (e : Event) : Bool := !e.before.isEmpty && e.after.isEmpty

theorem verifies_stamp (draft : Draft) (offset : UInt64) (time : Time.Instant) :
    (stamp draft offset time).verifies = true := by
  simp [verifies, stamp]

end Event

/-- The time is kept as text. -/
instance : Wire Time.Instant where
  write time := Wire.write (Time.Rfc3339.stored time)
  read bytes := do
    let (text, rest) ← Wire.read (α := String) bytes
    let time ← Time.Rfc3339.parse text
    return (time, rest)

instance : Wire Event where
  write e :=
    Wire.write e.offset ++ (Wire.write e.id ++ (Wire.write e.type ++ (Wire.write e.before ++
      (Wire.write e.after ++ (Wire.write e.source ++ Wire.write e.time)))))
  read bytes := do
    let (offset, bytes) ← Wire.read bytes
    let (id, bytes) ← Wire.read bytes
    let (type, bytes) ← Wire.read bytes
    let (before, bytes) ← Wire.read bytes
    let (after, bytes) ← Wire.read bytes
    let (source, bytes) ← Wire.read bytes
    let (time, bytes) ← Wire.read bytes
    return ({ type, source, before, after, offset, id, time }, bytes)

end ChangeLog
