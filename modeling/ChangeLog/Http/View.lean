/-
  What replies show of the log. Payloads are shown in hexadecimal and times with the offset
  `+00:00`.
-/
import ChangeLog.Json.Value
import ChangeLog.Log

namespace ChangeLog.Http

open Json (Value)

/-- An event. -/
def eventView (e : Event) : Value :=
  .object [("offset", Json.word e.offset), ("event_id", .text e.id.text),
    ("event_type", .text e.type), ("before", .text (Hex.encode e.before)),
    ("after", .text (Hex.encode e.after)), ("source", .text e.source),
    ("timestamp", .text (Time.Rfc3339.shown e.time))]

/-- Events. -/
def eventsView (es : List Event) : Value := .object [("events", .array (es.map eventView))]

/-- What a read hands out. -/
def batchView (b : Batch) : Value :=
  .object [("events", .array (b.events.map eventView)), ("position", Json.word b.position)]

/-- The place of a new event. -/
def appendedView (e : Event) : Value :=
  .object [("offset", Json.word e.offset), ("event_id", .text e.id.text)]

/-- A new cursor. -/
def subscribedView (id : CursorId) (position : UInt64) : Value :=
  .object [("cursor_id", .text id.text), ("position", Json.word position)]

/-- A cursor. -/
def cursorView (id : CursorId) (c : Cursor) : Value :=
  .object [("cursor_id", .text id.text), ("owner", Json.optional .text c.owner),
    ("from_offset", Json.word c.start), ("position", Json.word c.position)]

/-- The offset after an acknowledged one, or the start. -/
def resumeAfter : Option UInt64 → UInt64
  | none => 0
  | some offset => offset + 1

/-- How far a consumer has come. -/
def progressView (consumer : Consumer) (acknowledged : Option UInt64) : Value :=
  .object [("consumer", .text consumer.name),
    ("acknowledged_offset", Json.optional Json.word acknowledged),
    ("resume_offset", Json.word (resumeAfter acknowledged))]

/-- How far all consumers have come. -/
def consumersView (all : List (Consumer × UInt64)) : Value :=
  .object [("consumers", .array (all.map fun (c, offset) => progressView c (some offset)))]

/-- Whether the log is open. -/
def healthView (isClosed : Bool) : Value :=
  .object [("status", .text (if isClosed then "closed" else "ok")), ("closed", .truth isClosed)]

/-- The counters of the log. -/
def infoView (stats : Log.Stats) (maxBatch : UInt64) : Value :=
  .object [("name", .text "clog-server"), ("version", .text "0.1.0"),
    ("next_offset", Json.word stats.nextOffset), ("open_cursors", .number stats.openCursors),
    ("tracked_consumers", .number stats.trackedConsumers), ("max_read_batch", Json.word maxBatch)]

end ChangeLog.Http
