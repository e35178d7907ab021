/-
  What a command tells its user, and how it is shown: line by line, or as JSON. Payloads are shown
  as text where they are text, and in hexadecimal where they are not.
-/
import ChangeLog.Command
import ChangeLog.Command.Style
import ChangeLog.Http.View

namespace ChangeLog.Command

/-- The counters of a log in a directory, and the sizes of its files. -/
structure Summary where
  directory : String
  nextOffset : UInt64
  trackedConsumers : Nat
  eventsSize : Nat
  progressSize : Nat
deriving DecidableEq, Repr

/-- What a command tells its user. -/
inductive Notice where
  | appended (e : Event)
  | events (es : List Event)
  | acknowledged (consumer : Consumer) (last : UInt64)
  | caughtUp (consumer : Consumer)
  | progress (rows : List (Consumer × Option UInt64))
  | summary (s : Summary)
deriving DecidableEq, Repr

namespace Notice

/-! ## As lines -/

/-- A payload: text, or hexadecimal digits. -/
def payloadText (bytes : Bytes) : String :=
  (Text.decode bytes).getD ("0x" ++ Hex.encode bytes)

/-- The colour of an event's type. -/
def typeColour (e : Event) : Colour :=
  if e.isCreate then .green else if e.isDelete then .red else .cyan

/-- A payload behind its name, if there is one. -/
def payloadLine (title : String) (bytes : Bytes) : List String :=
  if bytes.isEmpty then [] else [title ++ payloadText bytes]

/-- The lines of an event. -/
def eventLines (isColoured : Bool) (e : Event) : List String :=
  let parts :=
    [(Style.boldIn .yellow).apply isColoured ("#" ++ toString e.offset),
     Style.dimmed.apply isColoured e.id.short,
     (Style.inColour (typeColour e)).apply isColoured e.type,
     e.source,
     Style.dimmed.apply isColoured (Time.Rfc3339.shown e.time)]
  "  ".intercalate parts ::
    (payloadLine "  before: " e.before ++ payloadLine "  after:  " e.after)

/-- The mark of a change that was made. -/
def tick (isColoured : Bool) : String := (Style.boldIn .green).apply isColoured "✓"

/-- The line of a consumer's progress. -/
def progressLine (isColoured : Bool) (consumer : Consumer) (offset : Option UInt64) : String :=
  Style.bold.apply isColoured consumer.name ++ "  " ++ match offset with
    | some offset => (Style.inColour .yellow).apply isColoured (toString offset)
    | none => Style.dimmed.apply isColoured "(no progress)"

/-- The lines of a summary. -/
def summaryLines (isColoured : Bool) (s : Summary) : List String :=
  let counter (n : Nat) : String := (Style.inColour .yellow).apply isColoured (toString n)
  let size (name : String) (n : Nat) : String := "  " ++ name ++ "  " ++ toString n ++ " bytes"
  ["Change log in " ++ Style.bold.apply isColoured s.directory,
   "  Events:    " ++ counter s.nextOffset.toNat,
   "  Consumers: " ++ counter s.trackedConsumers,
   size EventStore.fileName s.eventsSize,
   size ProgressStore.fileName s.progressSize]

/-- What a command tells, line by line. -/
def textLines (isColoured : Bool) : Notice → List String
  | .appended e =>
    [tick isColoured ++ " Appended " ++ (Style.inColour .cyan).apply isColoured e.type ++
      " at offset " ++ (Style.boldIn .yellow).apply isColoured (toString e.offset)]
  | .events es => es.flatMap (eventLines isColoured)
  | .acknowledged consumer last =>
    [tick isColoured ++ " " ++ Style.bold.apply isColoured consumer.name ++
      " acknowledged through " ++ (Style.inColour .yellow).apply isColoured (toString last)]
  | .caughtUp consumer => [Style.bold.apply isColoured consumer.name ++ " is caught up."]
  | .progress [] => ["No consumers have acknowledged anything."]
  | .progress rows => rows.map fun (consumer, offset) => progressLine isColoured consumer offset
  | .summary s => summaryLines isColoured s

/-! ## As JSON -/

open Json (Value)

/-- A consumer's progress. -/
def progressRow (consumer : Consumer) (offset : Option UInt64) : Value :=
  .object [("acknowledged_offset", Json.optional Json.word offset),
    ("consumer", .text consumer.name)]

/-- A summary. -/
def summaryView (s : Summary) : Value :=
  .object [("data_dir", .text s.directory), ("events_bytes", .number s.eventsSize),
    ("next_offset", Json.word s.nextOffset), ("progress_bytes", .number s.progressSize),
    ("tracked_consumers", .number s.trackedConsumers)]

/-- What a command tells, as JSON. What is told about acknowledging stays plain text. -/
def jsonLines (isColoured : Bool) : Notice → List String
  | .appended e =>
    [(Value.object [("event_id", .text e.id.text), ("offset", Json.word e.offset)]).compact]
  | .events es => [(Value.array (es.map Http.eventView)).pretty]
  | .progress rows =>
    [(Value.array (rows.map fun (consumer, offset) => progressRow consumer offset)).pretty]
  | .summary s => [(summaryView s).pretty]
  | notice => notice.textLines isColoured

/-- What a command tells, in a format. -/
def lines (format : Format) (isColoured : Bool) (notice : Notice) : List String :=
  match format with
  | .text => notice.textLines isColoured
  | .json => notice.jsonLines isColoured

end Notice
end ChangeLog.Command
