/-
  The server: a log behind requests. A request is checked in a fixed order: resource, method, the
  segment that names a thing, query or body, and then what the log says. A read that may wait is
  handed back as a poll; all other requests are answered at once.
-/
import ChangeLog.Ambient
import ChangeLog.Http.LongPoll
import ChangeLog.Http.MediaType
import ChangeLog.Http.Reply
import ChangeLog.Http.Route
import ChangeLog.Http.View

namespace ChangeLog.Http

/-- A server. -/
structure Server where
  log : Log
  /-- The longest wait, in milliseconds. -/
  longPollMax : UInt64

/-- A read that waits. -/
structure Waiting where
  poll : Poll
  stage : Stage
  /-- The longest time to wait, in milliseconds. -/
  limit : UInt64
  isBare : Bool

/-- What a request comes to. -/
inductive Outcome where
  | answered (reply : Reply)
  | waits (w : Waiting)

namespace Server

/-- Starts a server over the log that the settings describe. -/
def start (disk : Disk) (config : Config) : Except ServerError Server × Disk :=
  match config.validate with
  | .error cause => (.error (.config cause), disk)
  | .ok config =>
    match config.directory with
    | none => (.ok ⟨Log.inMemory config.maxBatch, config.longPollMax⟩, disk)
    | some directory =>
      match Log.openIn disk directory config.maxBatch with
      | (.error cause, disk) => (.error (.log cause), disk)
      | (.ok log, disk) => (.ok ⟨log, config.longPollMax⟩, disk)

/-! ## Parts of requests -/

/-- An offset that a request gives with a sign. -/
def offset (n : Int) : Except Refusal UInt64 :=
  if n < 0 then .error (.failed (.negativeOffset n)) else .ok (UInt64.ofNat n.toNat)

/-- A segment of the path, decoded. -/
def segment (name : String) (cs : List Char) : Except Refusal String :=
  match Text.decode (decodedBytes cs) with
  | some s => .ok s
  | none => .error (.illFormedSegment name)

/-- The parameters of a query. -/
def queryOf (known : List (String × ParamKind)) (query : List Char) : Except Refusal Params :=
  (params known query).mapError Refusal.query

/-- A cursor that a request names; a text that is no identifier names no cursor. -/
def cursorOf (text : String) : Except Refusal CursorId :=
  match CursorId.ofText text with
  | .ok id => .ok id
  | .error _ => .error (.failed (.unknownCursor text))

/-- A consumer that a request names. -/
def consumerOf (text : String) : Except Refusal Consumer :=
  match Consumer.ofText text with
  | .ok c => .ok c
  | .error fault => .error (.failed (.log (.invalidConsumer fault)))

/-- An answer of the log. -/
def fromLog {α : Type} (answer : Except LogError α) : Except Refusal α :=
  answer.mapError fun cause => .failed (.log cause)

/-- A payload in hexadecimal. -/
def payload (field : String) (text : String) : Except Refusal Bytes :=
  (Hex.decode text).mapError fun fault => .failed (.badPayload field fault)

/-- The event that the body of a request submits. -/
def submitted (req : Request) : Except Refusal Draft := do
  match req.contentType with
  | some type => if isJson type then pure () else throw .mediaType
  | none => throw .mediaType
  let found ← (Json.texts ["event_type", "before", "after", "source"] req.body.toList).mapError
    Refusal.body
  match found.lookup "event_type" with
  | none => throw (.body .mismatch)
  | some type =>
    let before ← payload "before" ((found.lookup "before").getD "")
    let after ← payload "after" ((found.lookup "after").getD "")
    return { type, source := (found.lookup "source").getD "", before, after }

/-! ## Answers -/

/-- Shows an event. -/
def showEvent (s : Server) (raw : List Char) : Except Refusal Reply := do
  let text ← segment "offset" raw
  let n ← (Text.parseSigned text.toList).mapError fun _ => Refusal.badSegment text
  let e ← fromLog (s.log.get (← offset n))
  return .ofJson 200 (eventView e)

/-- Shows a range of events. -/
def showEvents (s : Server) (query : List Char) : Except Refusal Reply := do
  let ps ← queryOf [("from", .signed), ("to", .signed)] query
  let first ← offset (← (ps.signed "from").mapError Refusal.query)
  let events ← match ps.signed? "to" with
    | some last => do fromLog (s.log.replay first (← offset last))
    | none => fromLog (s.log.replayFrom first)
  return .ofJson 200 (eventsView events)

/-- Appends an event. -/
def append (s : Server) (disk : Disk) (now : Time.Instant) (req : Request) :
    Except Refusal Reply × Server × Disk :=
  match submitted req with
  | .error refusal => (.error refusal, s, disk)
  | .ok draft =>
    match s.log.append disk now draft with
    | (result, log, disk) =>
      ((fromLog result).map fun e => .ofJson 201 (appendedView e), { s with log }, disk)

/-- Opens a cursor. -/
def subscribe (s : Server) (fresh : CursorId) (query : List Char) :
    Except Refusal Reply × Server :=
  let asked := do
    let ps ← queryOf [("from", .signed), ("owner", .text)] query
    let first ← offset ((ps.signed? "from").getD 0)
    return (first, ps.text? "owner")
  match asked with
  | .error refusal => (.error refusal, s)
  | .ok (first, owner) =>
    match s.log.subscribe fresh first owner with
    | (result, log) =>
      ((fromLog result).map fun id => .ofJson 201 (subscribedView id first), { s with log })

/-- Shows a cursor. -/
def showCursor (s : Server) (raw : List Char) : Except Refusal Reply := do
  let id ← cursorOf (← segment "id" raw)
  let cursor ← fromLog (s.log.cursorInfo id)
  return .ofJson 200 (cursorView id cursor)

/-- Closes a cursor. -/
def unsubscribe (s : Server) (raw : List Char) : Except Refusal Reply × Server :=
  match (segment "id" raw).bind cursorOf with
  | .error refusal => (.error refusal, s)
  | .ok id =>
    match s.log.unsubscribe id with
    | (result, log) => ((fromLog result).map fun _ => { status := 204 }, { s with log })

/-- Shows how far a consumer has come. -/
def showProgress (s : Server) (consumer : Consumer) : Except Refusal Reply := do
  let acknowledged ← fromLog (s.log.progressOf consumer)
  return .ofJson 200 (progressView consumer acknowledged)

/-- Acknowledges an offset. -/
def acknowledge (s : Server) (disk : Disk) (raw query : List Char) :
    Except Refusal Reply × Server × Disk :=
  let asked := do
    let text ← segment "id" raw
    let ps ← queryOf [("offset", .signed)] query
    let n ← (ps.signed "offset").mapError Refusal.query
    let consumer ← consumerOf text
    return (consumer, ← offset n)
  match asked with
  | .error refusal => (.error refusal, s, disk)
  | .ok (consumer, last) =>
    match s.log.acknowledge disk consumer last with
    | (.error cause, log, disk) => (.error (.failed (.log cause)), { s with log }, disk)
    | (.ok _, log, disk) =>
      let s := { s with log }
      (s.showProgress consumer, s, disk)

/-- Shows all consumers. -/
def showConsumers (s : Server) : Except Refusal Reply := do
  let all ← fromLog s.log.consumers
  return .ofJson 200 (consumersView all)

/-- Shows whether the log is open. -/
def showHealth (s : Server) : Reply :=
  .ofJson (if s.log.isClosed then 503 else 200) (healthView s.log.isClosed)

/-- Shows the counters of the log. -/
def showInfo (s : Server) : Reply := .ofJson 200 (infoView s.log.stats s.log.maxBatch)

/-! ## Reading -/

/-- The reply of a read that is done. -/
def batchReply (answer : Except LogError Batch) : Except Refusal Reply :=
  (fromLog answer).map fun batch => .ofJson 200 (batchView batch)

/-- The reply to a request, without its content if only the header was asked for. -/
def settle (isBare : Bool) (answer : Except Refusal Reply) : Reply :=
  let reply := match answer with
    | .ok reply => reply
    | .error refusal => refusal.reply
  { reply with isBare }

/-- What a waiting read comes to at a stage. -/
def outcomeOf (w : Waiting) : Outcome :=
  match w.stage with
  | .done answer => .answered (settle w.isBare (batchReply answer))
  | _ => .waits w

/-- Reads from a cursor, up to waiting. -/
def read (s : Server) (raw query : List Char) (isBare : Bool) : Outcome × Server :=
  let asked := do
    let text ← segment "id" raw
    let ps ← queryOf [("max", .word), ("wait_ms", .word)] query
    let id ← cursorOf text
    return (id, (ps.word? "max").getD s.log.maxBatch, (ps.word? "wait_ms").getD 0)
  match asked with
  | .error refusal => (.answered (settle isBare (.error refusal)), s)
  | .ok (cursor, max, wait) =>
    let poll : Poll := { cursor, max, isPatient := wait ≠ 0 }
    match poll.begin s.log with
    | (stage, log) =>
      (outcomeOf { poll, stage, limit := min wait s.longPollMax, isBare }, { s with log })

/-- Notifies a waiting read and lets it go on. -/
def wake (s : Server) (w : Waiting) : Outcome × Server :=
  match w.poll.advance w.stage.notify s.log with
  | (stage, log) => (outcomeOf { w with stage }, { s with log })

/-- Lets the time of a waiting read run out. -/
def expire (w : Waiting) : Outcome := outcomeOf { w with stage := w.stage.timeOut }

/-! ## Requests -/

/-- What follows the scheme and the host of a target; most targets name neither. -/
def afterHost (target : List Char) : List Char :=
  let inScheme (c : Char) : Bool := c.isAlphanum || c = '+' || c = '-' || c = '.'
  match target.takeWhile inScheme, target.dropWhile inScheme with
  | _ :: _, ':' :: '/' :: '/' :: rest => rest.dropWhile fun c => c ≠ '/' ∧ c ≠ '?' ∧ c ≠ '#'
  | _, _ => target

/-- The path and the query of a target; a fragment is dropped. -/
def splitTarget (target : String) : List Char × List Char :=
  let (path, query?) := Text.cut '?' (Text.cut '#' (afterHost target.toList)).1
  (path, query?.getD [])

/-- Answers a request, or hands it back as a read that waits. -/
def handle (s : Server) (disk : Disk) (ambient : Ambient) (req : Request) :
    Outcome × Server × Disk :=
  let (path, query) := splitTarget req.target
  let isBare : Bool := req.method = "HEAD"
  let answered (answer : Except Refusal Reply) : Outcome := .answered (settle isBare answer)
  match Route.ofPath? path with
  | none => (.answered { status := 404, isBare }, s, disk)
  | some route =>
    match route, route.action? req.method with
    | _, none => (.answered { status := 405, allow := some route.allowed, isBare }, s, disk)
    | .events, some .create =>
      match s.append disk ambient.now req with
      | (answer, s, disk) => (answered answer, s, disk)
    | .events, some _ => (answered (s.showEvents query), s, disk)
    | .event offset, some _ => (answered (s.showEvent offset), s, disk)
    | .subscriptions, some _ =>
      match s.subscribe ambient.fresh query with
      | (answer, s) => (answered answer, s, disk)
    | .subscription id, some .remove =>
      match s.unsubscribe id with
      | (answer, s) => (answered answer, s, disk)
    | .subscription id, some _ =>
      match s.read id query isBare with
      | (outcome, s) => (outcome, s, disk)
    | .cursorInfo id, some _ => (answered (s.showCursor id), s, disk)
    | .consumers, some _ => (answered s.showConsumers, s, disk)
    | .acknowledgement id, some _ =>
      match s.acknowledge disk id query with
      | (answer, s, disk) => (answered answer, s, disk)
    | .progress id, some _ =>
      (answered ((segment "id" id).bind consumerOf >>= s.showProgress), s, disk)
    | .health, some _ => (answered (.ok s.showHealth), s, disk)
    | .info, some _ => (answered (.ok s.showInfo), s, disk)

/-- Answers a request while no other comes: a read that would wait runs out of time. -/
def respond (s : Server) (disk : Disk) (ambient : Ambient) (req : Request) :
    Outcome × Server × Disk :=
  match s.handle disk ambient req with
  | (.waits w, s, disk) => (expire w, s, disk)
  | answered => answered

/-- Closes the log behind the server. -/
def close (s : Server) : Server := { s with log := s.log.close }

end Server
end ChangeLog.Http
