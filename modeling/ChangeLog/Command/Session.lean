/-
  Commands at work. Each command opens the log anew and leaves it behind, so that nothing but the
  files goes from one command to the next. A command that fails may have told something before.
-/
import ChangeLog.Command.Failure
import ChangeLog.Command.Notice
import ChangeLog.Http.Server

namespace ChangeLog.Command

/-- How a command ends. -/
inductive Ending where
  | done
  | failed (cause : Failure)
  | serving (server : Http.Server)

/-- What comes of a command. -/
structure Outcome where
  notices : List Notice := []
  ending : Ending := .done

namespace Outcome

/-- A command that tells something and is done. -/
def ofNotices (notices : List Notice) : Outcome := { notices }

/-- A command that fails before it tells anything. -/
def failed (cause : Failure) : Outcome := { ending := .failed cause }

/-- A command that tells something or fails. -/
def ofResult : Except Failure (List Notice) → Outcome
  | .ok notices => ofNotices notices
  | .error cause => failed cause

/-- What is printed, in a format. -/
def printed (format : Format) (isColoured : Bool) (o : Outcome) : String :=
  String.join ((o.notices.flatMap (·.lines format isColoured)).map (· ++ "\n"))

end Outcome

/-- What a command works with beside its own arguments. -/
structure Session where
  directory : String
  format : Format
  ambient : Ambient
deriving DecidableEq, Repr

namespace Session

/-! ## Parts of commands -/

/-- Opens the log and goes on. -/
def withLog (s : Session) (disk : Disk) (go : Log → Disk → Outcome × Disk) : Outcome × Disk :=
  match Log.openIn disk s.directory Log.defaultMaxBatch with
  | (.error cause, disk) => (.failed (.opening s.directory cause), disk)
  | (.ok log, disk) => go log disk

/-- An answer of the log. -/
def fromLog {α : Type} (answer : Except LogError α) : Except Failure α :=
  answer.mapError Failure.log

/-- The consumer with a name. -/
def consumerOf (name : String) : Except Failure Consumer :=
  (Consumer.ofText name).mapError fun fault => .log (.invalidConsumer fault)

/-- The bytes of a payload as it was typed. -/
def payload (isHex : Bool) (text : String) : Except Failure Bytes :=
  if isHex then (Hex.decode text).mapError fun fault => .badPayload text fault
  else .ok (Text.encode text)

/-- The event that was typed. -/
def draftOf (event : Submission) : Except Failure Draft := do
  let before ← payload event.isHex event.before
  let after ← payload event.isHex event.after
  return { type := event.type, source := event.source, before, after }

/-! ## Commands that change nothing -/

/-- Shows an event. -/
def get (log : Log) (offset : UInt64) : Except Failure (List Notice) :=
  (fromLog (log.get offset)).map fun e => [.events [e]]

/-- Shows a range of events. -/
def replay (log : Log) (first : UInt64) (last : Option UInt64) : Except Failure (List Notice) :=
  let events := match last with
    | some last => log.replay first last
    | none => log.replayFrom first
  (fromLog events).map fun es => [.events es]

/-- Shows how far one consumer has come. -/
def progressOf (log : Log) (name : String) : Except Failure (List Notice) := do
  let consumer ← consumerOf name
  let progress ← fromLog (log.progressOf consumer)
  return [.progress [(consumer, progress)]]

/-- Shows how far all consumers have come. -/
def progress (log : Log) : Except Failure (List Notice) :=
  (fromLog log.consumers).map fun all =>
    [.progress (all.map fun (consumer, offset) => (consumer, some offset))]

/-- The size of a file of the log; a file that cannot be read has none. -/
def fileSize (s : Session) (disk : Disk) (name : String) : Nat :=
  match disk.read (Path.parts (Path.join s.directory name)) with
  | .ok bytes => bytes.length
  | .error _ => 0

/-- Shows the counters of the log. -/
def inspect (s : Session) (log : Log) (disk : Disk) : List Notice :=
  let stats := log.stats
  [.summary
    { directory := s.directory
      nextOffset := stats.nextOffset
      trackedConsumers := stats.trackedConsumers
      eventsSize := s.fileSize disk EventStore.fileName
      progressSize := s.fileSize disk ProgressStore.fileName }]

/-! ## Commands that change the log -/

/-- Appends an event. -/
def append (s : Session) (log : Log) (disk : Disk) (event : Submission) : Outcome × Disk :=
  match draftOf event with
  | .error cause => (.failed cause, disk)
  | .ok draft =>
    match log.append disk s.ambient.now draft with
    | (.error cause, _, disk) => (.failed (.log cause), disk)
    | (.ok e, _, disk) => (.ofNotices [.appended e], disk)

/-- The events that a consumer has not acknowledged, at most `max` of them: a cursor of the consumer
is opened where it goes on, read once and closed. -/
def unread (s : Session) (log : Log) (consumer : Consumer) (max : UInt64) :
    Except LogError (List Event × Log) := do
  let first ← log.resumeOffset consumer
  let (opened, log) := log.subscribe s.ambient.fresh first (some consumer.name)
  let cursor ← opened
  let (found, log) := log.read cursor max
  let batch ← found
  let (closed, log) := log.unsubscribe cursor
  closed
  return (batch.events, log)

/-- What is told where lines are shown. -/
def inText (s : Session) (notice : Notice) : List Notice :=
  match s.format with
  | .text => [notice]
  | .json => []

/-- Shows what a consumer has not acknowledged, and acknowledges it if asked to. -/
def consume (s : Session) (log : Log) (disk : Disk) (name : String) (max : UInt64)
    (acknowledges : Bool) : Outcome × Disk :=
  match consumerOf name with
  | .error cause => (.failed cause, disk)
  | .ok consumer =>
    match s.unread log consumer max with
    | .error cause => (.failed (.log cause), disk)
    | .ok (events, log) =>
      match acknowledges, events.getLast? with
      | true, some last =>
        match log.acknowledge disk consumer last.offset with
        | (.error cause, _, disk) =>
          ({ notices := [.events events], ending := .failed (.log cause) }, disk)
        | (.ok progress, _, disk) =>
          (.ofNotices (.events events :: s.inText (.acknowledged consumer progress)), disk)
      | false, some _ => (.ofNotices [.events events], disk)
      | _, none => (.ofNotices (.events events :: s.inText (.caughtUp consumer)), disk)

/-- Acknowledges an offset. -/
def acknowledge (log : Log) (disk : Disk) (name : String) (offset : UInt64) : Outcome × Disk :=
  match consumerOf name with
  | .error cause => (.failed cause, disk)
  | .ok consumer =>
    match log.acknowledge disk consumer offset with
    | (.error cause, _, disk) => (.failed (.log cause), disk)
    | (.ok progress, _, disk) => (.ofNotices [.acknowledged consumer progress], disk)

/-! ## Starting a server -/

/-- The settings in a file. -/
def settingsIn (disk : Disk) (path : String) : Except SettingsFault Config := do
  let bytes ← (disk.read (Path.parts path)).mapError SettingsFault.unreadable
  match Text.decode bytes with
  | none => throw .illFormedText
  | some text => (Config.ofText text).mapError SettingsFault.refused

/-- The settings that a server is asked for with: those of a file, or the log of this directory,
and over them what is given one by one. -/
def configOf (s : Session) (disk : Disk) (wish : ServerWish) : Except Failure Config := do
  let base ← match wish.settings with
    | some path => (settingsIn disk path).mapError fun fault => .settings path fault
    | none => .ok { directory := some s.directory }
  return { base with
    address := wish.address.getD base.address
    sync := wish.sync.getD base.sync
    maxBatch := wish.maxBatch.getD base.maxBatch
    directory := if wish.isInMemory then none else base.directory }

/-- Starts a server. -/
def serve (s : Session) (disk : Disk) (wish : ServerWish) : Outcome × Disk :=
  match s.configOf disk wish with
  | .error cause => (.failed cause, disk)
  | .ok config =>
    match Http.Server.start disk config with
    | (.error cause, disk) => (.failed (.server cause), disk)
    | (.ok server, disk) => ({ ending := .serving server }, disk)

/-! ## All commands -/

/-- Carries out a command. -/
def run (s : Session) (disk : Disk) (command : Command) : Outcome × Disk :=
  match command with
  | .append event => s.withLog disk fun log disk => s.append log disk event
  | .get offset => s.withLog disk fun log disk => (.ofResult (get log offset), disk)
  | .replay first last => s.withLog disk fun log disk => (.ofResult (replay log first last), disk)
  | .consume name max acknowledges =>
    s.withLog disk fun log disk => s.consume log disk name max acknowledges
  | .acknowledge name offset => s.withLog disk fun log disk => acknowledge log disk name offset
  | .progress (some name) =>
    s.withLog disk fun log disk => (.ofResult (progressOf log name), disk)
  | .progress none => s.withLog disk fun log disk => (.ofResult (progress log), disk)
  | .inspect => s.withLog disk fun log disk => (.ofNotices (s.inspect log disk), disk)
  | .serve wish => s.serve disk wish

end Session
end ChangeLog.Command

namespace ChangeLog.Invocation

/-- Carries out what a command line asks for. -/
def run (i : Invocation) (disk : Disk) (ambient : Ambient) : Command.Outcome × Disk :=
  Command.Session.run { directory := i.directory, format := i.format, ambient } disk i.command

end ChangeLog.Invocation
