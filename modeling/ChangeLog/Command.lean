/-
  What a command line asks for: one command, the directory of the log, and how to show what comes
  of it. Names of consumers, types and payloads are kept as they were typed; whether they are valid
  is settled when the command runs.
-/
import ChangeLog.Config

namespace ChangeLog

/-- How results are shown. -/
inductive Format where
  | text
  | json
deriving DecidableEq, Repr

namespace Format

/-- The name of a format. -/
def name : Format → String
  | .text => "text"
  | .json => "json"

/-- The format with a name. -/
def ofName? (name : String) : Option Format :=
  if name = "text" then some .text
  else if name = "json" then some .json
  else none

end Format

/-- An event as it is typed; the payloads are hexadecimal if `isHex`, and text if not. -/
structure Submission where
  type : String
  before : String := ""
  after : String := ""
  source : String := "clog-cli"
  isHex : Bool := false
  sync : Option SyncMode := none
deriving DecidableEq, Repr

/-- How a server is asked for: a file of settings, and settings that win over those of the file. -/
structure ServerWish where
  settings : Option String := none
  address : Option Net.Address := none
  isInMemory : Bool := false
  sync : Option SyncMode := none
  maxBatch : Option UInt64 := none
deriving DecidableEq, Repr

/-- What the program can be told to do. -/
inductive Command where
  /-- Append one event. -/
  | append (event : Submission)
  /-- Show the event at an offset. -/
  | get (offset : UInt64)
  /-- Show the events of a range, up to the end of the log if no last one is given. -/
  | replay (first : UInt64) (last : Option UInt64)
  /-- Show the events that a consumer has not acknowledged, and acknowledge them if asked to. -/
  | consume (consumer : String) (max : UInt64) (acknowledges : Bool)
  /-- Acknowledge everything up to an offset. -/
  | acknowledge (consumer : String) (offset : UInt64)
  /-- Show how far one consumer has come, or all of them. -/
  | progress (consumer : Option String)
  /-- Show the counters of the log. -/
  | inspect
  /-- Start a server. -/
  | serve (wish : ServerWish)
deriving DecidableEq, Repr

/-- A command with what holds for every command. -/
structure Invocation where
  command : Command
  directory : String := "clog-data"
  isVerbose : Bool := false
  format : Format := .text
deriving DecidableEq, Repr

end ChangeLog
