/-
  Settings of the server, read from a TOML document. A key that is missing leaves the default, a
  key that is not known is passed over, and a value of the wrong kind refuses the document.
-/
import ChangeLog.Net.Address
import ChangeLog.Toml.Document

namespace ChangeLog

/-- When a journal is forced to the disk. -/
inductive SyncMode where
  | everyWrite
  | osDefault
deriving DecidableEq, Repr

namespace SyncMode

/-- The name of a mode. -/
def name : SyncMode → String
  | .everyWrite => "every-write"
  | .osDefault => "os-default"

/-- The mode with a name. -/
def ofName? (name : String) : Option SyncMode :=
  if name = "every-write" then some .everyWrite
  else if name = "os-default" then some .osDefault
  else none

end SyncMode

/-- Settings of the server. Without a directory everything stays in memory. -/
structure Config where
  address : Net.Address := .v4 [127, 0, 0, 1] 7070
  directory : Option String := none
  sync : SyncMode := .osDefault
  maxBatch : UInt64 := 100
  longPollMax : UInt64 := 30000
deriving DecidableEq, Repr

/-- Why settings are refused. -/
inductive ConfigError where
  | malformed
  | zeroBatch
deriving DecidableEq, Repr

namespace Config

/-- The words for a refusal. -/
def errorText : ConfigError → String
  | .malformed => "malformed settings"
  | .zeroBatch => "max_read_batch must be at least 1"

/-- Reads the value of a key, or leaves the default where the key is missing. -/
def setting {α : Type} (entries : Toml.Entries) (key : String) (default : α)
    (read : Toml.Item → Option α) : Option α :=
  match entries.lookup key with
  | none => some default
  | some item => read item

/-- A text. -/
def text? : Toml.Item → Option String
  | .text s => some s
  | _ => none

/-- An integer that is not negative. -/
def word? : Toml.Item → Option UInt64
  | .integer n => if 0 ≤ n then some (UInt64.ofNat n.toNat) else none
  | _ => none

/-- A mode by its name, or as the only key of a table with nothing under it. -/
def sync? : Toml.Item → Option SyncMode
  | .text s => SyncMode.ofName? s
  | .table _ [(key, .table _ [])] | .table _ [(key, .array [])] => SyncMode.ofName? key
  | _ => none

/-- Refuses settings under which no read could hand out anything. -/
def validate (config : Config) : Except ConfigError Config :=
  if config.maxBatch = 0 then .error .zeroBatch else .ok config

/-- The settings in the entries of a document. -/
def ofEntries (entries : Toml.Entries) : Option Config := do
  let defaults : Config := {}
  let address ← setting entries "bind_addr" defaults.address fun item =>
    (text? item).bind Net.Address.parse
  let directory ← setting entries "data_dir" defaults.directory fun item => (text? item).map some
  let sync ← setting entries "sync_mode" defaults.sync sync?
  let maxBatch ← setting entries "max_read_batch" defaults.maxBatch word?
  let longPollMax ← setting entries "long_poll_max_ms" defaults.longPollMax word?
  return { address, directory, sync, maxBatch, longPollMax }

/-- The settings that a document gives. -/
def ofText (text : String) : Except ConfigError Config :=
  match (Toml.parse text).bind ofEntries with
  | none => .error .malformed
  | some config => config.validate

end Config
end ChangeLog
