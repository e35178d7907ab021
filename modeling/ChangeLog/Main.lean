/-
  The program. It brings the files that a command looks at into a disk of its own, carries out the
  command there, writes back what has changed, and prints what the command tells.
-/
import ChangeLog.Command.Form
import ChangeLog.Command.Help
import ChangeLog.Command.Session
import Std.Time.DateTime.Timestamp

namespace ChangeLog.Program

/-- The files that a command changes. -/
def changing (i : Invocation) : List String :=
  [Path.join i.directory EventStore.fileName, Path.join i.directory ProgressStore.fileName]

/-- The files that a command looks at. -/
def looking (i : Invocation) : List String :=
  changing i ++ match i.command with
    | .serve wish => wish.settings.toList
    | _ => []

/-- A disk with a file more, and the directories on the way to it. -/
def withFile (disk : Disk) (path : String) (bytes : Bytes) : Disk :=
  let parts := Path.parts path
  let (_, disk) := disk.createDirectories parts.dropLast
  (disk.write parts bytes).toOption.getD disk

/-- Brings a file into a disk, if there is one that can be read. -/
def load (disk : Disk) (path : String) : IO Disk := do
  try
    let bytes ← IO.FS.readBinFile path
    return withFile disk path bytes.data.toList
  catch _ => return disk

/-- Writes a file back if it has changed; what was there and stays there is not written again. -/
def save (directory path : String) (before after : Disk) : IO Unit := do
  let parts := Path.parts path
  match before.read parts, after.read parts with
  | _, .error _ => return
  | .ok old, .ok new =>
    if old.isPrefixOf new then
      if old.length < new.length then
        let h ← IO.FS.Handle.mk path .append
        h.write ⟨(new.drop old.length).toArray⟩
    else IO.FS.writeBinFile path ⟨new.toArray⟩
  | .error _, .ok new =>
    IO.FS.createDirAll directory
    IO.FS.writeBinFile path ⟨new.toArray⟩

/-- The time now, and a fresh identifier. -/
def ambient : IO Ambient := do
  let stamp ← Std.Time.Timestamp.now
  let seconds := stamp.val.second.toInt
  let nanos := stamp.val.nano.toInt.toNat
  let noise := (← IO.getRandomBytes 10).data.foldl (fun n b => n * 256 + b.toNat) 0
  let fresh := CursorId.ofMillis (seconds.toNat * 1000 + nanos / 1000000) noise
  match Time.Instant.ofUnix? seconds nanos with
  | some now => return { now, fresh }
  | none => throw (.userError "the clock is out of range")

/-- Whether text may stand out: on a terminal, unless the surroundings forbid it. -/
def isColoured : IO Bool := do
  return (← (← IO.getStdout).isTty) && (← IO.getEnv "NO_COLOR").isNone

/-- Carries out what a command line asks for; gives the status to end with. -/
def carryOut (i : Invocation) : IO UInt32 := do
  let before ← (i.directory :: looking i).foldlM load {}
  let (outcome, after) := i.run before (← ambient)
  for path in changing i do
    save i.directory path before after
  IO.print (outcome.printed i.format (← isColoured))
  match outcome.ending with
  | .done => return 0
  | .failed cause =>
    IO.eprintln ("Error: " ++ "\nCaused by: ".intercalate cause.chain)
    return 1
  | .serving _ =>
    IO.eprintln "Error: this program opens a server, but has no socket to serve on"
    return 1

/-- Reads the command line and carries it out. -/
def run (args : List String) : IO UInt32 := do
  match Invocation.ofArgs args with
  | .ok i => carryOut i
  | .error .versionAsked =>
    IO.print Command.versionText
    return 0
  | .error .helpAsked =>
    IO.print Command.helpText
    return 0
  | .error .nothingGiven =>
    IO.eprint Command.helpText
    return 2
  | .error e =>
    IO.eprintln ("error: " ++ e.message)
    return 2

end ChangeLog.Program

def main (args : List String) : IO UInt32 := ChangeLog.Program.run args
