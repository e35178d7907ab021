/-
  A disk: a tree of directories and files, given by the entry at each place. A place is known by the
  names on the way to it; several paths may lead to it. A file's bytes live apart from its name, so
  that one who holds the file open keeps them when the name is removed or taken by another file.
-/
import ChangeLog.Bytes
import ChangeLog.Disk.Path

namespace ChangeLog

/-- Why the disk refuses an operation. -/
inductive IoError where
  | notFound
  | alreadyExists
  | notDirectory
  | isDirectory
  | nameTooLong
  | zeroByte
  | deviceFailure
deriving DecidableEq, Repr

/-- The words for a refusal. -/
def IoError.message : IoError → String
  | .notFound => "No such file or directory (os error 2)"
  | .alreadyExists => "File exists (os error 17)"
  | .notDirectory => "Not a directory (os error 20)"
  | .isDirectory => "Is a directory (os error 21)"
  | .nameTooLong => "File name too long (os error 36)"
  | .zeroByte => "file name contained an unexpected NUL byte"
  | .deviceFailure => "Input/output error (os error 5)"

namespace Disk

/-- What stands at a place: a directory, or a file whose bytes have the given number. -/
inductive Entry where
  | directory
  | file (content : Nat)
deriving DecidableEq, Repr

end Disk

/-- A disk. The root is a directory without an entry of its own. Contents are kept with the last
byte first, so that adding at the end touches only what is added. -/
structure Disk where
  entries : List (List String × Disk.Entry) := []
  contents : List Bytes := []
deriving DecidableEq, Repr

namespace Disk

/-- What stands at a place. -/
def find? (disk : Disk) (place : List String) : Option Entry :=
  if place = [] then some .directory else disk.entries.lookup place

/-- The bytes with a number. -/
def content (disk : Disk) (file : Nat) : Bytes := (disk.contents.getD file []).reverse

/-- Replaces the bytes with a number. -/
def setContent (disk : Disk) (file : Nat) (bytes : Bytes) : Disk :=
  { disk with contents := disk.contents.set file bytes.reverse }

/-- Adds bytes at the end of those with a number. -/
def extend (disk : Disk) (file : Nat) (bytes : Bytes) : Disk :=
  { disk with contents := disk.contents.modify file (bytes.reverse ++ ·) }

/-- Makes the bytes with a number exactly `size` long: cuts them, or fills them up with zeros. -/
def resize (disk : Disk) (file size : Nat) : Disk :=
  let old := disk.content file
  disk.setContent file (old.take size ++ List.replicate (size - old.length) 0)

/-! ## Places -/

/-- Where the parts of a path lead from a place. All that is passed on the way has to be a
directory; what stands at the end does not matter. -/
def walk (disk : Disk) (here : List String) : List String → Except IoError (List String)
  | [] => .ok here
  | part :: rest =>
    match disk.find? here with
    | none => .error .notFound
    | some (.file _) => .error .notDirectory
    | some .directory =>
      if Path.longestPart < part.utf8ByteSize then .error .nameTooLong
      else disk.walk (Path.step here part) rest

/-- The place that a path leads to. -/
def resolve (disk : Disk) (path : List String) : Except IoError (List String) :=
  if path.any fun part => part.toList.contains '\x00' then .error .zeroByte
  else disk.walk [] path

/-- Whether a path leads to a directory. -/
def isDirectory (disk : Disk) (path : List String) : Bool :=
  match disk.resolve path with
  | .ok place => disk.find? place = some .directory
  | .error _ => false

/-- A disk with an entry more. -/
def enter (disk : Disk) (place : List String) (entry : Entry) : Disk :=
  { disk with entries := (place, entry) :: disk.entries }

/-! ## Files -/

/-- The file at a path. -/
def locate (disk : Disk) (path : List String) : Except IoError Nat := do
  let place ← disk.resolve path
  match disk.find? place with
  | none => throw .notFound
  | some .directory => throw .isDirectory
  | some (.file file) => return file

/-- The bytes of the file at a path. -/
def read (disk : Disk) (path : List String) : Except IoError Bytes :=
  (disk.locate path).map disk.content

/-- The file at a path, made empty if there is none. -/
def openFile (disk : Disk) (path : List String) : Except IoError (Nat × Disk) := do
  let place ← disk.resolve path
  match disk.find? place with
  | some .directory => throw .isDirectory
  | some (.file file) => return (file, disk)
  | none =>
    let file := disk.contents.length
    return (file, { disk.enter place (.file file) with contents := disk.contents ++ [[]] })

/-- Gives the file at a path the given bytes, making it if needed. -/
def write (disk : Disk) (path : List String) (bytes : Bytes) : Except IoError Disk :=
  (disk.openFile path).map fun (file, disk) => disk.setContent file bytes

/-- Takes the name of a file away; its bytes stay for those who hold it open. -/
def remove (disk : Disk) (path : List String) : Except IoError Disk := do
  let place ← disk.resolve path
  let _ ← disk.locate path
  return { disk with entries := disk.entries.filter fun entry => entry.1 ≠ place }

/-! ## Directories -/

/-- Makes a directory in one that is there. -/
def makeDirectory (disk : Disk) (path : List String) : Except IoError Disk := do
  let place ← disk.resolve path
  match disk.find? place with
  | some _ => throw .alreadyExists
  | none => return disk.enter place .directory

/-- Makes a directory where there is none yet. -/
def settle (disk : Disk) (path : List String) : Except IoError Unit × Disk :=
  match disk.makeDirectory path with
  | .ok disk => (.ok (), disk)
  | .error fault => (if disk.isDirectory path then .ok () else .error fault, disk)

/-- Makes a directory, after those around it where something is missing on the way; the path is
given from its last part up. -/
def settleAll (disk : Disk) : List String → Except IoError Unit × Disk
  | [] => (.ok (), disk)
  | part :: above =>
    let path := (part :: above).reverse
    match disk.resolve path with
    | .error .notFound =>
      match disk.settleAll above with
      | (.error fault, disk) => (.error fault, disk)
      | (.ok (), disk) => disk.settle path
    | _ => disk.settle path

/-- Makes the directories on the way to `path` and that one itself. What was made before a refusal
stays. -/
def createDirectories (disk : Disk) (path : List String) : Except IoError Unit × Disk :=
  disk.settleAll (path.filter fun part => part ≠ ".").reverse

end Disk
end ChangeLog
