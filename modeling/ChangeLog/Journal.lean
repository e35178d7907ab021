/-
  Journals: files of records that grow at the end. A journal holds its file open and keeps its own
  idea of the file's length, which only it changes; the file itself may be changed, replaced or
  removed by others meanwhile.
-/
import ChangeLog.Journal.Scan
import ChangeLog.Store.Error

namespace ChangeLog

/-- A journal of records: its name, the file it holds open, and the length it believes in. -/
structure Journal (α : Type) where
  path : String
  file : Nat
  length : Nat
deriving DecidableEq, Repr

namespace Journal

variable {α : Type}

/-- Opens the journal with the given path, making its directories and its file where missing. -/
def openAt (disk : Disk) (path : String) : Except StoreError (Journal α) × Disk :=
  let parts := Path.parts path
  match disk.createDirectories parts.dropLast with
  | (.error fault, disk) => (.error (.io fault), disk)
  | (.ok (), disk) =>
    match disk.openFile parts with
    | .error fault => (.error (.io fault), disk)
    | .ok (file, disk) => (.ok { path, file, length := (disk.content file).length }, disk)

/-- Adds a record at the end of the file; gives the position that the journal believes it has. -/
def append [Wire α] (journal : Journal α) (disk : Disk) (record : α) :
    Except StoreError Nat × Journal α × Disk :=
  let payload := Wire.write record
  if UInt32.size ≤ payload.length then (.error .recordTooLarge, journal, disk)
  else
    let frame := Frame.ofPayload payload
    (.ok journal.length, { journal with length := journal.length + frame.size },
      disk.extend journal.file frame.write)

/-- Reads every record of the file at the journal's path. A torn tail is cut off the file that the
journal holds open; damage in front of intact records is reported and nothing is changed. -/
def recover [Wire α] (journal : Journal α) (disk : Disk) :
    Except StoreError (List α) × Journal α × Disk :=
  match disk.read (Path.parts journal.path) with
  | .error fault => (.error (.io fault), journal, disk)
  | .ok bytes =>
    match scan 0 bytes with
    | .error position => (.error (.corrupt journal.path position), journal, disk)
    | .ok found =>
      if found.kept < bytes.length then
        (.ok found.records, { journal with length := found.kept },
          disk.resize journal.file found.kept)
      else (.ok found.records, journal, disk)

end Journal
end ChangeLog
