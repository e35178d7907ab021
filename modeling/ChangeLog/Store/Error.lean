/-
  Why a store refuses an operation.
-/
import ChangeLog.Disk

namespace ChangeLog

/-- Why a store refuses an operation. -/
inductive StoreError where
  | closed
  | io (cause : IoError)
  | recordTooLarge
  | corrupt (path : String) (position : Nat)
  | offsetGap (path : String) (expected found : UInt64)
deriving DecidableEq, Repr

/-- The words for a refusal. -/
def StoreError.message : StoreError → String
  | .closed => "store is closed"
  | .io cause => "I/O error: " ++ cause.message
  | .recordTooLarge => "serialization error: record larger than 4 GiB"
  | .corrupt path position =>
    "corrupt record in " ++ path ++ " at byte " ++ toString position
  | .offsetGap path expected found =>
    "offset gap in " ++ path ++ ": expected offset " ++ toString expected ++
      ", found " ++ toString found

end ChangeLog
