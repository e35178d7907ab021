/-
  Why the log refuses an operation, in words and as a coarse kind. Only a closed log is worth
  trying again elsewhere: every other refusal is a property of the request or of the log.
-/
import ChangeLog.Consumer
import ChangeLog.Cursor.Id
import ChangeLog.Store.Error

namespace ChangeLog

/-- Why the log refuses an operation. -/
inductive LogError where
  | outOfRange (offset next : UInt64)
  | cursorNotFound (id : CursorId)
  | eventNotFound (offset : UInt64)
  | invalidRange (first last : UInt64)
  | closed
  | blankType
  | invalidConsumer (fault : Consumer.Fault)
  | store (cause : StoreError)
deriving DecidableEq, Repr

namespace LogError

/-- A refusal of a store, as the log reports it. -/
def ofStore : StoreError → LogError
  | .closed => .closed
  | cause => .store cause

/-- The words for a refusal. -/
def message : LogError → String
  | .outOfRange offset next =>
    "offset " ++ toString offset ++ " is out of range (next offset is " ++ toString next ++ ")"
  | .cursorNotFound id => "cursor " ++ id.text ++ " not found"
  | .eventNotFound offset => "no event at offset " ++ toString offset
  | .invalidRange first last =>
    "invalid range: from=" ++ toString first ++ ", to=" ++ toString last
  | .closed => "change stream is closed"
  | .blankType => "invalid event type: event type must not be empty"
  | .invalidConsumer fault => fault.message
  | .store cause => "store error: " ++ cause.message

/-- Coarse kinds of refusals, the same on every surface. -/
inductive Kind where
  | outOfRange
  | notFound
  | invalidRange
  | closed
  | invalidArgument
  | internal
deriving DecidableEq, Repr

/-- The stable name of a kind. -/
def Kind.name : Kind → String
  | .outOfRange => "out_of_range"
  | .notFound => "not_found"
  | .invalidRange => "invalid_range"
  | .closed => "closed"
  | .invalidArgument => "invalid_argument"
  | .internal => "internal"

/-- The kind of a refusal. -/
def kind : LogError → Kind
  | .outOfRange .. => .outOfRange
  | .cursorNotFound _ | .eventNotFound _ => .notFound
  | .invalidRange .. => .invalidRange
  | .closed => .closed
  | .blankType | .invalidConsumer _ => .invalidArgument
  | .store _ => .internal

/-- Whether the same request may succeed elsewhere. -/
def isRetryable (e : LogError) : Bool := e = .closed

end LogError

/-- A store's answer, as the log passes it on. -/
def LogError.lift {α : Type} : Except StoreError α → Except LogError α
  | .ok a => .ok a
  | .error cause => .error (.ofStore cause)

end ChangeLog
