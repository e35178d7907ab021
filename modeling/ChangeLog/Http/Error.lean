/-
  Requests that are refused. Some are refused before their meaning is looked at and answered in
  plain words; the others carry the coarse kind of the refusal, which decides the status.
-/
import ChangeLog.Bytes.Hex
import ChangeLog.Config
import ChangeLog.Http.Query
import ChangeLog.Json.Reader
import ChangeLog.Log.Error

namespace ChangeLog.Http

/-- Why the server refuses a request, or does not start. -/
inductive ServerError where
  | log (cause : LogError)
  | negativeOffset (n : Int)
  | unknownCursor (text : String)
  | badPayload (field : String) (fault : Hex.Fault)
  | config (cause : ConfigError)
deriving DecidableEq, Repr

namespace ServerError

/-- The words for a refusal. -/
def message : ServerError → String
  | .log cause => cause.message
  | .negativeOffset n => "offset " ++ toString n ++ " is out of range"
  | .unknownCursor text => "cursor " ++ text ++ " not found"
  | .badPayload field fault => "invalid request: " ++ field ++ ": " ++ fault.message
  | .config cause => "configuration error: " ++ Config.errorText cause

/-- The kind of a refusal. -/
def kind : ServerError → LogError.Kind
  | .log cause => cause.kind
  | .negativeOffset _ => .outOfRange
  | .unknownCursor _ => .notFound
  | .badPayload .. => .invalidArgument
  | .config _ => .internal

/-- The status that goes with a kind. -/
def statusOf : LogError.Kind → Nat
  | .outOfRange => 416
  | .notFound => 404
  | .invalidRange => 400
  | .invalidArgument => 422
  | .closed => 503
  | .internal => 500

/-- The status of a refusal. -/
def status (e : ServerError) : Nat := statusOf e.kind

end ServerError

/-- Why a request is refused. -/
inductive Refusal where
  | illFormedSegment (name : String)
  | badSegment (text : String)
  | query (fault : QueryFault)
  | mediaType
  | body (fault : Json.Fault)
  | failed (cause : ServerError)
deriving DecidableEq, Repr

end ChangeLog.Http
