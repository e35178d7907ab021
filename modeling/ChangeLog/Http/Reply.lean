/-
  Requests and replies. A reply is a status and, at most, a text or a JSON value; a reply to a
  request for the header alone keeps the content type and leaves the content out.
-/
import ChangeLog.Http.Error
import ChangeLog.Json.Value

namespace ChangeLog.Http

/-- A request. The target is the path and the query. -/
structure Request where
  method : String
  target : String
  contentType : Option String := none
  body : String := ""
deriving DecidableEq, Repr

/-- What a reply holds. -/
inductive Content where
  | nothing
  | text (s : String)
  | json (v : Json.Value)
deriving Repr

/-- A reply. -/
structure Reply where
  status : Nat
  content : Content := .nothing
  allow : Option String := none
  isBare : Bool := false
deriving Repr

/-- The type of what a reply holds. -/
def Reply.contentType (r : Reply) : Option String :=
  match r.content with
  | .nothing => none
  | .text _ => some "text/plain; charset=utf-8"
  | .json _ => some "application/json"

/-- A JSON reply. -/
def Reply.ofJson (status : Nat) (v : Json.Value) : Reply := { status, content := .json v }

/-- The reply to a request that is refused. -/
def Refusal.reply : Refusal → Reply
  | .illFormedSegment name =>
    { status := 400, content := .text ("Invalid URL: Invalid UTF-8 in `" ++ name ++ "`") }
  | .badSegment text =>
    { status := 400,
      content := .text ("Invalid URL: Cannot parse `" ++ Text.quote text ++ "` to a `i64`") }
  | .query fault =>
    { status := 400, content := .text ("Failed to deserialize query string: " ++ fault.message) }
  | .mediaType =>
    { status := 415, content := .text "Expected request with `Content-Type: application/json`" }
  | .body .malformed =>
    { status := 400, content := .text "Failed to parse the request body as JSON" }
  | .body .mismatch =>
    { status := 422,
      content := .text "Failed to deserialize the JSON body into the target type" }
  | .failed cause =>
    .ofJson cause.status
      (.object [("error", .text cause.kind.name), ("message", .text cause.message)])

end ChangeLog.Http
