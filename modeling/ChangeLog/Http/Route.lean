/-
  The resources of the server and the methods that they take. Segments of a path are compared as
  they are written; the one that names a thing is decoded later. It may be empty in the middle of a
  path, and not at its end.
-/
import ChangeLog.Text.Split

namespace ChangeLog.Http

/-- A resource; a segment that names a thing is kept as it is written. -/
inductive Route where
  | events
  | event (offset : List Char)
  | subscriptions
  | subscription (id : List Char)
  | cursorInfo (id : List Char)
  | consumers
  | acknowledgement (consumer : List Char)
  | progress (consumer : List Char)
  | health
  | info
deriving DecidableEq, Repr

/-- What is done to a resource. -/
inductive Action where
  | show
  | create
  | remove
deriving DecidableEq, Repr

namespace Route

/-- The resource at a path. -/
def ofPath? (path : List Char) : Option Route :=
  let named (route : List Char → Route) (segment : List Char) : Option Route :=
    if segment = [] then none else some (route segment)
  match (Text.splitOn '/' path).map fun segment => (segment, String.ofList segment) with
  | [(_, ""), (_, "events")] => some .events
  | [(_, ""), (_, "events"), (offset, _)] => named .event offset
  | [(_, ""), (_, "subscriptions")] => some .subscriptions
  | [(_, ""), (_, "subscriptions"), (id, _)] => named .subscription id
  | [(_, ""), (_, "subscriptions"), (id, _), (_, "info")] => some (.cursorInfo id)
  | [(_, ""), (_, "consumers")] => some .consumers
  | [(_, ""), (_, "consumers"), (consumer, _), (_, "ack")] => some (.acknowledgement consumer)
  | [(_, ""), (_, "consumers"), (consumer, _), (_, "progress")] => some (.progress consumer)
  | [(_, ""), (_, "v1"), (_, "health")] => some .health
  | [(_, ""), (_, "v1"), (_, "info")] => some .info
  | _ => none

/-- The methods that a resource takes, as replies list them. -/
def allowed : Route → String
  | .events => "POST,GET,HEAD"
  | .subscriptions | .acknowledgement _ => "POST"
  | .subscription _ => "GET,HEAD,DELETE"
  | .event _ | .cursorInfo _ | .consumers | .progress _ | .health | .info => "GET,HEAD"

/-- What a method does to a resource, if the resource takes it. -/
def action? (route : Route) (method : String) : Option Action :=
  let reads := method = "GET" ∨ method = "HEAD"
  match route with
  | .events => if reads then some .show else if method = "POST" then some .create else none
  | .subscriptions | .acknowledgement _ => if method = "POST" then some .create else none
  | .subscription _ =>
    if reads then some .show else if method = "DELETE" then some .remove else none
  | .event _ | .cursorInfo _ | .consumers | .progress _ | .health | .info =>
    if reads then some .show else none

end Route
end ChangeLog.Http
