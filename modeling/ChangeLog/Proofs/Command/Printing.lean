/-
  What consuming prints. Events are printed one behind the other, each in lines of its own, or as
  the members of one JSON array (`eventsText`). Behind them there is at most one more line, and only
  where lines are shown: that the consumer is caught up, or how far it has come (`remark`).
-/
import ChangeLog.Command.Session

namespace ChangeLog.Command

/-- The events that a notice shows. -/
def Notice.shown : Notice → List Event
  | .events es => es
  | _ => []

/-- The events that a command shows. -/
def Outcome.shown (o : Outcome) : List Event := o.notices.flatMap Notice.shown

/-- Lines with their ends. -/
def ended (lines : List String) : String := String.join (lines.map (· ++ "\n"))

/-- The text of an event. -/
def eventText (isColoured : Bool) (e : Event) : String := ended (Notice.eventLines isColoured e)

/-- Events in a format, one behind the other. -/
def eventsText (isColoured : Bool) (es : List Event) : Format → String
  | .text => String.join (es.map (eventText isColoured))
  | .json => (Json.Value.array (es.map Http.eventView)).pretty ++ "\n"

/-- What is said of a consumer behind the events that it was shown. -/
def remark (isColoured : Bool) (c : Consumer) (acknowledges : Bool) (es : List Event) :
    Format → String
  | .json => ""
  | .text => ended <|
    match es.getLast? with
    | none => [Style.bold.apply isColoured c.name ++ " is caught up."]
    | some last =>
      if acknowledges then
        [Notice.tick isColoured ++ " " ++ Style.bold.apply isColoured c.name ++
          " acknowledged through " ++
          (Style.inColour .yellow).apply isColoured (toString last.offset)]
      else []

/-- A command prints the events that it shows, and the remark about them. -/
def Prints (c : Consumer) (acknowledges : Bool) (format : Format) (o : Outcome) : Prop :=
  ∀ isColoured, o.printed format isColoured =
    eventsText isColoured o.shown format ++ remark isColoured c acknowledges o.shown format

variable {format : Format} {isColoured : Bool}

theorem ended_append (lines others : List String) :
    ended (lines ++ others) = ended lines ++ ended others := by
  rw [ended, List.map_append, String.join_append]
  rfl

theorem ended_singleton (line : String) : ended [line] = line ++ "\n" := by
  rw [ended, List.map_singleton, String.join_cons, String.join_nil, String.append_empty]

theorem ended_eventLines (es : List Event) :
    ended (es.flatMap (Notice.eventLines isColoured)) = eventsText isColoured es .text := by
  induction es with
  | nil => rfl
  | cons e es ih =>
      rw [List.flatMap_cons, ended_append, ih, eventsText, eventsText, List.map_cons,
        String.join_cons]
      rfl

theorem ended_lines_events (es : List Event) :
    ended ((Notice.events es).lines format isColoured) = eventsText isColoured es format := by
  cases format with
  | text => exact ended_eventLines es
  | json => exact ended_singleton _

theorem printed_cons (notice : Notice) (others : List Notice) :
    (Outcome.ofNotices (notice :: others)).printed format isColoured =
      ended (notice.lines format isColoured) ++
        (Outcome.ofNotices others).printed format isColoured := by
  rw [Outcome.printed, Outcome.ofNotices, List.flatMap_cons]
  exact ended_append _ _

namespace Session

variable {c : Consumer} {es : List Event}

/-- What a consumer is told beside events shows none. -/
theorem shown_inText (s : Session) {notice : Notice} (silent : notice.shown = []) :
    (s.inText notice).flatMap Notice.shown = [] := by
  unfold inText
  cases s.format with
  | text => rw [List.flatMap_singleton, silent]
  | json => rfl

theorem shown_events_cons (es : List Event) (others : List Notice)
    (silent : others.flatMap Notice.shown = []) :
    (Outcome.ofNotices (.events es :: others)).shown = es := by
  rw [Outcome.shown, Outcome.ofNotices, List.flatMap_cons, silent, List.append_nil]
  rfl

/-- What is told where lines are shown is printed there, and nowhere else. -/
theorem printed_inText (s : Session) (notice : Notice) :
    (Outcome.ofNotices (s.inText notice)).printed s.format isColoured =
      match s.format with
      | .text => ended (notice.textLines isColoured)
      | .json => "" := by
  unfold inText
  cases s.format with
  | json => rfl
  | text =>
      rw [printed_cons]
      exact String.append_empty

/-- Where nothing is left, the consumer is told so. -/
theorem prints_caughtUp (s : Session) (acknowledges : Bool) (nothing : es = []) :
    Prints c acknowledges s.format (.ofNotices (.events es :: s.inText (.caughtUp c))) := by
  intro isColoured
  rw [shown_events_cons _ _ (s.shown_inText rfl), printed_cons, ended_lines_events,
    printed_inText, nothing]
  cases s.format with
  | text => rfl
  | json => rfl

/-- Where the last event is acknowledged, the consumer is told so. -/
theorem prints_acknowledged (s : Session) {e : Event} (last : es.getLast? = some e) :
    Prints c true s.format
      (.ofNotices (.events es :: s.inText (.acknowledged c e.offset))) := by
  intro isColoured
  rw [shown_events_cons _ _ (s.shown_inText rfl), printed_cons, ended_lines_events,
    printed_inText]
  cases s.format with
  | text =>
      dsimp only [remark]
      rw [last]
      rfl
  | json => rfl

/-- Where nothing is acknowledged, nothing is said. -/
theorem prints_events (s : Session) {e : Event} (last : es.getLast? = some e) :
    Prints c false s.format (.ofNotices [.events es]) := by
  intro isColoured
  rw [shown_events_cons _ _ rfl, printed_cons, ended_lines_events]
  cases s.format with
  | text =>
      dsimp only [remark]
      rw [last]
      rfl
  | json => rfl

end Session
end ChangeLog.Command
