/-
  JSON values and their text, on one line or with two blanks a level. Objects keep the order of
  their members.
-/
import ChangeLog.Text.Quoted

namespace ChangeLog.Json

/-- A JSON value; numbers are the integers that the log deals in. -/
inductive Value where
  | null
  | truth (b : Bool)
  | number (n : Nat)
  | text (s : String)
  | array (items : List Value)
  | object (members : List (String × Value))
deriving Repr

/-- A word as a value. -/
def word (n : UInt64) : Value := .number n.toNat

/-- An optional value. -/
def optional {α : Type} (f : α → Value) : Option α → Value
  | none => .null
  | some a => f a

/-- One character of a text between quotes: quote, backslash and controls are escaped. -/
def escaped (c : Char) : String :=
  if c = '"' then "\\\""
  else if c = '\\' then "\\\\"
  else if c = '\x08' then "\\b"
  else if c = '\x0c' then "\\f"
  else if c = '\n' then "\\n"
  else if c = '\r' then "\\r"
  else if c = '\t' then "\\t"
  else if c.toNat < 0x10 then "\\u000" ++ Text.hexNumber c.toNat
  else if c.toNat < 0x20 then "\\u00" ++ Text.hexNumber c.toNat
  else String.ofList [c]

/-- A text between quotes. -/
def quoted (s : String) : String := "\"" ++ String.join (s.toList.map escaped) ++ "\""

/-- How the parts of a value are set apart: nothing on one line, or breaks and indents. -/
structure Layout where
  /-- What stands in front of an item at a depth. -/
  lead : Nat → String
  /-- What stands after the colon of a member. -/
  gap : String

/-- All on one line. -/
def compactLayout : Layout := { lead := fun _ => "", gap := "" }

/-- An item a line, two blanks a level. -/
def prettyLayout : Layout :=
  { lead := fun depth => "\n" ++ String.ofList (List.replicate (2 * depth) ' '), gap := " " }

/-- Items between two brackets at a depth. -/
def bracketed (layout : Layout) (opening closing : String) (depth : Nat) (items : List String) :
    String :=
  if items.isEmpty then opening ++ closing
  else
    opening ++ ",".intercalate (items.map fun item => layout.lead (depth + 1) ++ item) ++
      layout.lead depth ++ closing

mutual

/-- The text of a value that stands at a depth. -/
def render (layout : Layout) (depth : Nat) : Value → String
  | .null => "null"
  | .truth b => if b then "true" else "false"
  | .number n => toString n
  | .text s => quoted s
  | .array items => bracketed layout "[" "]" depth (renderItems layout (depth + 1) items)
  | .object members =>
    bracketed layout "\x7b" "\x7d" depth (renderMembers layout (depth + 1) members)

/-- The texts of the items of an array. -/
def renderItems (layout : Layout) (depth : Nat) : List Value → List String
  | [] => []
  | item :: rest => render layout depth item :: renderItems layout depth rest

/-- The texts of the members of an object. -/
def renderMembers (layout : Layout) (depth : Nat) : List (String × Value) → List String
  | [] => []
  | (key, value) :: rest =>
    (quoted key ++ ":" ++ layout.gap ++ render layout depth value) ::
      renderMembers layout depth rest

end

/-- A value on one line. -/
def Value.compact (v : Value) : String := render compactLayout 0 v

/-- A value with an item a line. -/
def Value.pretty (v : Value) : String := render prettyLayout 0 v

end ChangeLog.Json
