/-
  Names of consumers. A name is kept for good: in records, in request paths and in messages; so it
  is not empty, at most 256 bytes long, and holds no white space, control character or slash.
-/
import ChangeLog.Text.Quoted
import ChangeLog.Wire

namespace ChangeLog

namespace Consumer

/-- What is wrong with a name. -/
inductive Reason where
  | empty
  | tooLong
  | blank
  | slash
deriving DecidableEq, Repr

/-- The words for a reason. -/
def Reason.text : Reason → String
  | .empty => "must not be empty"
  | .tooLong => "longer than 256 bytes"
  | .blank => "contains whitespace or control characters"
  | .slash => "must not contain '/'"

/-- The first thing that is wrong with a name, if any. -/
def reason? (name : String) : Option Reason :=
  if name.toList.isEmpty then some .empty
  else if 256 < (Text.encode name).length then some .tooLong
  else if name.toList.any fun c => Text.isBlank c || Text.isControl c then some .blank
  else if name.toList.contains '/' then some .slash
  else none

/-- A refused name. -/
structure Fault where
  name : String
  reason : Reason
deriving DecidableEq, Repr

/-- The message for a refused name. -/
def Fault.message (f : Fault) : String :=
  "invalid consumer id " ++ Text.quote f.name ++ ": " ++ f.reason.text

end Consumer

/-- A consumer, known by a valid name. -/
structure Consumer where
  name : String
  valid : Consumer.reason? name = none
deriving DecidableEq, Repr

namespace Consumer

/-- The consumer with the given name. -/
def ofText (name : String) : Except Fault Consumer :=
  match h : reason? name with
  | none => .ok ⟨name, h⟩
  | some reason => .error { name, reason }

/-- The form for diagnostics. -/
def debug (c : Consumer) : String := "ConsumerId(" ++ c.name ++ ")"

theorem ofText_name (c : Consumer) : ofText c.name = .ok c := by
  obtain ⟨name, valid⟩ := c
  unfold ofText
  split
  · rfl
  · rename_i h; simp [valid] at h

end Consumer

instance : Wire Consumer where
  write c := Wire.write c.name
  read bytes := do
    let (name, rest) ← Wire.read (α := String) bytes
    match Consumer.ofText name with
    | .ok c => some (c, rest)
    | .error _ => none

end ChangeLog
