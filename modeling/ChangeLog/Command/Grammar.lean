/-
  What arguments a command takes. A form is filled in as the arguments are read; a grammar says
  which option or which place in the row of values fills in which part of it. Every part is filled
  in at most once. A grammar for a part of a form serves the whole form.
-/
import ChangeLog.Command.Usage
import ChangeLog.Config
import ChangeLog.Text.Integer

namespace ChangeLog.Command

/-- A place of a form that takes one value, under the name that mistakes are reported by. -/
structure Slot (σ : Type) where
  name : String
  fill : String → σ → Except UsageError σ

/-- What an option does to a form. -/
inductive Effect (σ : Type) where
  | flag (set : σ → Except UsageError σ)
  | value (slot : Slot σ)

/-- An option, with two hyphens before its long name and one before its short name. -/
structure Switch (σ : Type) where
  long : String
  short : Option Char := none
  effect : Effect σ

/-- The options of a form, its places for values in a row, and the names of commands that end it. -/
structure Grammar (σ : Type) where
  options : List (Switch σ) := []
  slots : List (Slot σ) := []
  commands : List String := []

/-! ## Values -/

/-- How the text of a value is read at the place with a name. -/
abbrev ValueReader (α : Type) := String → String → Except UsageError α

/-- Any text. -/
def text : ValueReader String := fun _ value => .ok value

/-- The name of a file, which is never empty. -/
def path : ValueReader String := fun name value =>
  if value.isEmpty then .error (.missingValue name) else .ok value

/-- A number of 64 bits. -/
def word : ValueReader UInt64 := fun name value =>
  match Text.parseWord value.toList with
  | .ok n => .ok n
  | .error _ => .error (.badValue name value)

/-- An address. -/
def address : ValueReader Net.Address := fun name value =>
  match Net.Address.parse value with
  | some a => .ok a
  | none => .error (.badValue name value)

/-- One of the values that have names. -/
def choice {α : Type} (ofName? : String → Option α) : ValueReader α := fun name value =>
  match ofName? value with
  | some a => .ok a
  | none => .error (.notOffered name value)

/-! ## Parts of forms -/

/-- A place for one value; a second value is refused before it is read. -/
def Slot.once {σ α : Type} (name : String) (read : ValueReader α) (get : σ → Option α)
    (put : σ → α → σ) : Slot σ :=
  { name, fill := fun value form =>
      if (get form).isSome then .error (.repeated name) else (read name value).map (put form) }

/-- An option with one value. -/
def Switch.value {σ α : Type} (long : String) (short : Option Char) (read : ValueReader α)
    (get : σ → Option α) (put : σ → α → σ) : Switch σ :=
  { long, short, effect := .value (.once ("--" ++ long) read get put) }

/-- An option that is given or not. -/
def Switch.flag {σ : Type} (long : String) (short : Option Char) (get : σ → Bool) (set : σ → σ) :
    Switch σ :=
  { long, short, effect := .flag fun form =>
      if get form then .error (.repeated ("--" ++ long)) else .ok (set form) }

/-- An option that asks for something else than a command. -/
def Switch.instead {σ : Type} (long : String) (short : Option Char) (answer : UsageError) :
    Switch σ :=
  { long, short, effect := .flag fun _ => .error answer }

/-! ## Forms within forms -/

/-- A place of a part, as a place of the whole. -/
def Slot.within {σ τ : Type} (get : τ → σ) (put : τ → σ → τ) (slot : Slot σ) : Slot τ :=
  { name := slot.name, fill := fun value whole => (slot.fill value (get whole)).map (put whole) }

/-- An option of a part, as an option of the whole. -/
def Switch.within {σ τ : Type} (get : τ → σ) (put : τ → σ → τ) (s : Switch σ) : Switch τ :=
  { long := s.long, short := s.short, effect := match s.effect with
      | .flag set => .flag fun whole => (set (get whole)).map (put whole)
      | .value slot => .value (slot.within get put) }

end ChangeLog.Command
