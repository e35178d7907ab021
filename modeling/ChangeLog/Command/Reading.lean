/-
  Reading of arguments against a grammar, one after another. An option that takes a value may have
  it attached or find it in the next argument, and a value is taken up only when the argument after
  it turns out to be in order; so of two mistakes the earlier one is reported, unless the later one
  is an argument that nobody knows. After two hyphens alone every argument is a plain value.
-/
import ChangeLog.Command.Grammar

namespace ChangeLog.Command

/-- How far the reading has come. -/
structure Reading (σ : Type) where
  form : σ
  /-- The place that is next to be filled in, and the value for it once it is known. -/
  pending : Option (Slot σ × Option String) := none
  /-- The places that are left in the row of values. -/
  slots : List (Slot σ)
  /-- Whether all further arguments are plain values. -/
  isVerbatim : Bool := false

namespace Reading

variable {σ : Type}

/-- Before the first argument. -/
def start (g : Grammar σ) (blank : σ) : Reading σ := { form := blank, slots := g.slots }

/-- Fills in what is pending. -/
def settle (r : Reading σ) : Except UsageError (Reading σ) :=
  match r.pending with
  | none => .ok r
  | some (slot, none) => .error (.missingValue slot.name)
  | some (slot, some value) =>
    (slot.fill value r.form).map fun form => { r with form, pending := none }

/-- Whether an option waits for its value. -/
def isWaiting (r : Reading σ) : Bool :=
  match r.pending with
  | some (_, none) => true
  | _ => false

/-- Sets a flag. -/
def set (r : Reading σ) (flag : σ → Except UsageError σ) : Except UsageError (Reading σ) := do
  let r ← r.settle
  return { r with form := ← flag r.form }

/-- Takes an option whose value is attached to it. -/
def attach (r : Reading σ) (slot : Slot σ) (value : List Char) : Except UsageError (Reading σ) :=
  r.set (slot.fill (String.ofList value))

/-- Takes an option whose value is to come. -/
def await (r : Reading σ) (slot : Slot σ) : Except UsageError (Reading σ) := do
  let r ← r.settle
  return { r with pending := some (slot, none) }

/-- Takes what follows two hyphens. -/
def long (g : Grammar σ) (r : Reading σ) (body : List Char) : Except UsageError (Reading σ) :=
  let (name, value?) := Text.cut '=' body
  let name := String.ofList name
  match (g.options.find? fun s => s.long = name).map Switch.effect, value? with
  | none, _ => .error (.unknownArgument ("--" ++ name))
  | some (.flag _), some _ => .error (.unwantedValue ("--" ++ name))
  | some (.flag flag), none => r.set flag
  | some (.value slot), some value => r.attach slot value
  | some (.value slot), none => r.await slot

/-- Takes what follows one hyphen: a row of flags, up to an option that takes the rest as its
value. -/
def short (g : Grammar σ) (r : Reading σ) : List Char → Except UsageError (Reading σ)
  | [] => .ok r
  | c :: rest =>
    match (g.options.find? fun s => s.short = some c).map Switch.effect, rest with
    | none, _ => .error (.unknownArgument (String.ofList ['-', c]))
    | some (.flag flag), rest => (r.set flag).bind fun r => r.short g rest
    | some (.value slot), [] => r.await slot
    | some (.value slot), '=' :: value => r.attach slot value
    | some (.value slot), value => r.attach slot value

/-- Takes a plain value. -/
def plain (g : Grammar σ) (r : Reading σ) (arg : String) : Except UsageError (Reading σ) :=
  match r.slots with
  | slot :: slots => do
    let r ← r.settle
    return { r with pending := some (slot, some arg), slots }
  | [] =>
    if g.commands = [] ∨ r.isVerbatim ∧ arg ∈ g.commands then .error (.unknownArgument arg)
    else .error (.unknownCommand arg)

/-- Takes an argument. -/
def take (g : Grammar σ) (r : Reading σ) (arg : String) : Except UsageError (Reading σ) :=
  if r.isVerbatim then r.plain g arg
  else
    match arg.toList with
    | ['-', '-'] => .ok { r with isVerbatim := true }
    | '-' :: '-' :: body => r.long g body
    | '-' :: c :: rest => r.short g (c :: rest)
    | _ =>
      match r.pending with
      | some (slot, none) => .ok { r with pending := some (slot, some arg) }
      | _ => r.plain g arg

/-- Takes arguments up to the name of a command, which is given back with what follows it. -/
def run (g : Grammar σ) (r : Reading σ) :
    List String → Except UsageError (Reading σ × Option (String × List String))
  | [] => .ok (r, none)
  | arg :: rest =>
    if arg ∈ g.commands ∧ !r.isVerbatim ∧ !r.isWaiting then .ok (r, some (arg, rest))
    else (r.take g arg).bind fun r => r.run g rest

end Reading
end ChangeLog.Command
