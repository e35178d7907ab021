/-
  The forms of the commands and of what holds for all commands, and the reading of a whole command
  line. Options for all commands may stand on both sides of the command's name; given on both, the
  one behind it holds.
-/
import ChangeLog.Command
import ChangeLog.Command.Reading
import ChangeLog.Log

namespace ChangeLog.Command

/-! ## What holds for all commands -/

/-- Options for all commands. -/
structure Shared where
  directory : Option String := none
  isVerbose : Bool := false
  format : Option Format := none
deriving DecidableEq, Repr

/-- The options for all commands. -/
def Shared.options : List (Switch Shared) :=
  [.value "data-dir" (some 'd') path Shared.directory fun f v => { f with directory := some v },
   .flag "verbose" (some 'v') Shared.isVerbose fun f => { f with isVerbose := true },
   .value "format" none (choice Format.ofName?) Shared.format
    fun f v => { f with format := some v },
   .instead "help" (some 'h') .helpAsked]

/-- Options behind a command's name win over those before it. -/
def Shared.over (inner outer : Shared) : Shared :=
  { directory := inner.directory <|> outer.directory
    isVerbose := inner.isVerbose || outer.isVerbose
    format := inner.format <|> outer.format }

/-- A command that is called under the options given for all commands. -/
def Shared.invoke (shared : Shared) (command : Command) : Invocation :=
  let defaults : Invocation := { command }
  { command
    directory := shared.directory.getD defaults.directory
    isVerbose := shared.isVerbose
    format := shared.format.getD defaults.format }

/-- A form with the options for all commands. -/
structure Filled (φ : Type) where
  shared : Shared := {}
  own : φ

/-- A command's arguments beside the options for all commands. -/
def Grammar.shared {φ : Type} (g : Grammar φ) : Grammar (Filled φ) :=
  let inOwn (f : Filled φ) (own : φ) : Filled φ := { f with own }
  let inShared (f : Filled φ) (shared : Shared) : Filled φ := { f with shared }
  { options := g.options.map (·.within Filled.own inOwn) ++
      Shared.options.map (·.within Filled.shared inShared)
    slots := g.slots.map (·.within Filled.own inOwn)
    commands := g.commands }

/-- Reads all arguments of a command. -/
def fill {φ : Type} (g : Grammar φ) (blank : φ) (finish : φ → Except UsageError Command)
    (args : List String) : Except UsageError (Command × Shared) := do
  let g := g.shared
  let (r, _) ← (Reading.start g { own := blank }).run g args
  let r ← r.settle
  return (← finish r.form.own, r.form.shared)

/-- A value that a command cannot do without. -/
def needed {α : Type} (name : String) : Option α → Except UsageError α
  | some a => .ok a
  | none => .error (.missingArgument name)

/-- The option for when a journal is forced to the disk. -/
def syncSwitch {σ : Type} (get : σ → Option SyncMode) (put : σ → SyncMode → σ) : Switch σ :=
  .value "sync" none (choice SyncMode.ofName?) get put

/-! ## append -/

/-- The form of `append`. -/
structure AppendForm where
  type : Option String := none
  before : Option String := none
  after : Option String := none
  source : Option String := none
  isHex : Bool := false
  sync : Option SyncMode := none

namespace AppendForm

/-- The arguments of `append`. -/
def grammar : Grammar AppendForm :=
  { slots := [.once "EVENT_TYPE" Command.text AppendForm.type fun f v => { f with type := some v }]
    options :=
      [.value "before" none Command.text AppendForm.before fun f v => { f with before := some v },
       .value "after" none Command.text AppendForm.after fun f v => { f with after := some v },
       .value "source" none Command.text AppendForm.source fun f v => { f with source := some v },
       .flag "hex" none AppendForm.isHex fun f => { f with isHex := true },
       syncSwitch AppendForm.sync fun f v => { f with sync := some v }] }

/-- The command in a form. -/
def finish (f : AppendForm) : Except UsageError Command := do
  let type ← needed "EVENT_TYPE" f.type
  let defaults : Submission := { type }
  return .append
    { type
      before := f.before.getD defaults.before
      after := f.after.getD defaults.after
      source := f.source.getD defaults.source
      isHex := f.isHex
      sync := f.sync }

end AppendForm

/-! ## get, replay, consume, ack and progress -/

/-- The arguments of `get`. -/
def getGrammar : Grammar (Option UInt64) :=
  { slots := [.once "OFFSET" word id fun _ v => some v] }

/-- The form of `replay`. -/
structure ReplayForm where
  first : Option UInt64 := none
  last : Option UInt64 := none

/-- The arguments of `replay`. -/
def ReplayForm.grammar : Grammar ReplayForm :=
  { options :=
      [.value "from" none word ReplayForm.first fun f v => { f with first := some v },
       .value "to" none word ReplayForm.last fun f v => { f with last := some v }] }

/-- The form of `consume`. -/
structure ConsumeForm where
  consumer : Option String := none
  max : Option UInt64 := none
  acknowledges : Bool := false

/-- The arguments of `consume`. -/
def ConsumeForm.grammar : Grammar ConsumeForm :=
  { slots := [.once "CONSUMER" Command.text ConsumeForm.consumer
      fun f v => { f with consumer := some v }]
    options :=
      [.value "max" (some 'n') word ConsumeForm.max fun f v => { f with max := some v },
       .flag "ack" none ConsumeForm.acknowledges fun f => { f with acknowledges := true }] }

/-- The form of `ack`. -/
structure AckForm where
  consumer : Option String := none
  offset : Option UInt64 := none

/-- The arguments of `ack`. -/
def AckForm.grammar : Grammar AckForm :=
  { slots :=
      [.once "CONSUMER" Command.text AckForm.consumer fun f v => { f with consumer := some v },
       .once "OFFSET" word AckForm.offset fun f v => { f with offset := some v }] }

/-- The arguments of `progress`. -/
def progressGrammar : Grammar (Option String) :=
  { slots := [.once "CONSUMER" Command.text id fun _ v => some v] }

/-! ## serve -/

/-- The arguments of `serve`. -/
def serveGrammar : Grammar ServerWish :=
  { options :=
      [.value "config" (some 'c') path ServerWish.settings fun f v => { f with settings := some v },
       .value "bind" none address ServerWish.address fun f v => { f with address := some v },
       .flag "memory" none ServerWish.isInMemory fun f => { f with isInMemory := true },
       syncSwitch ServerWish.sync fun f v => { f with sync := some v },
       .value "max-read-batch" none word ServerWish.maxBatch
        fun f v => { f with maxBatch := some v }] }

/-! ## Whole command lines -/

/-- The commands by name, each with the reading of its arguments. -/
def table : List (String × (List String → Except UsageError (Command × Shared))) :=
  [("append", fill AppendForm.grammar {} AppendForm.finish),
   ("get", fill getGrammar none fun f => (needed "OFFSET" f).map .get),
   ("replay", fill ReplayForm.grammar {} fun f => .ok (.replay (f.first.getD 0) f.last)),
   ("consume", fill ConsumeForm.grammar {} fun f => do
      return .consume (← needed "CONSUMER" f.consumer) (f.max.getD Log.defaultMaxBatch)
        f.acknowledges),
   ("ack", fill AckForm.grammar {} fun f => do
      return .acknowledge (← needed "CONSUMER" f.consumer) (← needed "OFFSET" f.offset)),
   ("progress", fill progressGrammar none fun f => .ok (.progress f)),
   ("inspect", fill {} () fun _ => .ok .inspect),
   ("serve", fill serveGrammar {} fun f => .ok (.serve f))]

/-- The names of the commands; `help` stands for none of them. -/
def names : List String := table.map Prod.fst ++ ["help"]

/-- The arguments before the name of a command. -/
def top : Grammar (Filled Unit) :=
  Grammar.shared { options := [.instead "version" (some 'V') .versionAsked], commands := names }

/-- What `help` answers: it knows the commands, and nothing below them. -/
def helpOn : List String → UsageError
  | [] => .helpAsked
  | [name] => if name ∈ names then .helpAsked else .unknownCommand name
  | name :: below :: _ => .unknownCommand (if name ∈ names then below else name)

end ChangeLog.Command

namespace ChangeLog.Invocation

open Command

/-- Reads a command line. -/
def ofArgs (args : List String) : Except UsageError Invocation := do
  let (outer, found) ← (Reading.start top { own := () }).run top args
  match found with
  | none =>
    let outer ← outer.settle
    throw (if outer.form.shared = {} then .nothingGiven else .missingCommand)
  | some (name, rest) =>
    match table.lookup name with
    | none => throw (helpOn rest)
    | some read =>
      let (command, inner) ← read rest
      let outer ← outer.settle
      return (inner.over outer.form.shared).invoke command

end ChangeLog.Invocation
