/-
  The data of a TOML document, and how its tables grow. A table remembers how it came to be,
  because that decides who may still add to it: a table with a header of its own is not opened
  again, one that only stands on the way to another header may be, one made by dotted keys grows by
  dotted keys alone, and one between braces never grows.
-/

namespace ChangeLog.Toml

/-- How a table came to be. -/
inductive Origin where
  | header
  | path
  | dotted
  | inline
deriving DecidableEq, Repr

/-- A value. Numbers with a fraction or an exponent, and dates and times, are kept as written; the
tables under one array header are kept with the newest first. -/
inductive Item where
  | text (s : String)
  | integer (n : Int)
  | decimal (written : String)
  | moment (written : String)
  | truth (b : Bool)
  | array (items : List Item)
  | table (origin : Origin) (entries : List (String × Item))
  | rows (tables : List Item)
deriving Repr

/-- The entries of a table. -/
abbrev Entries := List (String × Item)

/-- Sets the value of a key. -/
def Entries.set (entries : Entries) (key : String) (item : Item) : Entries :=
  (key, item) :: entries.filter fun e => e.1 ≠ key

/-- Changes the table at the end of a path and makes the tables on the way where they are missing.
Nothing is found behind a plain value or a table between braces, and dotted keys find nothing
behind a header. -/
def descend {α : Type} (dotted : Bool) (change : Origin → Entries → Option (α × Entries)) :
    List String → Origin → Entries → Option (α × Entries)
  | [], origin, entries => change origin entries
  | key :: path, _, entries =>
    match entries.lookup key with
    | none =>
      let origin := if dotted then Origin.dotted else Origin.path
      (descend dotted change path origin []).map fun (a, inner) =>
        (a, entries.set key (.table origin inner))
    | some (.table origin inner) =>
      if origin = .inline ∨ (dotted ∧ origin = .header) then none
      else (descend dotted change path origin inner).map fun (a, inner) =>
        (a, entries.set key (.table origin inner))
    | some (.rows (.table origin inner :: older)) =>
      (descend dotted change path origin inner).map fun (a, inner) =>
        (a, entries.set key (.rows (.table origin inner :: older)))
    | some _ => none

/-- Adds a pair under a dotted key; a key is given once only. -/
def addPair (entries : Entries) (path : List String) (key : String) (item : Item) :
    Option Entries :=
  (descend true (fun origin inner =>
    if (origin == .dotted) = path.isEmpty ∨ (inner.lookup key).isSome then none
    else some ((), (key, item) :: inner)) path .header entries).map Prod.snd

/-- A document while it is read: the table that grows, where it belongs, and the rest. -/
structure Builder where
  root : Entries := []
  current : Entries := []
  path : List String := []
  isRow : Bool := false

namespace Builder

/-- Puts the table that grows in its place. -/
def finish (b : Builder) : Option Entries :=
  match b.path.getLast? with
  | none => some b.current
  | some key =>
    (descend false (fun _ inner =>
      match inner.lookup key with
      | none =>
        let table := Item.table .header b.current
        some ((), (key, if b.isRow then .rows [table] else table) :: inner)
      | some (.rows older) =>
        if b.isRow then some ((), Entries.set inner key (.rows (.table .header b.current :: older)))
        else none
      | some _ => none) b.path.dropLast .header b.root).map Prod.snd

/-- Goes on with the table under a header. -/
def openTable (b : Builder) (path : List String) : Option Builder := do
  let root ← b.finish
  let key ← path.getLast?
  let (current, root) ← descend false (fun _ inner =>
    match inner.lookup key with
    | none => some (([] : Entries), inner)
    | some (.table .path entries) => some (entries, inner.filter fun e => e.1 ≠ key)
    | some _ => none) path.dropLast .header root
  return { root, current, path }

/-- Goes on with a new table under an array header. -/
def openRow (b : Builder) (path : List String) : Option Builder := do
  let root ← b.finish
  let key ← path.getLast?
  let (_, root) ← descend false (fun _ inner =>
    match inner.lookup key with
    | none | some (.rows _) => some ((), inner)
    | some _ => none) path.dropLast .header root
  return { root, current := [], path, isRow := true }

/-- Adds a pair to the table that grows. -/
def add (b : Builder) (path : List String) (key : String) (item : Item) : Option Builder :=
  (addPair b.current path key item).map fun current => { b with current }

end Builder
end ChangeLog.Toml
