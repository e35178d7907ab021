/-
  TOML documents. Values nest up to a fixed depth, which bounds the recursion; a document is read
  line by line into a builder, which refuses what is given twice.
-/
import ChangeLog.Toml.Number

namespace ChangeLog.Toml

/-- The rest of an array, whose values `read` reads, in at most `count` values. -/
def elements (read : List Char → Option (Item × List Char)) :
    Nat → List Char → Option (List Item × List Char)
  | 0, _ => none
  | count + 1, cs => do
    match ← skipFiller (cs.length + 1) cs with
    | ']' :: rest => return ([], rest)
    | cs =>
      let (item, rest) ← read cs
      match ← skipFiller (rest.length + 1) rest with
      | ',' :: rest =>
        let (items, rest) ← elements read count rest
        return (item :: items, rest)
      | ']' :: rest => return ([item], rest)
      | _ => none

/-- A pair: the path of its key, the last part of it, and the value that `read` reads. -/
def pair (read : List Char → Option (Item × List Char)) (cs : List Char) :
    Option ((List String × String × Item) × List Char) := do
  let (parts, rest) ← key? cs
  let key ← parts.getLast?
  let rest ← mark? '=' rest
  let (item, rest) ← read (skipBlanks rest)
  return ((parts.dropLast, key, item), rest)

/-- The pairs of a table between braces, after at least one pair, in at most `count` pairs. -/
def pairs (read : List Char → Option (Item × List Char)) :
    Nat → Entries → List Char → Option (Entries × List Char)
  | 0, _, _ => none
  | count + 1, entries, cs => do
    let ((path, key, item), rest) ← pair read cs
    let entries ← addPair entries path key item
    match skipBlanks rest with
    | ',' :: rest => pairs read count entries rest
    | '\x7d' :: rest => return (entries, rest)
    | _ => none

/-- A value with at most `depth` levels of arrays and braces. -/
def value (depth : Nat) (cs : List Char) : Option (Item × List Char) :=
  match cs with
  | '"' :: _ | '\'' :: _ => (quoted? cs).map fun (text, rest) => (.text (String.ofList text), rest)
  | 't' :: 'r' :: 'u' :: 'e' :: rest => some (.truth true, rest)
  | 'f' :: 'a' :: 'l' :: 's' :: 'e' :: rest => some (.truth false, rest)
  | '[' :: rest =>
    match depth with
    | 0 => none
    | depth + 1 =>
      (elements (value depth) cs.length rest).map fun (items, rest) => (.array items, rest)
  | '\x7b' :: rest =>
    match depth with
    | 0 => none
    | depth + 1 =>
      match skipBlanks rest with
      | '\x7d' :: rest => some (.table .inline [], rest)
      | rest =>
        (pairs (value depth) cs.length [] rest).map fun (entries, rest) =>
          (.table .inline entries, rest)
  | _ => (moment? cs).orElse fun _ => number? cs

/-- A header between brackets: what follows it and the rest of its line. -/
def header (close : List Char) (cs : List Char) : Option (List String × List Char) := do
  let (path, rest) ← key? cs
  if rest.take close.length = close then
    let rest ← lineEnd? (rest.drop close.length)
    return (path, rest)
  else none

/-- The lines of a document, at most `count` of them. -/
def lines : Nat → Builder → List Char → Option Builder
  | 0, _, _ => none
  | count + 1, b, cs =>
    match skipBlanks cs with
    | [] => some b
    | '[' :: '[' :: rest => do
      let (path, rest) ← header [']', ']'] rest
      lines count (← b.openRow path) rest
    | '[' :: rest => do
      let (path, rest) ← header [']'] rest
      lines count (← b.openTable path) rest
    | c :: rest =>
      if c = '#' ∨ c = '\n' ∨ c = '\r' then do
        lines count b (← lineEnd? (c :: rest))
      else do
        let ((path, key, item), rest) ← pair (value depthLimit) (c :: rest)
        let rest ← lineEnd? rest
        lines count (← b.add path key item) rest

/-- The entries of a document, if it is well formed; a byte-order mark may stand in front. -/
def parse (text : String) : Option Entries :=
  let cs := match text.toList with
    | '\ufeff' :: rest => rest
    | cs => cs
  (lines (cs.length + 1) {} cs).bind Builder.finish

end ChangeLog.Toml
