/-
  The smallest parts of a TOML document: blanks, comments, line ends, quoted texts and keys. A
  reader takes its part from the front and hands on the rest; nothing where the part is malformed.
-/
import ChangeLog.Text.Decimal

namespace ChangeLog.Toml

/-! ## Blanks and lines -/

/-- Space and tab. -/
def isBlank (c : Char) : Bool := c = ' ' || c = '\t'

/-- Characters that may stand in comments and quoted texts: no controls but the tab. -/
def isPlain (c : Char) : Bool := c = '\t' || (0x20 ≤ c.toNat && c.toNat ≠ 0x7f)

/-- Without the blanks in front. -/
def skipBlanks (cs : List Char) : List Char := cs.dropWhile isBlank

/-- What follows a line feed, with or without a carriage return before it. -/
def newline? : List Char → Option (List Char)
  | '\n' :: rest => some rest
  | '\r' :: '\n' :: rest => some rest
  | _ => none

/-- Without the comment in front. -/
def skipComment : List Char → List Char
  | '#' :: rest => rest.dropWhile isPlain
  | rest => rest

/-- What follows the line, of which only blanks and a comment may be left. -/
def lineEnd? (cs : List Char) : Option (List Char) :=
  match skipComment (skipBlanks cs) with
  | [] => some []
  | rest => newline? rest

/-- Without blanks and line feeds in front. -/
def skipBreaks : List Char → List Char
  | ' ' :: rest | '\t' :: rest | '\n' :: rest => skipBreaks rest
  | '\r' :: '\n' :: rest => skipBreaks rest
  | rest => rest

/-- Without blanks, line feeds and comments in front; a comment ends with its line. Takes at most
`count` lines. -/
def skipFiller : Nat → List Char → Option (List Char)
  | 0, _ => none
  | count + 1, cs =>
    match skipBreaks cs with
    | '#' :: rest => (newline? (rest.dropWhile isPlain)).bind (skipFiller count)
    | rest => some rest

/-! ## Quoted texts -/

/-- The character with the number that hexadecimal digits give, unless it is a surrogate or too
large. -/
def scalar? (digits : List Char) : Option Char :=
  let n := Text.ofDigits 16 digits
  if digits.all (Text.isDigit 16) ∧ n.isValidChar then some (Char.ofNat n) else none

/-- The character that is escaped after a backslash. -/
def escape? : List Char → Option (Char × List Char)
  | 'b' :: rest => some ('\x08', rest)
  | 't' :: rest => some ('\t', rest)
  | 'n' :: rest => some ('\n', rest)
  | 'f' :: rest => some ('\x0c', rest)
  | 'r' :: rest => some ('\r', rest)
  | '"' :: rest => some ('"', rest)
  | '\\' :: rest => some ('\\', rest)
  | 'u' :: rest => if rest.length < 4 then none else (scalar? (rest.take 4)).map (·, rest.drop 4)
  | 'U' :: rest => if rest.length < 8 then none else (scalar? (rest.take 8)).map (·, rest.drop 8)
  | _ => none

/-- Puts a character in front of what a reader found. -/
def prepend (c : Char) : Option (List Char × List Char) → Option (List Char × List Char) :=
  Option.map fun (text, rest) => (c :: text, rest)

/-- The rest of a text in double quotes on one line, in at most `count` characters. -/
def basic : Nat → List Char → Option (List Char × List Char)
  | 0, _ | _, [] => none
  | _ + 1, '"' :: rest => some ([], rest)
  | count + 1, '\\' :: rest => (escape? rest).bind fun (c, rest) => prepend c (basic count rest)
  | count + 1, c :: rest => if isPlain c then prepend c (basic count rest) else none

/-- The rest of a text in single quotes on one line. -/
def literal : List Char → Option (List Char × List Char)
  | [] => none
  | '\'' :: rest => some ([], rest)
  | c :: rest => if isPlain c then prepend c (literal rest) else none

/-- The end of a text over several lines, if it is here: three quotes, and up to two before them
that belong to the text. -/
def closing? (quote : Char) (cs : List Char) : Option (List Char × List Char) :=
  let run := (cs.takeWhile (· = quote)).length
  if run < 3 then none
  else
    let inside := min (run - 3) 2
    some (List.replicate inside quote, cs.drop (inside + 3))

/-- The rest of a text in three double quotes; a backslash at the end of a line takes the break and
all blanks and breaks after it. -/
def multiBasic : Nat → List Char → Option (List Char × List Char)
  | 0, _ | _, [] => none
  | count + 1, c :: rest =>
    match closing? '"' (c :: rest) with
    | some found => some found
    | none =>
      match newline? (c :: rest) with
      | some more => prepend '\n' (multiBasic count more)
      | none =>
        if c = '\\' then
          match newline? (skipBlanks rest) with
          | some more => multiBasic count (skipBreaks more)
          | none => (escape? rest).bind fun (c, more) => prepend c (multiBasic count more)
        else if isPlain c then prepend c (multiBasic count rest) else none

/-- The rest of a text in three single quotes. -/
def multiLiteral : Nat → List Char → Option (List Char × List Char)
  | 0, _ | _, [] => none
  | count + 1, c :: rest =>
    match closing? '\'' (c :: rest) with
    | some found => some found
    | none =>
      match newline? (c :: rest) with
      | some more => prepend '\n' (multiLiteral count more)
      | none => if isPlain c then prepend c (multiLiteral count rest) else none

/-- Without the line break right after three quotes. -/
def afterOpening (cs : List Char) : List Char := (newline? cs).getD cs

/-- A text in quotes of any kind. -/
def quoted? (cs : List Char) : Option (List Char × List Char) :=
  let count := cs.length
  match cs with
  | '"' :: '"' :: '"' :: rest => multiBasic count (afterOpening rest)
  | '"' :: rest => basic count rest
  | '\'' :: '\'' :: '\'' :: rest => multiLiteral count (afterOpening rest)
  | '\'' :: rest => literal rest
  | _ => none

/-! ## Keys -/

/-- Characters of a key without quotes. -/
def isBare (c : Char) : Bool :=
  ('a' ≤ c && c ≤ 'z') || ('A' ≤ c && c ≤ 'Z') || ('0' ≤ c && c ≤ '9') || c = '-' || c = '_'

/-- One part of a key. -/
def keyPart? (cs : List Char) : Option (String × List Char) :=
  match cs with
  | '"' :: rest => (basic cs.length rest).map fun (key, rest) => (String.ofList key, rest)
  | '\'' :: rest => (literal rest).map fun (key, rest) => (String.ofList key, rest)
  | _ =>
    let key := cs.takeWhile isBare
    if key.isEmpty then none else some (String.ofList key, cs.dropWhile isBare)

/-- The parts of a key between dots, in at most `count` parts. -/
def keyParts? : Nat → List Char → Option (List String × List Char)
  | 0, _ => none
  | count + 1, cs => do
    let (part, rest) ← keyPart? (skipBlanks cs)
    match skipBlanks rest with
    | '.' :: rest =>
      let (parts, rest) ← keyParts? count rest
      return (part :: parts, rest)
    | rest => return ([part], rest)

/-- How many levels tables, arrays and dotted keys may be deep. -/
def depthLimit : Nat := 79

/-- A dotted key: the path to its table, and the last part. -/
def key? (cs : List Char) : Option (List String × List Char) := keyParts? depthLimit cs

end ChangeLog.Toml
