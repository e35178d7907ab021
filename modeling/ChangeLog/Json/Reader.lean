/-
  Reading an object of texts out of JSON. The reader goes from the front and stops at the first
  problem: either the text is malformed there, or it is well formed so far and not what is wanted.
  Members with other names are passed over without looking into their texts; the same members may
  be given in order in an array. What follows the object is not looked at.
-/
import ChangeLog.Json.Number

namespace ChangeLog.Json

/-- Why a text is refused. -/
inductive Fault where
  | malformed
  | mismatch
deriving DecidableEq, Repr

/-- Without white space in front. -/
def skipSpace (cs : List Char) : List Char :=
  cs.dropWhile fun c => c = ' ' || c = '\n' || c = '\t' || c = '\r'

/-! ## Texts -/

/-- The number in four hexadecimal digits. -/
def fourDigits? (cs : List Char) : Option (Nat × List Char) :=
  if 4 ≤ cs.length ∧ (cs.take 4).all (Text.isDigit 16) then
    some (Text.ofDigits 16 (cs.take 4), cs.drop 4)
  else none

/-- The character that a letter stands for after a backslash. -/
def shortEscape? (c : Char) : Option Char :=
  match c with
  | '"' => some '"'
  | '\\' => some '\\'
  | '/' => some '/'
  | 'b' => some '\x08'
  | 'f' => some '\x0c'
  | 'n' => some '\n'
  | 'r' => some '\r'
  | 't' => some '\t'
  | _ => none

/-- The character that is escaped after a backslash; surrogates come in pairs only. -/
def escape? : List Char → Option (Char × List Char)
  | 'u' :: rest => do
    let (n, rest) ← fourDigits? rest
    if 0xdc00 ≤ n ∧ n ≤ 0xdfff then none
    else if n < 0xd800 ∨ 0xdbff < n then some (Char.ofNat n, rest)
    else
      match rest with
      | '\\' :: 'u' :: rest =>
        let (low, rest) ← fourDigits? rest
        if 0xdc00 ≤ low ∧ low ≤ 0xdfff then
          some (Char.ofNat (0x10000 + (n - 0xd800) * 0x400 + (low - 0xdc00)), rest)
        else none
      | _ => none
  | c :: rest => (shortEscape? c).map (·, rest)
  | [] => none

/-- The rest of a text after its opening quote, in at most `count` characters. -/
def textBody? : Nat → List Char → Option (List Char × List Char)
  | 0, _ | _, [] => none
  | _ + 1, '"' :: rest => some ([], rest)
  | count + 1, '\\' :: rest => do
    let (c, rest) ← escape? rest
    let (text, rest) ← textBody? count rest
    return (c :: text, rest)
  | count + 1, c :: rest =>
    if c.toNat < 0x20 then none
    else (textBody? count rest).map fun (text, rest) => (c :: text, rest)

/-- A text after its opening quote. -/
def text? (cs : List Char) : Option (String × List Char) :=
  (textBody? cs.length cs).map fun (text, rest) => (String.ofList text, rest)

/-- What follows a text, whose escapes need only be of the right form. -/
def afterText? : Nat → List Char → Option (List Char)
  | 0, _ | _, [] => none
  | _ + 1, '"' :: rest => some rest
  | count + 1, '\\' :: 'u' :: rest => (fourDigits? rest).bind fun (_, rest) => afterText? count rest
  | count + 1, '\\' :: c :: rest => (shortEscape? c).bind fun _ => afterText? count rest
  | _ + 1, ['\\'] => none
  | count + 1, c :: rest => if c.toNat < 0x20 then none else afterText? count rest

/-! ## Plain values -/

/-- What follows a word. -/
def afterWord? (word : String) (cs : List Char) : Option (List Char) :=
  let w := word.toList
  if cs.take w.length = w then some (cs.drop w.length) else none

/-- What follows a value that is neither a text nor has members. -/
def afterPlain? (cs : List Char) : Option (List Char) :=
  match cs with
  | 'n' :: _ => afterWord? "null" cs
  | 't' :: _ => afterWord? "true" cs
  | 'f' :: _ => afterWord? "false" cs
  | _ => (signed? cs).map Prod.snd

/-! ## Values that are passed over -/

/-- What a value stands in. -/
inductive Enclosure where
  | array
  | object
deriving DecidableEq

/-- What is expected next. -/
inductive Expected where
  | value
  | firstOrEnd
  | key
  | nextOrEnd
deriving DecidableEq

/-- What follows the value at the front, given what it stands in; takes at most `count` steps, each
of which takes a character or settles what is expected. -/
def skip : Nat → Expected → List Enclosure → List Char → Option (List Char)
  | 0, _, _, _ => none
  | count + 1, .value, within, cs =>
    match skipSpace cs with
    | '[' :: rest => skip count .firstOrEnd (.array :: within) rest
    | '\x7b' :: rest => skip count .firstOrEnd (.object :: within) rest
    | '"' :: rest => (afterText? rest.length rest).bind (skip count .nextOrEnd within)
    | cs => (afterPlain? cs).bind (skip count .nextOrEnd within)
  | count + 1, .firstOrEnd, within, cs =>
    match within, skipSpace cs with
    | .array :: outer, ']' :: rest => skip count .nextOrEnd outer rest
    | .array :: outer, cs => skip count .value (.array :: outer) cs
    | .object :: outer, '\x7d' :: rest => skip count .nextOrEnd outer rest
    | .object :: outer, cs => skip count .key (.object :: outer) cs
    | [], _ => none
  | count + 1, .key, within, cs =>
    match skipSpace cs with
    | '"' :: rest => do
      match skipSpace (← afterText? rest.length rest) with
      | ':' :: rest => skip count .value within rest
      | _ => none
    | _ => none
  | _ + 1, .nextOrEnd, [], cs => some cs
  | count + 1, .nextOrEnd, .array :: outer, cs =>
    match skipSpace cs with
    | ',' :: rest => skip count .value (.array :: outer) rest
    | ']' :: rest => skip count .nextOrEnd outer rest
    | _ => none
  | count + 1, .nextOrEnd, .object :: outer, cs =>
    match skipSpace cs with
    | ',' :: rest => skip count .key (.object :: outer) rest
    | '\x7d' :: rest => skip count .nextOrEnd outer rest
    | _ => none

/-- What follows the value at the front. -/
def afterValue? (cs : List Char) : Option (List Char) := skip (2 * cs.length + 2) .value [] cs

/-! ## Objects of texts -/

/-- The fault of a value that is not what is wanted. The value is read first if it is plain; a
number that is too large counts as malformed. -/
def unwanted (cs : List Char) : Fault :=
  match cs with
  | [] => .malformed
  | '[' :: _ | '\x7b' :: _ => .mismatch
  | '"' :: rest => if (text? rest).isSome then .mismatch else .malformed
  | 'n' :: _ | 't' :: _ | 'f' :: _ => if (afterPlain? cs).isSome then .mismatch else .malformed
  | _ =>
    match signed? cs with
    | some (false, _) => .mismatch
    | _ => .malformed

/-- A step that fails only on malformed text. -/
def expect {α : Type} : Option α → Except Fault α
  | none => .error .malformed
  | some a => .ok a

/-- A value that has to be a text. -/
def textValue (cs : List Char) : Except Fault (String × List Char) :=
  match skipSpace cs with
  | '"' :: rest => expect (text? rest)
  | cs => .error (unwanted cs)

/-- What follows a colon. -/
def afterColon (cs : List Char) : Except Fault (List Char) :=
  match skipSpace cs with
  | ':' :: rest => .ok rest
  | _ => .error .malformed

/-- The members of an object, at most `count` of them, that have one of the names; none of these
may be given twice. -/
def members (names : List String) :
    Nat → Bool → List (String × String) → List Char → Except Fault (List (String × String))
  | 0, _, _, _ => .error .malformed
  | count + 1, isFirst, found, cs =>
    match skipSpace cs with
    | '\x7d' :: _ => .ok found
    | cs => do
      let cs ← if isFirst then .ok cs else match cs with
        | ',' :: rest => .ok (skipSpace rest)
        | _ => .error .malformed
      match cs with
      | '"' :: rest =>
        let (key, rest) ← expect (text? rest)
        if names.contains key then
          if (found.lookup key).isSome then .error .mismatch
          else
            let (value, rest) ← textValue (← afterColon rest)
            members names count false ((key, value) :: found) rest
        else
          let rest ← expect (afterValue? (← afterColon rest))
          members names count false found rest
      | _ => .error .malformed

/-- The items of an array, as the members with the given names. -/
def elements : List String → Bool → List (String × String) → List Char →
    Except Fault (List (String × String))
  | [], _, found, cs =>
    match skipSpace cs with
    | ']' :: _ => .ok found
    | _ => .error .malformed
  | name :: names, isFirst, found, cs =>
    match skipSpace cs with
    | ']' :: _ => .ok found
    | cs => do
      let cs ← if isFirst then .ok cs else match cs with
        | ',' :: rest =>
          match skipSpace rest with
          | ']' :: _ | [] => .error .malformed
          | rest => .ok rest
        | _ => .error .malformed
      let (value, rest) ← textValue cs
      elements names false ((name, value) :: found) rest

/-- The texts with the given names in an object, or in an array in that order. -/
def texts (names : List String) (cs : List Char) : Except Fault (List (String × String)) :=
  match skipSpace cs with
  | '\x7b' :: rest => members names (rest.length + 1) true [] rest
  | '[' :: rest => elements names true [] rest
  | cs => .error (unwanted cs)

end ChangeLog.Json
