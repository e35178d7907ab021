/-
  Media types: a type and a subtype between token characters, and parameters after semicolons. JSON
  is the subtype json, or any subtype with json after its last plus, of the type application.
-/

namespace ChangeLog.Http

/-- Characters of types, subtypes, and names and values of parameters. -/
def isToken (c : Char) : Bool :=
  ('a' ≤ c && c ≤ 'z') || ('A' ≤ c && c ≤ 'Z') || ('0' ≤ c && c ≤ '9') ||
    "!#$%&'*+-.^_`|~".toList.contains c

/-- Characters that a content type may hold at all. -/
def isVisible (c : Char) : Bool := c = '\t' || (0x20 ≤ c.toNat && c.toNat < 0x7f)

/-- What follows a parameter's value in quotes, of at least one character: the next parameter. -/
def afterQuoted? (cs : List Char) : Option (List Char) :=
  match cs with
  | [] => none
  | first :: rest =>
    match rest.dropWhile fun c => c ≠ '"' ∧ 0x1f < c.toNat ∧ c.toNat ≠ 0x7f with
    | '"' :: rest =>
      if 0x1f < first.toNat ∧ first.toNat ≠ 0x7f then
        match rest.dropWhile (· = ' ') with
        | [] => some []
        | ';' :: rest => some rest
        | _ => none
      else none
    | _ => none

/-- What follows a parameter's value: the next parameter. -/
def afterValue? (cs : List Char) : Option (List Char) :=
  match cs with
  | '"' :: rest => afterQuoted? rest
  | _ =>
    match cs.dropWhile isToken with
    | [] => some []
    | ';' :: rest => if (cs.takeWhile isToken).isEmpty then none else some rest
    | _ => none

/-- Whether parameters are well formed, at most `count` of them. -/
def paramsOk : Nat → List Char → Bool
  | 0, _ => false
  | count + 1, cs =>
    match cs.dropWhile (· = ' ') with
    | [] => true
    | cs =>
      if (cs.takeWhile isToken).isEmpty then false
      else
        match cs.dropWhile isToken with
        | '=' :: rest =>
          match afterValue? rest with
          | some rest => paramsOk count rest
          | none => false
        | _ => false

/-- The part of a subtype before its last plus, and the part after it if there is one; a plus at
the front does not count. -/
def splitSuffix (cs : List Char) : List Char × Option (List Char) :=
  let after := (cs.reverse.takeWhile (· ≠ '+')).reverse
  let front := cs.length - after.length - 1
  if after.length < cs.length ∧ 0 < front then (cs.take front, some after) else (cs, none)

/-- Whether a content type stands for JSON. -/
def isJson (contentType : String) : Bool :=
  let cs := contentType.toList
  let type := cs.takeWhile isToken
  match cs.dropWhile isToken with
  | '/' :: rest =>
    let subtype := rest.takeWhile isToken
    let parameters? := match rest.dropWhile isToken with
      | [] => some []
      | ';' :: more => some more
      | _ => none
    match parameters? with
    | none => false
    | some more =>
      let (name, suffix?) := splitSuffix (subtype.map Char.toLower)
      cs.all isVisible && !type.isEmpty && type.map Char.toLower = "application".toList &&
        paramsOk (more.length + 1) more &&
        (name = "json".toList || suffix? = some "json".toList)
  | _ => false

end ChangeLog.Http
