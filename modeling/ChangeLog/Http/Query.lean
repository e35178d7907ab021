/-
  Query strings: pairs between ampersands, with the value after the first equals sign. A plus
  stands for a space, percent signs for bytes, and ill-formed bytes for U+FFFD. Parameters are taken
  in their order, unknown ones are passed over, and a known one is given once only.
-/
import ChangeLog.Http.Percent
import ChangeLog.Text.Integer
import ChangeLog.Text.Split

namespace ChangeLog.Http

/-- A part of a pair, decoded. -/
def formText (cs : List Char) : String :=
  String.ofList (Text.decodeLenient (decodedBytes (cs.map fun c => if c = '+' then ' ' else c)))

/-- The pairs of a query string. -/
def queryPairs (query : List Char) : List (String × String) :=
  ((Text.splitOn '&' query).filter (· ≠ [])).map fun pair =>
    let (name, value?) := Text.cut '=' pair
    (formText name, formText (value?.getD []))

/-- What a parameter holds. -/
inductive ParamKind where
  | signed
  | word
  | text
deriving DecidableEq, Repr

/-- The value of a parameter. -/
inductive Param where
  | signed (n : Int)
  | word (n : UInt64)
  | text (s : String)
deriving DecidableEq, Repr

/-- Why a query string is refused. -/
inductive QueryFault where
  | missing (name : String)
  | duplicate (name : String)
  | integer (fault : Text.IntegerFault)
deriving DecidableEq, Repr

/-- The words for a refusal. -/
def QueryFault.message : QueryFault → String
  | .missing name => "missing field `" ++ name ++ "`"
  | .duplicate name => "duplicate field `" ++ name ++ "`"
  | .integer fault => fault.message

/-- Reads the value of a parameter. -/
def Param.parse (kind : ParamKind) (value : String) : Except QueryFault Param :=
  match kind with
  | .text => .ok (.text value)
  | .signed =>
    match Text.parseSigned value.toList with
    | .ok n => .ok (.signed n)
    | .error fault => .error (.integer fault)
  | .word =>
    match Text.parseWord value.toList with
    | .ok n => .ok (.word n)
    | .error fault => .error (.integer fault)

/-- The parameters of a query string. -/
abbrev Params := List (String × Param)

/-- Takes the pairs whose names are known, in their order. -/
def collect (known : List (String × ParamKind)) :
    List (String × String) → Params → Except QueryFault Params
  | [], found => .ok found
  | (name, value) :: rest, found =>
    match known.lookup name with
    | none => collect known rest found
    | some kind =>
      if (found.lookup name).isSome then .error (.duplicate name)
      else
        match Param.parse kind value with
        | .error fault => .error fault
        | .ok param => collect known rest ((name, param) :: found)

/-- The known parameters of a query string. -/
def params (known : List (String × ParamKind)) (query : List Char) : Except QueryFault Params :=
  collect known (queryPairs query) []

namespace Params

/-- A signed parameter, if it is given. -/
def signed? (ps : Params) (name : String) : Option Int :=
  match ps.lookup name with
  | some (.signed n) => some n
  | _ => none

/-- A signed parameter that has to be given. -/
def signed (ps : Params) (name : String) : Except QueryFault Int :=
  match ps.signed? name with
  | some n => .ok n
  | none => .error (.missing name)

/-- An unsigned parameter, if it is given. -/
def word? (ps : Params) (name : String) : Option UInt64 :=
  match ps.lookup name with
  | some (.word n) => some n
  | _ => none

/-- A text parameter, if it is given. -/
def text? (ps : Params) (name : String) : Option String :=
  match ps.lookup name with
  | some (.text s) => some s
  | _ => none

end Params
end ChangeLog.Http
