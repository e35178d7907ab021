/-
  Identifiers of cursors: 128 bits, shown as 32 hexadecimal digits in groups of 8, 4, 4, 4 and 12.
  They are read with or without the hyphens, in braces, or after the words urn:uuid: in any case;
  a text that is none of these is refused with the first fault that can be named.
-/
import ChangeLog.Bytes.Hex

namespace ChangeLog

/-- An identifier of a cursor. -/
structure CursorId where
  value : BitVec 128
deriving DecidableEq, Repr

namespace CursorId

/-! ## Writing -/

/-- The 32 digits, highest first. -/
def digits (id : CursorId) : List Char :=
  (List.range 32).map fun i => Hex.digit ((id.value.toNat >>> (4 * (31 - i))) % 16)

/-- The digits in five groups. -/
def text (id : CursorId) : String :=
  let d := id.digits
  String.ofList (d.take 8 ++ '-' :: (d.drop 8).take 4 ++ '-' :: (d.drop 12).take 4 ++
    '-' :: (d.drop 16).take 4 ++ '-' :: d.drop 20)

/-- The first group. -/
def short (id : CursorId) : String := String.ofList (id.digits.take 8)

/-- The form for diagnostics. -/
def debug (id : CursorId) : String := "CursorId(" ++ id.short ++ ")"

/-! ## Reading -/

/-- The number that a character stands for as a hexadecimal digit. -/
def nibble? (c : Char) : Option Nat :=
  if c.toNat < 128 then Hex.value? (UInt8.ofNat c.toNat) else none

/-- The number that a row of digits stands for, added to `n` read so far. -/
def number? (n : Nat) : List Char → Option Nat
  | [] => some n
  | c :: rest => (nibble? c).bind fun d => number? (16 * n + d) rest

/-- Reads 32 digits without hyphens. -/
def ofSimple? (cs : List Char) : Option CursorId :=
  if cs.length = 32 then (number? 0 cs).map fun n => ⟨BitVec.ofNat 128 n⟩ else none

/-- Where the hyphens stand. -/
def hyphenPlaces : List Nat := [8, 13, 18, 23]

/-- The places of the hyphens in a text. -/
def hyphens (cs : List Char) : List Nat := (cs.zipIdx.filter fun (c, _) => c = '-').map Prod.snd

/-- Reads 32 digits in groups. -/
def ofHyphenated? (cs : List Char) : Option CursorId :=
  if cs.length = 36 ∧ hyphens cs = hyphenPlaces then ofSimple? (cs.filter (· ≠ '-')) else none

/-- Why a text is no identifier. Positions and lengths count bytes. -/
inductive Fault where
  | length (found : Nat)
  | character (found : Char) (position : Nat)
  | groupCount (found : Nat)
  | groupLength (group expected found : Nat)
deriving DecidableEq, Repr

/-- The words for a fault. -/
def Fault.text : Fault → String
  | .length found => "invalid length: found " ++ toString found
  | .character found position =>
    "invalid character: found `" ++ String.ofList [found] ++ "` at " ++ toString position
  | .groupCount found => "invalid group count: expected 5, found " ++ toString found
  | .groupLength group expected found =>
    "invalid group length in group " ++ toString group ++ ": expected " ++ toString expected ++
      ", found " ++ toString found

/-- The number of bytes of a text. -/
def byteSize (cs : List Char) : Nat := cs.foldl (fun size c => size + c.utf8Size) 0

/-- The first character that is neither a digit nor a hyphen, and its position after `skipped`
bytes. -/
def foreign? (skipped : Nat) : List Char → Option (Char × Nat)
  | [] => none
  | c :: rest =>
    if (nibble? c).isSome ∨ c = '-' then foreign? (skipped + c.utf8Size) rest
    else some (c, skipped)

/-- Whether the text starts with the words urn:uuid: in any case. -/
def isUrn (cs : List Char) : Bool := (cs.take 9).map Char.toLower = "urn:uuid:".toList

/-- How many bytes stand in front of the part that should hold the groups, that part, and whether
the text was enclosed at all. -/
def inside (cs : List Char) : Nat × List Char × Bool :=
  if 2 ≤ cs.length ∧ cs.head? = some '\x7b' ∧ cs.getLast? = some '\x7d' then
    (1, (cs.drop 1).dropLast, true)
  else if isUrn cs then (9, cs.drop 9, true)
  else (0, cs, false)

/-- The first group that has not its length, in a part whose hyphens stand at `places`. -/
def groupFault (size : Nat) (places : List Nat) : Fault :=
  let rows := [(0, 8, 0), (1, 4, 9), (2, 4, 14), (3, 4, 19)]
  match (rows.zip (places.zip hyphenPlaces)).find? fun (_, place, expected) => place ≠ expected with
  | some ((group, expected, start), place, _) => .groupLength group expected (place - start)
  | none => .groupLength 4 12 (size - 24)

/-- The fault of a text that is no identifier; `grouped` says that hyphens are called for. -/
def faultOf (cs : List Char) (grouped : Bool) : Fault :=
  let size := byteSize cs
  if size = 0 ∨ 45 < size then .length size
  else
    let (skipped, part, enclosed) := if grouped then (0, cs, true) else inside cs
    match foreign? skipped part with
    | some (c, position) => .character c position
    | none =>
      let places := hyphens part
      if places.isEmpty ∧ ¬ enclosed then .length size
      else if places.length ≠ 4 then .groupCount (places.length + 1)
      else groupFault size places

/-- The identifier that a text names. -/
def ofChars (cs : List Char) : Except Fault CursorId :=
  let grouped (part : List Char) : Except Fault CursorId :=
    match ofHyphenated? part with
    | some id => .ok id
    | none => .error (faultOf part true)
  let size := byteSize cs
  let (_, part, enclosed) := inside cs
  if size = 36 then grouped cs
  else if enclosed ∧ byteSize part = 36 then grouped part
  else match ofSimple? cs with
    | some id => .ok id
    | none => .error (faultOf cs false)

/-- The identifier that a text names, or the message that refuses it. -/
def ofText (text : String) : Except String CursorId :=
  match ofChars text.toList with
  | .ok id => .ok id
  | .error fault => .error ("invalid cursor id: " ++ text ++ ": " ++ fault.text)

end CursorId
end ChangeLog
