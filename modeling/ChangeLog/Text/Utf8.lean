/-
  Text and its UTF-8 bytes. Strict reading refuses ill-formed bytes; lenient reading puts U+FFFD
  in the place of each maximal ill-formed part.
-/
import ChangeLog.Bytes

namespace ChangeLog.Text

/-- The UTF-8 bytes of a text. -/
def encode (s : String) : Bytes := s.toUTF8.data.toList

/-- The text whose UTF-8 bytes are given, if they are well formed. -/
def decode (bytes : Bytes) : Option String := String.fromUTF8? ⟨bytes.toArray⟩

theorem decode_encode (s : String) : decode (encode s) = some s := by
  have h : (⟨s.toUTF8.data.toList.toArray⟩ : ByteArray) = s.toByteArray := rfl
  unfold decode encode String.fromUTF8?
  rw [h]
  simp [s.isValidUTF8]
  rfl

theorem encode_of_decode {bytes : Bytes} {s : String} (h : decode bytes = some s) :
    encode s = bytes := by
  unfold decode String.fromUTF8? at h
  split at h
  · cases h; rfl
  · cases h

theorem encode_ofList (cs : List Char) :
    encode (String.ofList cs) = cs.flatMap String.utf8EncodeChar := by
  unfold encode
  rw [String.toUTF8, String.toByteArray_ofList, List.utf8Encode, List.data_toByteArray]

/-- A character takes at most four bytes. -/
theorem length_encode_ofList_le (cs : List Char) :
    (encode (String.ofList cs)).length ≤ 4 * cs.length := by
  rw [encode_ofList]
  induction cs with
  | nil => exact Nat.le_refl 0
  | cons c cs ih =>
    have first : (String.utf8EncodeChar c).length ≤ 4 := by
      rw [String.length_utf8EncodeChar]
      exact c.utf8Size_le_four
    rw [List.flatMap_cons, List.length_append, List.length_cons]
    omega

/-! ## Lenient reading -/

/-- How many bytes follow a first byte, and the range in which the second has to lie. -/
def leadShape (b : UInt8) : Option (Nat × Nat × Nat) :=
  let n := b.toNat
  if 0xc2 ≤ n ∧ n ≤ 0xdf then some (1, 0x80, 0xbf)
  else if n = 0xe0 then some (2, 0xa0, 0xbf)
  else if n = 0xed then some (2, 0x80, 0x9f)
  else if 0xe1 ≤ n ∧ n ≤ 0xef then some (2, 0x80, 0xbf)
  else if n = 0xf0 then some (3, 0x90, 0xbf)
  else if n = 0xf4 then some (3, 0x80, 0x8f)
  else if 0xf1 ≤ n ∧ n ≤ 0xf3 then some (3, 0x80, 0xbf)
  else none

/-- How many of the next `count` bytes continue a character, the first of them in `low..high`. -/
def continued (count low high : Nat) : Bytes → Nat
  | [] => 0
  | b :: rest =>
    match count with
    | 0 => 0
    | count + 1 => if low ≤ b.toNat ∧ b.toNat ≤ high then 1 + continued count 0x80 0xbf rest else 0

/-- The code point that a first byte and the bytes after it stand for. -/
def codePoint (lead : UInt8) (more : Bytes) : Nat :=
  let payload := match more.length with
    | 0 => lead.toNat
    | 1 => lead.toNat % 0x20
    | 2 => lead.toNat % 0x10
    | _ => lead.toNat % 0x08
  more.foldl (fun n b => n * 64 + b.toNat % 64) payload

/-- Text of possibly ill-formed bytes, with U+FFFD for each maximal ill-formed part. -/
def decodeLenient : Bytes → List Char
  | [] => []
  | b :: rest =>
    if b.toNat < 0x80 then Char.ofNat b.toNat :: decodeLenient rest
    else match leadShape b with
      | none => '\ufffd' :: decodeLenient rest
      | some (count, low, high) =>
        let found := continued count low high rest
        let c := if found = count then Char.ofNat (codePoint b (rest.take count)) else '\ufffd'
        c :: decodeLenient (rest.drop found)
termination_by bytes => bytes.length
decreasing_by all_goals simp; try omega

end ChangeLog.Text
