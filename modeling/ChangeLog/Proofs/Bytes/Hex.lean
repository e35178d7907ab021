/-
  Hexadecimal text there and back. What is read is looked at as bytes, and a byte that is a digit is
  a character of its own; so a text that was read is written again as it was, but for capital
  letters (`encode_of_decode`).
-/
import ChangeLog.Bytes.Hex

namespace ChangeLog

/-- The text in lower-case letters. -/
def Text.lowered (text : String) : String := String.ofList (text.toList.map Char.toLower)

/-- A character that starts with a byte below 128 is that byte. -/
theorem Text.utf8EncodeChar_ascii {c : Char}
    (ascii : ∀ b ∈ String.utf8EncodeChar c, b.toNat < 128) :
    String.utf8EncodeChar c = [UInt8.ofNat c.toNat] ∧ c.toNat < 128 := by
  have byte : ∀ {n : Nat}, n < 256 → (UInt8.ofNat n).toNat = n := fun small =>
    UInt8.toNat_ofNat_of_lt' small
  unfold String.utf8EncodeChar at ascii ⊢
  dsimp only at ascii ⊢
  by_cases small : c.val.toNat ≤ 127
  · rw [if_pos small]
    exact ⟨rfl, Nat.lt_succ_of_le small⟩
  · -- The first of several bytes is 192 at least.
    exfalso
    rw [if_neg small] at ascii
    split at ascii
    · have first := ascii _ List.mem_cons_self
      rw [byte (by omega)] at first
      omega
    · split at ascii
      · have first := ascii _ List.mem_cons_self
        rw [byte (by omega)] at first
        omega
      · have first := ascii _ List.mem_cons_self
        rw [byte (by omega)] at first
        omega

/-- A text all of whose bytes are below 128 has a byte for each character. -/
theorem Text.flatMap_utf8EncodeChar_ascii {cs : List Char}
    (ascii : ∀ b ∈ cs.flatMap String.utf8EncodeChar, b.toNat < 128) :
    cs = (cs.flatMap String.utf8EncodeChar).map fun b => Char.ofNat b.toNat := by
  induction cs with
  | nil => rfl
  | cons c cs ih =>
      rw [List.flatMap_cons] at ascii ⊢
      obtain ⟨one, small⟩ := Text.utf8EncodeChar_ascii fun b mem =>
        ascii b (List.mem_append_left _ mem)
      have others := ih fun b mem => ascii b (List.mem_append_right _ mem)
      have same : (UInt8.ofNat c.toNat).toNat = c.toNat :=
        UInt8.toNat_ofNat_of_lt' (Nat.lt_trans small (by decide))
      rw [one, List.singleton_append, List.map_cons, same, Char.ofNat_toNat, ← others]

namespace Hex

/-- A digit stands for a number below sixteen, whose digit it is, in lower case. -/
theorem digit_of_value {b : UInt8} {v : Nat} (stands : value? b = some v) :
    b.toNat < 128 ∧ v < 16 ∧ digit v = (Char.ofNat b.toNat).toLower := by
  have all : ∀ n : Fin 256, ∀ v ∈ value? (UInt8.ofNat n.val),
      n.val < 128 ∧ v < 16 ∧ digit v = (Char.ofNat n.val).toLower := by decide +kernel
  have found := all ⟨b.toNat, b.toNat_lt⟩ v
  rw [UInt8.ofNat_toNat] at found
  exact found stands

/-- Pairs of digits that were read are written again in lower case. -/
theorem digits_of_decodePairs {position : Nat} {text bytes : Bytes}
    (read : decodePairs position text = .ok bytes) :
    (∀ b ∈ text, b.toNat < 128) ∧
      digits bytes = text.map fun b => (Char.ofNat b.toNat).toLower := by
  fun_induction decodePairs position text generalizing bytes with
  | case1 position =>
      cases read
      exact ⟨nofun, rfl⟩
  | case5 position high low rest h l second first tail decoded ih =>
      cases read
      obtain ⟨ascii, others⟩ := ih decoded
      obtain ⟨high_ascii, h_lt, high_digit⟩ := digit_of_value first
      obtain ⟨low_ascii, l_lt, low_digit⟩ := digit_of_value second
      have byte : (UInt8.ofNat (16 * h + l)).toNat = 16 * h + l :=
        UInt8.toNat_ofNat_of_lt' (by change _ < 256; omega)
      have upper : (16 * h + l) / 16 = h := by omega
      have lower : (16 * h + l) % 16 = l := by omega
      constructor
      · intro b mem
        rcases List.mem_cons.mp mem with rfl | mem
        · exact high_ascii
        · rcases List.mem_cons.mp mem with rfl | mem
          · exact low_ascii
          · exact ascii b mem
      · rw [digits, List.flatMap_cons, byte, upper, lower, high_digit, low_digit, List.map_cons,
          List.map_cons, ← others]
        rfl
  | _ => cases read

/-- A text that was read is written again as it was, in lower-case letters. -/
theorem encode_of_decode {text : String} {bytes : Bytes} (read : decode text = .ok bytes) :
    encode bytes = Text.lowered text := by
  unfold decode at read
  dsimp only at read
  split at read
  · cases read
  · obtain ⟨ascii, written⟩ := digits_of_decodePairs read
    have chars : Text.encode text = text.toList.flatMap String.utf8EncodeChar := by
      rw [← Text.encode_ofList, String.ofList_toList]
    rw [chars] at ascii written
    have each := congrArg (List.map Char.toLower) (Text.flatMap_utf8EncodeChar_ascii ascii)
    rw [List.map_map] at each
    rw [encode, written, Text.lowered, each]
    rfl

end Hex
end ChangeLog
