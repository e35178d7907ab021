/-
  The binary form of values: words of fixed width with the lowest byte first, texts and byte
  strings after their length, an optional value after a byte 0 or 1. A reader takes its value from
  the front of a byte string and hands on the rest, so bytes after a value never matter. Every
  instance here reads back what it wrote, as long as lengths fit in 64 bits.
-/
import ChangeLog.Text.Utf8

namespace ChangeLog

/-- Values with a binary form. -/
class Wire (α : Type) where
  /-- The bytes of a value. -/
  write : α → Bytes
  /-- The value at the front of a byte string, and what follows it. -/
  read : Bytes → Option (α × Bytes)

namespace Wire

/-- The value that a whole payload holds; what follows the value is ignored. -/
def ofPayload {α : Type} [Wire α] (payload : Bytes) : Option α := (read payload).map Prod.fst

/-! ## Words -/

/-- A word of `count` bytes at the front. -/
def readWord (count : Nat) (bytes : Bytes) : Option (Nat × Bytes) :=
  (Bytes.splitExact count bytes).map fun (front, rest) => (Bytes.fromLittleEndian front, rest)

instance : Wire UInt32 where
  write n := Bytes.littleEndian 4 n.toNat
  read bytes := (readWord 4 bytes).map fun (n, rest) => (UInt32.ofNat n, rest)

instance : Wire UInt64 where
  write n := Bytes.littleEndian 8 n.toNat
  read bytes := (readWord 8 bytes).map fun (n, rest) => (UInt64.ofNat n, rest)

/-! ## Strings -/

/-- A byte string after its length. -/
def writeBlob (bytes : Bytes) : Bytes := Bytes.littleEndian 8 bytes.length ++ bytes

/-- Takes a byte string of the length in front of it. -/
def readBlob (bytes : Bytes) : Option (Bytes × Bytes) := do
  let (size, rest) ← readWord 8 bytes
  Bytes.splitExact size rest

instance : Wire Bytes where
  write := writeBlob
  read := readBlob

instance : Wire String where
  write s := writeBlob (Text.encode s)
  read bytes := do
    let (front, rest) ← readBlob bytes
    let text ← Text.decode front
    return (text, rest)

/-! ## Optional values -/

instance {α : Type} [Wire α] : Wire (Option α) where
  write
    | none => [0]
    | some a => 1 :: write a
  read
    | 0 :: rest => some (none, rest)
    | 1 :: rest => (read rest).map fun (a, rest) => (some a, rest)
    | _ => none

/-! ## Laws -/

theorem readWord_append {count : Nat} {front : Bytes} (h : front.length = count) (rest : Bytes) :
    readWord count (front ++ rest) = some (Bytes.fromLittleEndian front, rest) := by
  subst h
  simp [readWord, Bytes.splitExact_append]

theorem append_of_readWord {count n : Nat} {bytes rest : Bytes}
    (h : readWord count bytes = some (n, rest)) :
    n < Bytes.capacity count ∧ bytes = Bytes.littleEndian count n ++ rest := by
  obtain ⟨⟨front, back⟩, split, e⟩ := Option.map_eq_some_iff.mp h
  obtain ⟨rfl, rfl⟩ := Prod.mk.inj e
  obtain ⟨rfl, rfl⟩ := Bytes.append_of_splitExact split
  exact ⟨Bytes.fromLittleEndian_lt front, by rw [Bytes.littleEndian_fromLittleEndian]⟩

@[simp] theorem read_write_word32 (n : UInt32) (rest : Bytes) :
    read (write n ++ rest) = some (n, rest) := by
  have h := n.toNat_lt
  simp only [read, write]
  rw [readWord_append (Bytes.length_littleEndian 4 n.toNat), Bytes.fromLittleEndian_littleEndian,
    Bytes.capacity_four, Nat.mod_eq_of_lt (by omega)]
  simp

@[simp] theorem read_write_word64 (n : UInt64) (rest : Bytes) :
    read (write n ++ rest) = some (n, rest) := by
  have h := n.toNat_lt
  simp only [read, write]
  rw [readWord_append (Bytes.length_littleEndian 8 n.toNat), Bytes.fromLittleEndian_littleEndian,
    Bytes.capacity_eight, Nat.mod_eq_of_lt (by omega)]
  simp

theorem readBlob_writeBlob {bytes : Bytes} (h : bytes.length < UInt64.size) (rest : Bytes) :
    readBlob (writeBlob bytes ++ rest) = some (bytes, rest) := by
  unfold readBlob writeBlob
  rw [List.append_assoc, readWord_append (Bytes.length_littleEndian 8 bytes.length),
    Bytes.fromLittleEndian_littleEndian, Nat.mod_eq_of_lt (by rw [Bytes.capacity_eight]; exact h)]
  exact Bytes.splitExact_append bytes rest

/-- What was read as a byte string has a length of 64 bits. -/
theorem length_of_readBlob {bytes front rest : Bytes} (h : readBlob bytes = some (front, rest)) :
    front.length < UInt64.size := by
  unfold readBlob at h
  simp only [Option.bind_eq_bind, Option.bind_eq_some_iff, Prod.exists] at h
  obtain ⟨size, more, word, split⟩ := h
  have below := (append_of_readWord word).1
  rw [(Bytes.append_of_splitExact split).1]
  exact below

/-- What was read as a text has a length of 64 bits. -/
theorem length_of_read_text {bytes rest : Bytes} {s : String} (h : read bytes = some (s, rest)) :
    (Text.encode s).length < UInt64.size := by
  simp only [read, Option.bind_eq_bind, Option.bind_eq_some_iff, Prod.exists] at h
  obtain ⟨front, more, blob, text, decoded, same⟩ := h
  cases same
  rw [Text.encode_of_decode decoded]
  exact length_of_readBlob blob

theorem read_write_bytes {bytes : Bytes} (h : bytes.length < UInt64.size) (rest : Bytes) :
    read (write bytes ++ rest) = some (bytes, rest) := readBlob_writeBlob h rest

theorem read_write_text {s : String} (h : (Text.encode s).length < UInt64.size) (rest : Bytes) :
    read (write s ++ rest) = some (s, rest) := by
  simp only [read, write]
  rw [readBlob_writeBlob h]
  simp [Text.decode_encode]

end Wire
end ChangeLog
