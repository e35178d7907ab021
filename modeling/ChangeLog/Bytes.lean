/-
  Byte strings and little-endian words: a word of `count` bytes is its base-256 digits, lowest
  first. Reading back what was written gives the word modulo the capacity of `count` bytes; writing
  back what was read gives the same bytes.
-/

namespace ChangeLog

/-- A byte string, as files, payloads and digests hold it. -/
abbrev Bytes := List UInt8

namespace Bytes

/-- The `count` lowest base-256 digits of `n`, lowest first. -/
def littleEndian : Nat → Nat → Bytes
  | 0, _ => []
  | count + 1, n => UInt8.ofNat n :: littleEndian count (n / 256)

/-- The number whose base-256 digits are `bytes`, lowest first. -/
def fromLittleEndian : Bytes → Nat
  | [] => 0
  | b :: rest => b.toNat + 256 * fromLittleEndian rest

/-- How many numbers there is room for in `count` bytes. -/
def capacity : Nat → Nat
  | 0 => 1
  | count + 1 => 256 * capacity count

/-- Whether there are at least `count` bytes; looks at no more of them than that. -/
def hasAtLeast (count : Nat) (bytes : Bytes) : Bool :=
  count = 0 || !(bytes.drop (count - 1)).isEmpty

/-- The first `count` bytes and the rest; nothing when there are fewer than `count`. -/
def splitExact (count : Nat) (bytes : Bytes) : Option (Bytes × Bytes) :=
  if hasAtLeast count bytes then some (bytes.take count, bytes.drop count) else none

/-! ## Laws -/

@[simp] theorem length_littleEndian (count n : Nat) : (littleEndian count n).length = count := by
  induction count generalizing n with
  | zero => rfl
  | succ count ih => simp [littleEndian, ih]

@[simp] theorem capacity_four : capacity 4 = 4294967296 := rfl

@[simp] theorem capacity_eight : capacity 8 = 18446744073709551616 := rfl

theorem fromLittleEndian_lt (bytes : Bytes) : fromLittleEndian bytes < capacity bytes.length := by
  induction bytes with
  | nil => simp [fromLittleEndian, capacity]
  | cons b rest ih =>
    have hb := b.toNat_lt
    simp only [fromLittleEndian, List.length_cons, capacity]
    omega

theorem fromLittleEndian_littleEndian (count n : Nat) :
    fromLittleEndian (littleEndian count n) = n % capacity count := by
  induction count generalizing n with
  | zero => simp [littleEndian, fromLittleEndian, capacity, Nat.mod_one]
  | succ count ih =>
    rw [littleEndian, fromLittleEndian, ih, UInt8.toNat_ofNat', capacity, Nat.mod_mul]

theorem littleEndian_fromLittleEndian (bytes : Bytes) :
    littleEndian bytes.length (fromLittleEndian bytes) = bytes := by
  induction bytes with
  | nil => rfl
  | cons b rest ih =>
    have hb := b.toNat_lt
    have low : UInt8.ofNat (b.toNat + 256 * fromLittleEndian rest) = b := by
      apply UInt8.toNat_inj.mp
      rw [UInt8.toNat_ofNat']
      omega
    have high : (b.toNat + 256 * fromLittleEndian rest) / 256 = fromLittleEndian rest := by omega
    simp only [List.length_cons, littleEndian, fromLittleEndian, low, high, ih]

theorem hasAtLeast_iff {count : Nat} {bytes : Bytes} :
    hasAtLeast count bytes = true ↔ count ≤ bytes.length := by
  cases count with
  | zero => simp [hasAtLeast]
  | succ count =>
    have empty : (bytes.drop count).isEmpty = true ↔ bytes.length ≤ count := by
      rw [List.isEmpty_iff, List.drop_eq_nil_iff]
    have positive : decide (count + 1 = 0) = false := rfl
    rw [hasAtLeast, positive, Bool.false_or, Nat.add_sub_cancel, Bool.not_eq_true',
      ← Bool.not_eq_true, empty]
    omega

theorem splitExact_append (front rest : Bytes) :
    splitExact front.length (front ++ rest) = some (front, rest) := by
  have enough : hasAtLeast front.length (front ++ rest) = true := by simp [hasAtLeast_iff]
  simp [splitExact, enough]

theorem append_of_splitExact {count : Nat} {bytes front rest : Bytes}
    (h : splitExact count bytes = some (front, rest)) :
    front.length = count ∧ bytes = front ++ rest := by
  unfold splitExact at h
  split at h
  · rename_i enough
    rw [hasAtLeast_iff] at enough
    simp only [Option.some.injEq, Prod.mk.injEq] at h
    obtain ⟨rfl, rfl⟩ := h
    exact ⟨by simp; omega, by simp⟩
  · cases h

end Bytes
end ChangeLog
