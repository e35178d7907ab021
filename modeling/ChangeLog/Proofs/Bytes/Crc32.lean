/-
  What the checksum cannot miss. A shift drops one bit, but that bit shows in the highest bit of the
  result, since the polynomial has its highest bit set and a plain shift leaves it clear; so a shift
  can be undone (`shift_inj`). Hence taking in a byte loses neither the remainder nor the byte, and
  two byte strings that differ in one byte have different checksums, however long they are
  (`checksum_inj_of_byte`).
-/
import ChangeLog.Bytes.Crc32

namespace ChangeLog.Crc32

variable {r r' : UInt32} {b b' : UInt8}

theorem low_bit_iff : r &&& 1 = 1 ↔ r.toNat % 2 = 1 := by
  rw [← UInt32.toNat_inj, UInt32.toNat_and, UInt32.toNat_one, Nat.and_one_is_mod]

theorem toNat_half (r : UInt32) : (r >>> 1).toNat = r.toNat / 2 := by
  rw [UInt32.toNat_shiftRight]
  exact Nat.shiftRight_eq_div_pow _ 1

/-- The highest bit of a shifted remainder is the one that was dropped. -/
theorem testBit_shift (r : UInt32) : (shift r).toNat.testBit 31 = decide (r &&& 1 = 1) := by
  have clear : (r >>> 1).toNat.testBit 31 = false := by
    rw [toNat_half]
    refine Nat.testBit_lt_two_pow ?_
    have := r.toNat_lt
    omega
  have top : polynomial.toNat.testBit 31 = true := by decide
  unfold shift
  split
  · rename_i odd
    rw [UInt32.toNat_xor, Nat.testBit_xor, clear, top, decide_eq_true odd]
    rfl
  · rename_i even
    rw [clear, decide_eq_false even]

theorem shift_inj : shift r = shift r' ↔ r = r' := by
  refine ⟨fun same => ?_, congrArg shift⟩
  have dropped : r &&& 1 = 1 ↔ r' &&& 1 = 1 := by
    have bits := congrArg (·.toNat.testBit 31) same
    simp only [testBit_shift] at bits
    exact decide_eq_decide.mp bits
  have kept : r >>> 1 = r' >>> 1 := by
    unfold shift at same
    by_cases odd : r &&& 1 = 1
    · rw [if_pos odd, if_pos (dropped.mp odd)] at same
      exact (UInt32.xor_left_inj polynomial).mp same
    · rw [if_neg odd, if_neg (mt dropped.mpr odd)] at same
      exact same
  have halves := congrArg UInt32.toNat kept
  rw [toNat_half, toNat_half] at halves
  rw [low_bit_iff, low_bit_iff] at dropped
  exact UInt32.toNat_inj.mp (by omega)

theorem shifts_inj (count : Nat) : shifts count r = shifts count r' ↔ r = r' := by
  induction count generalizing r r' with
  | zero => exact Iff.rfl
  | succ count ih => rw [shifts, shifts, ih, shift_inj]

/-- A remainder that took in a byte still tells what it was before. -/
theorem feed_inj_left : feed r b = feed r' b ↔ r = r' := by
  rw [feed, feed, shifts_inj, UInt32.xor_left_inj]

/-- It also tells which byte it took in. -/
theorem feed_inj_right : feed r b = feed r b' ↔ b = b' := by
  rw [feed, feed, shifts_inj, UInt32.xor_right_inj]
  constructor
  · intro same
    have words := congrArg UInt32.toNat same
    rw [UInt8.toNat_toUInt32, UInt8.toNat_toUInt32] at words
    exact UInt8.toNat_inj.mp words
  · exact congrArg _

theorem foldl_feed_inj (bytes : Bytes) : bytes.foldl feed r = bytes.foldl feed r' ↔ r = r' := by
  induction bytes generalizing r r' with
  | nil => exact Iff.rfl
  | cons b rest ih => rw [List.foldl_cons, List.foldl_cons, ih, feed_inj_left]

/-- The checksum of a byte string tells each of its bytes from the others. -/
theorem checksum_inj_of_byte (front rest : Bytes) :
    checksum (front ++ b :: rest) = checksum (front ++ b' :: rest) ↔ b = b' := by
  rw [checksum, checksum, UInt32.not_inj, List.foldl_append, List.foldl_append, List.foldl_cons,
    List.foldl_cons, foldl_feed_inj, feed_inj_right]

end ChangeLog.Crc32
