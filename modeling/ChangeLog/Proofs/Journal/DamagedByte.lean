/-
  Journals in which one byte of a record is wrong, in its checksum or in its payload. The frame
  keeps its length, so that all frames behind it are found where they were; and it is not intact any
  more, whatever the byte and however long the payload (`Frame.exists_write_eq_set`). Recovery
  passes over this one record, gives all others in their order, and changes nothing
  (`holds_eraseIdx`).
-/
import ChangeLog.Proofs.Bytes.Crc32
import ChangeLog.Proofs.Journal.Holds

namespace ChangeLog

/-! ## Frames -/

namespace Frame

variable {f : Frame} {b : UInt8}

/-- Any four bytes are a word. -/
theorem exists_write_word32 {bytes : Bytes} (four : bytes.length = 4) :
    ∃ word : UInt32, Wire.write word = bytes := by
  have below := Bytes.fromLittleEndian_lt bytes
  rw [four] at below
  refine ⟨UInt32.ofNat (Bytes.fromLittleEndian bytes), ?_⟩
  have same := Bytes.littleEndian_fromLittleEndian bytes
  rw [four] at same
  change Bytes.littleEndian 4 (UInt32.ofNat _).toNat = bytes
  rw [UInt32.toNat_ofNat_of_lt' below, same]

/-- A payload in which one byte was changed has another checksum. -/
theorem checksum_set_ne {payload : Bytes} {i : Nat} (inside : i < payload.length)
    (changes : payload[i]? ≠ some b) :
    Crc32.checksum (payload.set i b) ≠ Crc32.checksum payload := by
  intro same
  have as_was : payload.set i payload[i] = payload := List.set_getElem_self inside
  rw [← as_was, List.set_set, List.set_eq_take_append_cons_drop, if_pos inside,
    List.set_eq_take_append_cons_drop, if_pos inside, Crc32.checksum_inj_of_byte] at same
  rw [List.getElem?_eq_getElem inside, same] at changes
  exact changes rfl

/-- One byte behind the length of an intact frame is changed: a frame of the same length that is not
intact. -/
theorem exists_write_eq_set (intact : f.isIntact = true) {k : Nat} (behind : 4 ≤ k)
    (inside : k < f.size) (changes : f.write[k]? ≠ some b) :
    ∃ g : Frame, g.write = f.write.set k b ∧ g.payload.length = f.payload.length ∧
      g.isIntact = false := by
  have header : (Bytes.littleEndian 4 f.payload.length).length = 4 :=
    Bytes.length_littleEndian 4 _
  have word := Wire.length_write_word32 f.checksum
  have agrees : Crc32.checksum f.payload = f.checksum := of_decide_eq_true intact
  rw [size, headerSize] at inside
  rw [write, List.getElem?_append_right (by omega), header] at changes
  by_cases early : k < 8
  · -- The byte is one of the checksum's.
    rw [List.getElem?_append_left (by omega)] at changes
    have four : ((Wire.write f.checksum).set (k - 4) b).length = 4 := by
      rw [List.length_set, word]
    obtain ⟨other, other_eq⟩ := exists_write_word32 four
    refine ⟨⟨other, f.payload⟩, ?_, rfl, decide_eq_false ?_⟩
    · rw [write, write, List.set_append_right _ _ (by omega), header,
        List.set_append_left _ _ (by omega), other_eq]
    · intro same
      have unchanged : (Wire.write f.checksum).set (k - 4) b = Wire.write f.checksum := by
        rw [← other_eq, ← agrees, same]
      rw [← unchanged, List.getElem?_set_self (by omega)] at changes
      exact changes rfl
  · -- The byte is one of the payload's.
    rw [List.getElem?_append_right (by omega), word] at changes
    refine ⟨⟨f.checksum, f.payload.set (k - 4 - 4) b⟩, ?_, List.length_set, decide_eq_false ?_⟩
    · rw [write, write, List.set_append_right _ _ (by omega), header,
        List.set_append_right _ _ (by omega), word, List.length_set]
    · rw [← agrees]
      exact checksum_set_ne (by omega) changes

end Frame

/-! ## Journals -/

namespace Journal

variable {α : Type} [Wire α] {journal : Journal α} {disk : Disk} {records : List α}
  {i position : Nat} {b : UInt8}

/-- A byte of the file of these records is to be changed that belongs to the checksum or to the
payload of the record at `i`: it lies behind the four bytes of the length, and in front of the next
record. -/
structure Damages (records : List α) (i position : Nat) (b : UInt8) : Prop where
  behind_length : (bytesOf (records.take i)).length + 4 ≤ position
  inside : position < (bytesOf (records.take (i + 1))).length
  changes : (bytesOf records)[position]? ≠ some b

theorem Damages.lt (h : Damages records i position b) : i < records.length := by
  refine Nat.not_le.mp fun beyond => ?_
  have first := h.behind_length
  have last := h.inside
  rw [List.take_of_length_le beyond] at first
  rw [List.take_of_length_le (by omega)] at last
  omega

/-- Every record has a byte that can be damaged: the first one of its checksum. -/
theorem exists_damages (lt : i < records.length) :
    ∃ b, Damages records i ((bytesOf (records.take i)).length + 4) b := by
  have inside : (bytesOf (records.take i)).length + 4 <
      (bytesOf (records.take (i + 1))).length := by
    rw [List.take_succ_eq_append_getElem lt, bytesOf_append, bytesOf_singleton, List.length_append,
      Frame.length_write, Frame.size, Frame.headerSize]
    omega
  have all : (bytesOf (records.take (i + 1))).length ≤ (bytesOf records).length := by
    have parts := bytesOf_append (records.take (i + 1)) (records.drop (i + 1))
    rw [List.take_append_drop] at parts
    rw [parts, List.length_append]
    omega
  refine ⟨(bytesOf records)[(bytesOf (records.take i)).length + 4] + 1, Nat.le_refl _, inside, ?_⟩
  rw [List.getElem?_eq_getElem (by omega)]
  intro same
  have none := UInt8.add_eq_left.mp (Option.some.inj same).symm
  cases none

/-- The damaged bytes are those of the records, but with another frame for one of them. -/
theorem Damages.exists_frame [Wire.Lawful α] (h : Damages records i position b)
    (fits : ∀ a ∈ records, Fits a) :
    ∃ front a rest, ∃ g : Frame, records = front ++ a :: rest ∧ front.length = i ∧
      (bytesOf records).set position b = bytesOf front ++ (g.write ++ bytesOf rest) ∧
      g.Proper ∧ g.isIntact = false := by
  have lt := h.lt
  obtain ⟨first, last, changes⟩ := h
  have parts : records = records.take i ++ records[i] :: records.drop (i + 1) := by
    rw [← List.drop_eq_getElem_cons lt, List.take_append_drop]
  have front_length : (records.take i).length = i := by
    rw [List.length_take]
    omega
  have proper := Frame.proper_ofRecord (fits records[i] (List.getElem_mem lt))
  have bytes : bytesOf records = bytesOf (records.take i) ++
      ((Frame.ofRecord records[i]).write ++ bytesOf (records.drop (i + 1))) := by
    rw [← bytesOf_cons, ← bytesOf_append, ← parts]
  rw [List.take_succ_eq_append_getElem lt, bytesOf_append, bytesOf_singleton, List.length_append,
    Frame.length_write] at last
  have size := Frame.length_write (Frame.ofRecord records[i])
  have inside :
      position - (bytesOf (records.take i)).length < (Frame.ofRecord records[i]).size := by omega
  rw [bytes, List.getElem?_append_right (by omega), List.getElem?_append_left (by omega)] at changes
  obtain ⟨g, write_eq, length_eq, broken⟩ := Frame.exists_write_eq_set
    (Frame.isIntact_ofPayload _) (by omega) inside changes
  refine ⟨records.take i, records[i], records.drop (i + 1), g, parts, front_length, ?_, ?_, broken⟩
  · rw [bytes, List.set_append_right _ _ (by omega), List.set_append_left _ _ (by omega), write_eq]
    rfl
  · refine ⟨fun empty => proper.1 ?_, length_eq ▸ proper.2⟩
    have none := congrArg List.length empty
    rw [length_eq] at none
    exact List.eq_nil_of_length_eq_zero none

/-- A journal with the damage holds all records but the damaged one. -/
theorem Attached.holds_eraseIdx [Wire.Lawful α] (h : Attached journal disk)
    (damages : Damages records i position b) (fits : ∀ a ∈ records, Fits a)
    (content : disk.content journal.file = (bytesOf records).set position b) :
    Holds journal disk (records.eraseIdx i) := by
  obtain ⟨front, a, rest, g, rfl, rfl, bytes, proper, broken⟩ := damages.exists_frame fits
  have front_fits : ∀ d ∈ front, Fits d := fun d hd => fits d (List.mem_append_left _ hd)
  have rest_fits : ∀ d ∈ rest, Fits d := fun d hd => fits d (by simp [hd])
  have passed_over : g.record? (α := α) = none := by
    rw [Frame.record?, broken]
    rfl
  refine ⟨h, ?_, ?_⟩
  · rw [content, bytes, bytesOf, Frame.leftover_writeAll_append (proper_of_fits front_fits),
      Frame.leftover_write_append proper, leftover_bytesOf rest_fits]
  · rw [content, bytes, recordsIn_bytesOf_append front_fits, recordsIn_write_append proper,
      passed_over, recordsIn_bytesOf rest_fits,
      List.eraseIdx_append_of_length_le (Nat.le_refl _), Nat.sub_self, List.eraseIdx_cons_zero]
    rfl

end Journal
end ChangeLog
