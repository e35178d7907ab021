/-
  Journals in which the length in front of a record is wrong, while more records follow. Such
  damage is reported exactly when the wrong length cannot be a length at all, or when an intact
  frame starts inside the bytes that are left where the frames break off
  (`reports_wrong_length_iff`).

  NOTE: this is not every wrong length. One that ends where a later record begins makes the records
  up to there one frame, whose checksum disagrees: it is passed over without a word, and intact
  records are missing from what recovery gives (`recover_stretched`, `records_lost`).
-/
import ChangeLog.Proofs.Journal.Holds

namespace ChangeLog

/-! ## Headers -/

namespace Frame

variable {length : UInt32} {bytes : Bytes}

/-- A header in front of enough bytes starts a frame. -/
theorem read?_header (pos : length ≠ 0) (enough : length.toNat ≤ bytes.length)
    (checksum : UInt32) :
    read? (Bytes.littleEndian 4 length.toNat ++ (Wire.write checksum ++ bytes)) =
      some (⟨checksum, bytes.take length.toNat⟩, bytes.drop length.toNat) := by
  have size : (bytes.take length.toNat).length = length.toNat := by
    rw [List.length_take]
    omega
  refine read?_eq_some_iff.mpr ⟨⟨?_, ?_⟩, ?_⟩
  · intro empty
    change bytes.take length.toNat = [] at empty
    rw [empty] at size
    exact pos (UInt32.toNat_inj.mp size.symm)
  · change (bytes.take length.toNat).length < _
    rw [size]
    exact length.toNat_lt
  · rw [write]
    change _ = Bytes.littleEndian 4 (bytes.take length.toNat).length ++
      (Wire.write checksum ++ bytes.take length.toNat) ++ bytes.drop length.toNat
    rw [size, List.append_assoc, List.append_assoc, List.take_append_drop]

/-- A header that asks for nothing, or for more than there is, starts none. -/
theorem read?_header_none (wrong : length = 0 ∨ bytes.length < length.toNat) (checksum : UInt32) :
    read? (Bytes.littleEndian 4 length.toNat ++ (Wire.write checksum ++ bytes)) = none := by
  rw [Option.eq_none_iff_forall_ne_some]
  rintro ⟨f, rest⟩ found
  obtain ⟨⟨nonempty, below⟩, same⟩ := read?_eq_some_iff.mp found
  rw [write, List.append_assoc] at same
  obtain ⟨words, more⟩ := List.append_inj same (by rw [Bytes.length_littleEndian,
    Bytes.length_littleEndian])
  have lengths := congrArg Bytes.fromLittleEndian words
  rw [Bytes.fromLittleEndian_littleEndian, Bytes.fromLittleEndian_littleEndian,
    Nat.mod_eq_of_lt (by rw [Bytes.capacity_four]; exact length.toNat_lt),
    Nat.mod_eq_of_lt (by rw [Bytes.capacity_four]; exact below)] at lengths
  have sizes := congrArg List.length more
  simp only [List.length_append, Wire.length_write_word32] at sizes
  have positive := List.length_pos_iff.mpr nonempty
  rcases wrong with rfl | long
  · rw [UInt32.toNat_zero] at lengths
    omega
  · omega

end Frame

namespace Journal

variable {α : Type} [Wire α]

/-- Recovery is refused and changes nothing. -/
def Reports (journal : Journal α) (disk : Disk) : Prop :=
  ∃ position, journal.recover disk = (.error (.corrupt journal.path position), journal, disk)

/-- The bytes behind the header of a record that others follow. -/
def behind (a : α) (rest : List α) : Bytes := Wire.write a ++ bytesOf rest

/-- The bytes of records, with another length in the header of one of them. -/
def relabelled (front : List α) (a : α) (rest : List α) (length : UInt32) : Bytes :=
  bytesOf front ++ (Bytes.littleEndian 4 length.toNat ++ (bytesOf (a :: rest)).drop 4)

/-- The frame that another length makes of a record and what follows it. -/
def stretched (a : α) (rest : List α) (length : UInt32) : Frame :=
  { checksum := Crc32.checksum (Wire.write a), payload := (behind a rest).take length.toNat }

variable {disk start : Disk} {path : String} {journal : Journal α} {front rest : List α} {a : α}
  {length : UInt32}

theorem relabelled_eq (front : List α) (a : α) (rest : List α) (length : UInt32) :
    relabelled front a rest length = bytesOf front ++ (Bytes.littleEndian 4 length.toNat ++
      (Wire.write (Crc32.checksum (Wire.write a)) ++ behind a rest)) := by
  have header : (bytesOf (a :: rest)).drop 4 =
      Wire.write (Crc32.checksum (Wire.write a)) ++ behind a rest := by
    rw [bytesOf_cons, Frame.write, List.append_assoc,
      List.drop_left' (Bytes.length_littleEndian 4 _), List.append_assoc]
    rfl
  rw [relabelled, header]

/-- The stretched frame, where the length fits, and what is left behind it. -/
theorem relabelled_eq_write (front : List α) (pos : length ≠ 0)
    (enough : length.toNat ≤ (behind a rest).length) :
    (stretched a rest length).Proper ∧
      relabelled front a rest length = bytesOf front ++
        ((stretched a rest length).write ++ (behind a rest).drop length.toNat) := by
  obtain ⟨proper, same⟩ := Frame.read?_eq_some_iff.mp
    (Frame.read?_header pos enough (Crc32.checksum (Wire.write a)))
  rw [relabelled_eq, same]
  exact ⟨proper, rfl⟩

theorem reports_iff (h : Attached journal disk) :
    Reports journal disk ↔ Frame.Hides (Frame.leftover (disk.content journal.file)) := by
  constructor
  · rintro ⟨position, refused⟩
    refine Decidable.byContradiction fun plain => ?_
    obtain ⟨later, recovered, -⟩ := recover_ok h plain
    rw [recovered] at refused
    cases refused
  · intro hides
    exact ⟨_, recover_corrupt h.reaches hides⟩

variable [Wire.Lawful α]

/-- A length that cannot be one leaves the frames behind it to be found. -/
theorem hides_of_impossible (fits : ∀ b ∈ front ++ a :: rest, Fits b) (followed : rest ≠ [])
    (wrong : length = 0 ∨ (behind a rest).length < length.toNat) :
    Frame.Hides (Frame.leftover (relabelled front a rest length)) := by
  have front_fits : ∀ b ∈ front, Fits b := fun b hb => fits b (List.mem_append_left _ hb)
  rw [relabelled_eq, bytesOf, Frame.leftover_writeAll_append (proper_of_fits front_fits),
    Frame.leftover_of_read?_none (Frame.read?_header_none wrong _)]
  -- The frame of the next record stands untouched behind the header.
  obtain ⟨next, more, rfl⟩ := List.exists_cons_of_ne_nil followed
  have next_proper := Frame.proper_ofRecord (fits next (by simp))
  rw [behind, bytesOf_cons, ← List.append_assoc, ← List.append_assoc]
  refine Frame.hides_of_write next_proper (Frame.isIntact_ofPayload _) ?_ _
  simp [Bytes.littleEndian]

/-- A length that fits leaves what is behind the stretched frame to be taken. -/
theorem chain_relabelled (fits : ∀ b ∈ front, Fits b) (pos : length ≠ 0)
    (enough : length.toNat ≤ (behind a rest).length) :
    Frame.chain (relabelled front a rest length) = front.map Frame.ofRecord ++
        stretched a rest length :: Frame.chain ((behind a rest).drop length.toNat) ∧
      Frame.leftover (relabelled front a rest length) =
        Frame.leftover ((behind a rest).drop length.toNat) := by
  obtain ⟨proper, same⟩ := relabelled_eq_write front pos enough
  rw [same, bytesOf, Frame.chain_writeAll_append (proper_of_fits fits),
    Frame.leftover_writeAll_append (proper_of_fits fits), Frame.chain_write_append proper,
    Frame.leftover_write_append proper]
  exact ⟨rfl, rfl⟩

theorem recordsIn_relabelled (fits : ∀ b ∈ front, Fits b) (pos : length ≠ 0)
    (enough : length.toNat ≤ (behind a rest).length) :
    recordsIn (relabelled front a rest length) = front ++
      ((stretched a rest length).record?.toList ++
        recordsIn ((behind a rest).drop length.toNat)) := by
  obtain ⟨proper, same⟩ := relabelled_eq_write front pos enough
  rw [same, recordsIn_bytesOf_append fits, recordsIn_write_append proper]

/-- A wrong length in front of more records is reported exactly when it is no possible length, or
an intact frame starts inside the leftover behind the frame that it makes. Otherwise recovery gives
the records in front, the record of the stretched frame if its checksum agrees by chance, and what
can be taken behind it; and the file is cut where that ends. -/
theorem reports_wrong_length_iff (stored : disk.Stored)
    (opened : openAt disk path = (.ok journal, start)) (empty : start.content journal.file = [])
    (fits : ∀ b ∈ front ++ a :: rest, Fits b) (followed : rest ≠ []) :
    ∃ positions written full,
      journal.appendAll start (front ++ a :: rest) = (.ok positions, written, full) ∧
      full.content journal.file = bytesOf (front ++ a :: rest) ∧
      ∀ length : UInt32, ∃ again damaged,
        damaged = full.setContent journal.file (relabelled front a rest length) ∧
        openAt damaged path = (.ok again, damaged) ∧
        (Reports again damaged ↔
          length = 0 ∨ (behind a rest).length < length.toNat ∨
            Frame.Hides (Frame.leftover ((behind a rest).drop length.toNat))) ∧
        (¬ Reports again damaged → ∃ mended later,
          again.recover damaged =
            (.ok (front ++ ((stretched a rest length).record?.toList ++
              recordsIn ((behind a rest).drop length.toNat))), mended, later) ∧
          mended.length = (bytesOf front).length + (Frame.headerSize + length.toNat +
            chainEnd ((behind a rest).drop length.toNat)) ∧
          later.content again.file = (relabelled front a rest length).take mended.length) := by
  obtain ⟨positions, written, full, appended, content, file_lt, opens⟩ :=
    exists_appendAll stored opened empty fits
  refine ⟨positions, written, full, appended, content, ?_⟩
  intro length
  obtain ⟨again, opening, -, same_file, attached⟩ :=
    opens _ (Disk.onlyIn_setContent full journal.file (relabelled front a rest length))
  have bytes : (full.setContent journal.file (relabelled front a rest length)).content again.file =
      relabelled front a rest length := by
    rw [same_file, Disk.content_setContent file_lt]
  have front_fits : ∀ b ∈ front, Fits b := fun b hb => fits b (List.mem_append_left _ hb)
  have reported := reports_iff attached
  rw [bytes] at reported
  by_cases wrong : length = 0 ∨ (behind a rest).length < length.toNat
  · have hides := hides_of_impossible fits followed wrong
    refine ⟨again, _, rfl, opening, ?_, fun silent => absurd (reported.mpr hides) silent⟩
    rw [reported, ← or_assoc]
    exact ⟨fun _ => .inl wrong, fun _ => hides⟩
  · have pos : length ≠ 0 := fun zero => wrong (.inl zero)
    have enough : length.toNat ≤ (behind a rest).length :=
      Nat.not_lt.mp fun long => wrong (.inr long)
    obtain ⟨chain, leftover⟩ := chain_relabelled (a := a) front_fits pos enough
    refine ⟨again, _, rfl, opening, ?_, ?_⟩
    · rw [reported, leftover, ← or_assoc]
      exact ⟨.inr, fun h => h.resolve_left wrong⟩
    · intro silent
      have plain := mt reported.mpr silent
      rw [← bytes] at plain
      obtain ⟨later, recovered, -, cut, -⟩ := recover_ok attached plain
      rw [bytes] at recovered cut
      rw [recordsIn_relabelled front_fits pos enough] at recovered
      refine ⟨_, later, recovered, ?_, cut⟩
      have size : (stretched a rest length).payload.length = length.toNat := by
        change ((behind a rest).take length.toNat).length = _
        rw [List.length_take]
        omega
      change chainEnd _ = _
      rw [chainEnd, chain, Frame.writeAll_append, Frame.writeAll_cons, List.length_append,
        List.length_append, Frame.length_write, Frame.size, size, chainEnd]
      rfl

/-- A log of two records whose first length says that the first record takes the whole file. -/
theorem impossible_length_reported :
    ∃ positions written full, ∃ again : Journal UInt64,
      blank.appendAll blankDisk [(1 : UInt64), 2] = (.ok positions, written, full) ∧
      openAt (full.setContent 0 (relabelled [] (1 : UInt64) [2] 0xff000008)) "events.wal" =
        (.ok again, full.setContent 0 (relabelled [] (1 : UInt64) [2] 0xff000008)) ∧
      Reports again (full.setContent 0 (relabelled [] (1 : UInt64) [2] 0xff000008)) := by
  have fits : ∀ b ∈ [] ++ (1 : UInt64) :: [2], Fits b := fun b _ => fits_word b
  obtain ⟨positions, written, full, appended, -, lengths⟩ :=
    reports_wrong_length_iff Disk.stored_empty openAt_blank rfl fits (List.cons_ne_nil _ _)
  obtain ⟨again, damaged, rfl, opening, reports, -⟩ := lengths 0xff000008
  exact ⟨positions, written, full, again, appended, opening,
    reports.mpr (.inr (.inl (by decide)))⟩

/-! ## Records lost -/

/-- A length that ends where a later record begins: the records up to there are missing, unless
their frames agree with the checksum of the first by chance, and nothing is reported. -/
theorem recover_stretched {skipped kept : List α} (h : Attached journal disk)
    (fits : ∀ b ∈ front ++ a :: (skipped ++ kept), Fits b)
    (content : disk.content journal.file = relabelled front a (skipped ++ kept) length)
    (ends : length.toNat = (behind a skipped).length) :
    journal.recover disk =
      (.ok (front ++ ((stretched a (skipped ++ kept) length).record?.toList ++ kept)),
        journal, disk) := by
  have split : behind a (skipped ++ kept) = behind a skipped ++ bytesOf kept := by
    rw [behind, bytesOf_append, ← List.append_assoc, behind]
  have kept_left : (behind a (skipped ++ kept)).drop length.toNat = bytesOf kept := by
    rw [split, ends, List.drop_left]
  have enough : length.toNat ≤ (behind a (skipped ++ kept)).length := by
    rw [split, List.length_append, ends]
    omega
  have pos : length ≠ 0 := by
    rintro rfl
    have := List.length_pos_iff.mpr (Wire.Lawful.write_ne_nil a)
    rw [behind, List.length_append, UInt32.toNat_zero] at ends
    omega
  have front_fits : ∀ b ∈ front, Fits b := fun b hb => fits b (by simp [hb])
  have kept_fits : ∀ b ∈ kept, Fits b := fun b hb => fits b (by simp [hb])
  have whole : Frame.leftover (disk.content journal.file) = [] := by
    rw [content, (chain_relabelled front_fits pos enough).2, kept_left, leftover_bytesOf kept_fits]
  rw [recover_whole h whole, content, recordsIn_relabelled front_fits pos enough, kept_left,
    recordsIn_bytesOf kept_fits]

/-- A log of two records; the length of the first is made to end where the file ends. Both records
are lost: the journal recovers as if it were empty, and the file keeps its bytes. -/
theorem records_lost :
    ∃ positions written full, ∃ again : Journal UInt64,
      blank.appendAll blankDisk [(1 : UInt64), 2] = (.ok positions, written, full) ∧
      full.content 0 = bytesOf [(1 : UInt64), 2] ∧
      (24 : UInt32).toNat ≠ (Wire.write (1 : UInt64)).length ∧
      openAt (full.setContent 0 (relabelled [] (1 : UInt64) [2] 24)) "events.wal" =
        (.ok again, full.setContent 0 (relabelled [] (1 : UInt64) [2] 24)) ∧
      again.recover (full.setContent 0 (relabelled [] (1 : UInt64) [2] 24)) =
        (.ok [], again, full.setContent 0 (relabelled [] (1 : UInt64) [2] 24)) ∧
      ¬ Reports again (full.setContent 0 (relabelled [] (1 : UInt64) [2] 24)) := by
  have fits : ∀ b ∈ [(1 : UInt64), 2], Fits b := fun b _ => fits_word b
  obtain ⟨positions, written, full, appended, content, file_lt, opens⟩ :=
    exists_appendAll Disk.stored_empty openAt_blank rfl fits
  obtain ⟨again, opening, -, same_file, attached⟩ :=
    opens _ (Disk.onlyIn_setContent full 0 (relabelled [] (1 : UInt64) [2] 24))
  have bytes : (full.setContent 0 (relabelled [] (1 : UInt64) [2] 24)).content again.file =
      relabelled [] (1 : UInt64) ([2] ++ []) 24 := by
    rw [same_file]
    exact Disk.content_setContent file_lt _
  have ends : (24 : UInt32).toNat = (behind (1 : UInt64) [2]).length := by decide
  have recovered := recover_stretched attached (fun b _ => fits_word b) bytes ends
  have unreadable : (stretched (1 : UInt64) ([2] ++ []) 24).record? (α := UInt64) = none := by
    decide +kernel
  rw [unreadable] at recovered
  refine ⟨positions, written, full, again, appended, content, by decide, opening, recovered, ?_⟩
  rintro ⟨position, refused⟩
  rw [recovered] at refused
  cases refused

end Journal
end ChangeLog
