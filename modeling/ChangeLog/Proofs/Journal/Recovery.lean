/-
  Recovery of a journal whose file holds any bytes at all: frames with wrong checksums, frames whose
  payload is no record, headers that cannot be, pieces of frames. Recovery either reports damage,
  with an intact frame behind it, and changes nothing; or it cuts the file to a prefix, and no
  intact frame starts in what it cuts off (`recovery_safe`). What is left is a chain of frames up to
  its last byte, so records added to it later come back behind the ones that were found.
-/
import ChangeLog.Proofs.Journal.Holds

namespace ChangeLog

/-! ## What is cut off -/

/-- Nothing intact starts in a leftover that hides nothing: at its first byte no frame can be taken
at all. -/
theorem Frame.startsIntact_leftover {bytes : Bytes} (plain : ¬ Hides (leftover bytes)) (i : Nat) :
    startsIntact ((leftover bytes).drop i) = false := by
  rw [← Bool.not_eq_true]
  intro starts
  cases i with
  | zero =>
      obtain ⟨f, rest, found, -⟩ := startsIntact_iff.mp starts
      rw [List.drop_zero, read?_leftover] at found
      cases found
  | succ i => exact plain ⟨i + 1, Nat.succ_pos i, starts⟩

namespace Journal

variable {α : Type} [Wire α] {journal : Journal α} {disk start : Disk} {path : String}

/-- Nothing intact starts at or behind the place where a chain breaks off, unless it is hidden. -/
theorem startsIntact_drop_of_chainEnd_le {bytes : Bytes}
    (plain : ¬ Frame.Hides (Frame.leftover bytes)) {i : Nat} (behind : chainEnd bytes ≤ i) :
    Frame.startsIntact (bytes.drop i) = false := by
  have here : bytes.drop i = (Frame.leftover bytes).drop (i - chainEnd bytes) := by
    rw [← drop_chainEnd, List.drop_drop, Nat.add_sub_of_le behind]
  rw [here]
  exact Frame.startsIntact_leftover plain _

/-- What a leftover hides, as a place in all the bytes. -/
theorem exists_startsIntact_of_hides {bytes : Bytes} (hides : Frame.Hides (Frame.leftover bytes)) :
    ∃ i, chainEnd bytes < i ∧ Frame.startsIntact (bytes.drop i) = true := by
  obtain ⟨i, pos, starts⟩ := hides
  refine ⟨chainEnd bytes + i, by omega, ?_⟩
  rw [← List.drop_drop, drop_chainEnd]
  exact starts

/-! ## Positions of added records -/

/-- Each record is put where the ones added before it end. -/
theorem positions_of_appendAll {positions : List Nat} {last : Journal α} {final : Disk}
    {more : List α} (appended : journal.appendAll disk more = (.ok positions, last, final)) :
    positions.length = more.length ∧
      ∀ k < more.length,
        positions[k]? = some (journal.length + (bytesOf (more.take k)).length) := by
  induction more generalizing journal disk positions with
  | nil =>
      cases appended
      exact ⟨rfl, fun k lt => absurd lt (Nat.not_lt_zero k)⟩
  | cons a rest ih =>
      rw [appendAll, append] at appended
      dsimp only at appended
      split at appended
      · cases appended
      · rename_i wrote
        split at wrote
        · cases wrote
        · cases wrote
          split at appended
          · cases appended
          · rename_i others
            cases appended
            obtain ⟨length, places⟩ := ih others
            refine ⟨by rw [List.length_cons, List.length_cons, length], ?_⟩
            intro k lt
            cases k with
            | zero => simp
            | succ k =>
                have lt := Nat.lt_of_succ_lt_succ lt
                have place := places k lt
                have size : (Frame.ofRecord a).write.length =
                    (Frame.ofPayload (Wire.write a)).size := Frame.length_write _
                rw [List.getElem?_cons_succ, place, List.take_succ_cons, bytesOf_cons,
                  List.length_append, size, Nat.add_assoc]

/-! ## Any bytes -/

/-- A journal opened on any bytes and recovered. Either recovery reports damage, behind which an
intact frame starts, and changes nothing. Or it gives records and cuts the file to a prefix: in what
is cut off no intact frame starts; the journal knows the new length; a second recovery, also after
opening again, gives the same records and changes nothing; and records added one after the other are
put at the successive ends of the file and come back, also after opening again, behind the first
ones. -/
theorem recovery_safe (stored : disk.Stored) (opened : openAt disk path = (.ok journal, start)) :
    (∃ position, journal.recover start = (.error (.corrupt path position), journal, start) ∧
      ∃ i, position < i ∧ Frame.startsIntact ((start.content journal.file).drop i) = true) ∨
    ∃ records mended later, journal.recover start = (.ok records, mended, later) ∧
      Disk.OnlyIn journal.file start later ∧
      later.content journal.file <+: start.content journal.file ∧
      (∀ i, (later.content journal.file).length ≤ i →
        Frame.startsIntact ((start.content journal.file).drop i) = false) ∧
      mended.length = (later.content journal.file).length ∧
      mended.recover later = (.ok records, mended, later) ∧
      openAt later path = (.ok mended, later) ∧
      ∀ more : List α, (∀ a ∈ more, Recoverable a) →
        ∃ positions last final, mended.appendAll later more = (.ok positions, last, final) ∧
          positions.length = more.length ∧
          (∀ k < more.length, positions[k]? =
            some ((mended.appendAll later (more.take k)).2.2.content journal.file).length) ∧
          last.recover final = (.ok (records ++ more), last, final) ∧
          openAt final path = (.ok last, final) := by
  have ready := ready_of_openAt opened
  have attached := ready.attached stored
  have path_eq := ready.path_eq
  by_cases hides : Frame.Hides (Frame.leftover (start.content journal.file))
  · left
    have refused := recover_corrupt attached.reaches hides
    rw [path_eq] at refused
    exact ⟨_, refused, exists_startsIntact_of_hides hides⟩
  · right
    obtain ⟨later, recovered, change, content, holds⟩ := recover_ok attached hides
    obtain ⟨opens, again⟩ := holds.reopen
    have cut : (later.content journal.file).length = chainEnd (start.content journal.file) :=
      holds.length_eq.symm
    refine ⟨_, _, later, recovered, change, ?_, ?_, cut.symm, again, ?_, ?_⟩
    · rw [content]
      exact List.take_prefix _ _
    · intro i behind
      rw [cut] at behind
      exact startsIntact_drop_of_chainEnd_le hides behind
    · rw [← path_eq]
      exact opens
    · intro more sound
      obtain ⟨positions, final, appended, -, -, grown⟩ := appendAll_ok holds sound
      obtain ⟨length, places⟩ := positions_of_appendAll appended
      refine ⟨positions, _, final, appended, length, ?_, grown.reopen.2, ?_⟩
      · intro k lt
        -- The first `k` records alone leave the file that the next one is put behind.
        obtain ⟨_, middle, partly, -, bytes, -⟩ :=
          appendAll_ok holds fun a ha => sound a (List.mem_of_mem_take (i := k) ha)
        have bytes : middle.content journal.file =
            later.content journal.file ++ bytesOf (more.take k) := bytes
        rw [places k lt, partly, bytes, List.length_append, cut]
      · rw [← path_eq]
        exact grown.reopen.1

/-- An intact record, a frame with a wrong checksum, and a piece of a third frame. -/
def mixedBytes : Bytes :=
  (Frame.ofRecord (7 : UInt64)).write ++ ((⟨0, [1]⟩ : Frame).write ++ [8, 0, 0])

/-- On these bytes the record comes back, and one added later behind it. -/
theorem mixed_bytes_recovered :
    ∃ journal : Journal UInt64, openAt (blankDisk.setContent 0 mixedBytes) "events.wal" =
        (.ok journal, blankDisk.setContent 0 mixedBytes) ∧
      ∃ mended later positions last final,
        journal.recover (blankDisk.setContent 0 mixedBytes) = (.ok [7], mended, later) ∧
        mended.appendAll later [9] = (.ok positions, last, final) ∧
        last.recover final = (.ok [7, 9], last, final) := by
  have stored : (blankDisk.setContent 0 mixedBytes).Stored :=
    (Disk.onlyIn_setContent _ _ _).stored
      ((ready_of_openAt (openAt_blank (β := UInt64))).stored Disk.stored_empty)
  have opened : openAt (blankDisk.setContent 0 mixedBytes) "events.wal" =
      (.ok (⟨"events.wal", 0, mixedBytes.length⟩ : Journal UInt64),
        blankDisk.setContent 0 mixedBytes) := rfl
  have found : ((⟨"events.wal", 0, mixedBytes.length⟩ : Journal UInt64).recover
      (blankDisk.setContent 0 mixedBytes)).1.toOption = some [7] := by decide +kernel
  refine ⟨_, opened, ?_⟩
  rcases recovery_safe stored opened with ⟨_, refused, -⟩ |
    ⟨records, mended, later, recovered, -, -, -, -, -, -, grows⟩
  · rw [refused] at found
    cases found
  · rw [recovered] at found
    cases found
    obtain ⟨positions, last, final, appended, -, -, again, -⟩ := grows [9] (by
      intro a _
      exact (fits_word a).recoverable)
    exact ⟨mended, later, positions, last, final, recovered, appended, again⟩

end Journal
end ChangeLog
