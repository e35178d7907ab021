/-
  Journals that a crash cut short. The whole records in front of the cut come back, and the torn
  piece behind them is dropped, exactly when no intact frame starts inside that piece
  (`mends_torn_tail_iff`).

  NOTE: a payload may hold the bytes of a frame. When a record with such a payload is torn, the
  frame inside it is taken for intact data behind damage: recovery is refused, and the journal
  cannot be opened until someone mends its file by hand (`torn_frame_in_payload_refused`).
-/
import ChangeLog.Proofs.Journal.Holds
import ChangeLog.Store.Events

namespace ChangeLog.Journal

variable {α : Type} [Wire α]

/-- The outcome that a torn tail calls for: recovery gives the whole records, the file ends behind
them, and what is added later comes back behind them, also after the journal was opened again. -/
def Mends (journal : Journal α) (disk : Disk) (records : List α) : Prop :=
  ∃ mended later, journal.recover disk = (.ok records, mended, later) ∧
    mended.length = (bytesOf records).length ∧
    later.content journal.file = bytesOf records ∧
    ∀ more : List α, (∀ a ∈ more, Fits a) →
      ∃ positions last final, mended.appendAll later more = (.ok positions, last, final) ∧
        last.recover final = (.ok (records ++ more), last, final) ∧
        openAt final journal.path = (.ok last, final)

variable {disk start : Disk} {path : String} {journal : Journal α}

variable [Wire.Lawful α]

/-- Whether the records of the chain come back is decided by the leftover alone. -/
theorem mends_iff (h : Attached journal disk) {records : List α}
    (found : recordsIn (disk.content journal.file) = records)
    (kept : (disk.content journal.file).take (chainEnd (disk.content journal.file)) =
      bytesOf records) :
    Mends journal disk records ↔
      ¬ Frame.Hides (Frame.leftover (disk.content journal.file)) := by
  have ends : chainEnd (disk.content journal.file) = (bytesOf records).length := by
    have total := chainEnd_add (disk.content journal.file)
    rw [← kept, List.length_take]
    omega
  constructor
  · rintro ⟨mended, later, recovered, -⟩ hides
    rw [recover_corrupt h.reaches hides] at recovered
    cases recovered
  · intro plain
    obtain ⟨later, recovered, -, content, holds⟩ := recover_ok h plain
    rw [found] at recovered holds
    rw [kept] at content
    refine ⟨_, later, recovered, ends, content, ?_⟩
    intro more fits
    obtain ⟨positions, final, appended, -, -, holds⟩ :=
      appendAll_ok holds fun a ha => (fits a ha).recoverable
    exact ⟨positions, _, final, appended, holds.reopen.2, holds.reopen.1⟩

/-- What is left of the records after a cut: the first few, as many as fit, and a torn piece. -/
theorem exists_whole_records {records : List α} (fits : ∀ a ∈ records, Fits a) (n : Nat) :
    ∃ k ≤ records.length,
      (∀ i ≤ records.length, (bytesOf (records.take i)).length ≤ n ↔ i ≤ k) ∧
      recordsIn ((bytesOf records).take n) = records.take k ∧
      chainEnd ((bytesOf records).take n) = (bytesOf (records.take k)).length ∧
      ((bytesOf records).take n).take (bytesOf (records.take k)).length =
        bytesOf (records.take k) := by
  obtain ⟨k, k_le, same, fit⟩ := Frame.exists_within_eq_take n (records.map Frame.ofRecord)
  have chain : Frame.chain ((bytesOf records).take n) = (records.take k).map Frame.ofRecord := by
    rw [Frame.chain_take, bytesOf, Frame.chain_writeAll (proper_of_fits fits), same, List.map_take]
  have ends : chainEnd ((bytesOf records).take n) = (bytesOf (records.take k)).length := by
    rw [chainEnd, chain, bytesOf]
  refine ⟨k, by simpa using k_le, ?_, ?_, ends, ?_⟩
  · intro i le
    have := fit i (by simpa using le)
    rwa [← List.map_take] at this
  · rw [recordsIn, chain, filterMap_ofRecord fun a ha => fits a (List.mem_of_mem_take ha)]
  · rw [← ends, take_chainEnd, chain, bytesOf]

/-- A journal written from an empty file, cut to its first `n` bytes and opened again. -/
theorem exists_cut (stored : disk.Stored) (opened : openAt disk path = (.ok journal, start))
    (empty : start.content journal.file = []) {records : List α} (fits : ∀ a ∈ records, Fits a) :
    ∃ positions written full, journal.appendAll start records = (.ok positions, written, full) ∧
      full.content journal.file = bytesOf records ∧
      ∀ n ≤ (bytesOf records).length, ∃ again : Journal α,
        openAt (full.resize journal.file n) path = (.ok again, full.resize journal.file n) ∧
        again.path = path ∧
        Attached again (full.resize journal.file n) ∧
        (full.resize journal.file n).content again.file = (bytesOf records).take n := by
  obtain ⟨positions, written, full, appended, content, file_lt, opens⟩ :=
    exists_appendAll stored opened empty fits
  refine ⟨positions, written, full, appended, content, ?_⟩
  intro n n_le
  obtain ⟨again, opening, path_eq, same_file, attached⟩ :=
    opens _ (Disk.onlyIn_resize full journal.file n)
  refine ⟨again, opening, path_eq, attached, ?_⟩
  rw [same_file, Disk.content_resize file_lt (by rw [content]; exact n_le), content]

/-- A torn tail is mended exactly when no intact frame starts inside the torn piece; else recovery
is refused at the piece and the file stays as it is. -/
theorem mends_torn_tail_iff (stored : disk.Stored)
    (opened : openAt disk path = (.ok journal, start)) (empty : start.content journal.file = [])
    {records : List α} (fits : ∀ a ∈ records, Fits a) :
    ∃ positions written full, journal.appendAll start records = (.ok positions, written, full) ∧
      full.content journal.file = bytesOf records ∧
      ∀ n ≤ (bytesOf records).length, ∃ k ≤ records.length,
        (∀ i ≤ records.length, (bytesOf (records.take i)).length ≤ n ↔ i ≤ k) ∧
        ∃ again : Journal α,
          openAt (full.resize journal.file n) path = (.ok again, full.resize journal.file n) ∧
          (Mends again (full.resize journal.file n) (records.take k) ↔
            ¬ Frame.Hides (((bytesOf records).take n).drop (bytesOf (records.take k)).length)) ∧
          (Frame.Hides (((bytesOf records).take n).drop (bytesOf (records.take k)).length) →
            again.recover (full.resize journal.file n) =
              (.error (.corrupt path (bytesOf (records.take k)).length), again,
                full.resize journal.file n)) := by
  obtain ⟨positions, written, full, appended, content, cuts⟩ :=
    exists_cut stored opened empty fits
  refine ⟨positions, written, full, appended, content, ?_⟩
  intro n n_le
  obtain ⟨again, opening, rfl, attached, cut⟩ := cuts n n_le
  obtain ⟨k, k_le, fit, found, ends, whole⟩ := exists_whole_records fits n
  have torn_piece : Frame.leftover ((full.resize journal.file n).content again.file) =
      ((bytesOf records).take n).drop (bytesOf (records.take k)).length := by
    rw [← drop_chainEnd, cut, ends]
  refine ⟨k, k_le, fit, again, opening, ?_⟩
  rw [← torn_piece]
  constructor
  · exact mends_iff attached (by rw [cut, found]) (by rw [cut, ends, whole])
  · intro hides
    rw [recover_corrupt attached.reaches hides, cut, ends]

/-- The second of two records without its last byte: the first one comes back. -/
theorem torn_word_mended :
    ∃ positions written full, ∃ again : Journal UInt64,
      blank.appendAll blankDisk [(7 : UInt64), 8] = (.ok positions, written, full) ∧
      openAt (full.resize 0 31) "events.wal" = (.ok again, full.resize 0 31) ∧
      Mends again (full.resize 0 31) [7] := by
  have fits : ∀ a ∈ [(7 : UInt64), 8], Fits a := fun a _ => fits_word a
  obtain ⟨positions, written, full, appended, -, cuts⟩ :=
    mends_torn_tail_iff Disk.stored_empty openAt_blank rfl fits
  obtain ⟨k, -, fit, again, opening, mends, -⟩ := cuts 31 (by decide)
  have one : k = 1 := by
    have whole : (bytesOf [(7 : UInt64)]).length ≤ 31 := by decide
    have torn : ¬ (bytesOf [(7 : UInt64), 8]).length ≤ 31 := by decide
    have first := (fit 1 (by decide)).mp whole
    have second := (not_congr (fit 2 (by decide))).mp torn
    omega
  subst one
  refine ⟨positions, written, full, again, appended, opening, mends.mpr ?_⟩
  decide +kernel

/-! ## A frame inside a payload -/

/-- An event whose image is a frame. -/
def framedEvent : Event :=
  { type := "put", after := (Frame.ofPayload [0]).write, offset := 0,
    id := ⟨List.replicate 32 0, rfl⟩, time := ⟨0, 0, by decide⟩ }

theorem fits_framedEvent : Fits framedEvent := by
  unfold Fits
  rw [Event.length_write]
  decide +kernel

/-- The image of an event stands inside its frame, with bytes in front of it and behind it. -/
theorem exists_write_ofRecord_eq (e : Event) : ∃ front back, front ≠ [] ∧ back ≠ [] ∧
    (Frame.ofRecord e).write = front ++ (e.after ++ back) := by
  refine ⟨Bytes.littleEndian 4 (Wire.write e).length ++ (Wire.write (Frame.ofRecord e).checksum ++
      (Wire.write e.offset ++ (Wire.write e.id ++ (Wire.write e.type ++ (Wire.write e.before ++
        Bytes.littleEndian 8 e.after.length))))),
    Wire.write e.source ++ Wire.write e.time, ?_, ?_, ?_⟩
  · simp [Bytes.littleEndian]
  · intro nothing
    have := congrArg List.length nothing
    rw [List.length_append, Wire.length_write_text, List.length_nil] at this
    omega
  · simp only [List.append_assoc]
    rfl

/-- A log of one event whose image is a frame; a crash tears its last byte off. No whole record is
left, and the journal should come back empty, but recovery is refused. -/
theorem torn_frame_in_payload_refused :
    ∃ positions written full, ∃ again : Journal Event,
      blank.appendAll blankDisk [framedEvent] = (.ok positions, written, full) ∧
      openAt (full.resize 0 ((bytesOf [framedEvent]).length - 1)) "events.wal" =
        (.ok again, full.resize 0 ((bytesOf [framedEvent]).length - 1)) ∧
      again.recover (full.resize 0 ((bytesOf [framedEvent]).length - 1)) =
        (.error (.corrupt "events.wal" 0), again,
          full.resize 0 ((bytesOf [framedEvent]).length - 1)) ∧
      ¬ Mends again (full.resize 0 ((bytesOf [framedEvent]).length - 1)) [] := by
  have fits : ∀ a ∈ [framedEvent], Fits a := by
    intro a ha
    rw [List.mem_singleton.mp ha]
    exact fits_framedEvent
  obtain ⟨positions, written, full, appended, -, cuts⟩ :=
    exists_cut Disk.stored_empty openAt_blank rfl fits
  obtain ⟨again, opening, path_eq, attached, cut⟩ := cuts _ (Nat.sub_le _ 1)
  obtain ⟨front, back, front_ne, back_ne, bytes⟩ := exists_write_ofRecord_eq framedEvent
  have whole : bytesOf [framedEvent] = front ++ ((Frame.ofPayload [0]).write ++ back) := by
    rw [bytesOf_singleton, bytes]
    rfl
  have short : (bytesOf [framedEvent]).length - 1 < (Frame.ofRecord framedEvent).size := by
    rw [bytesOf_singleton, Frame.length_write]
    have := Frame.size_pos (Frame.ofRecord framedEvent)
    omega
  have none :
      Frame.read? ((bytesOf [framedEvent]).take ((bytesOf [framedEvent]).length - 1)) = none := by
    have torn := Frame.read?_take_write (Frame.proper_ofRecord (fits _ List.mem_cons_self)) short
    rwa [← bytesOf_singleton] at torn
  have hides : Frame.Hides ((bytesOf [framedEvent]).take ((bytesOf [framedEvent]).length - 1)) := by
    -- The byte that is cut off stands behind the image.
    rw [← List.dropLast_eq_take, whole, List.dropLast_append_of_ne_nil (by simp [back_ne]),
      List.dropLast_append_of_ne_nil back_ne]
    have proper : (Frame.ofPayload [0]).Proper :=
      ⟨List.cons_ne_nil _ _, show 1 < UInt32.size by decide⟩
    exact Frame.hides_of_write proper (Frame.isIntact_ofPayload _) front_ne _
  have refused := recover_corrupt attached.reaches (by
    rw [cut, Frame.leftover_of_read?_none none]
    exact hides)
  rw [cut, chainEnd, Frame.chain_of_read?_none none, path_eq] at refused
  refine ⟨positions, written, full, again, appended, opening, refused, ?_⟩
  rintro ⟨mended, later, recovered, -⟩
  change again.recover (full.resize (blank : Journal Event).file _) = _ at recovered
  rw [refused] at recovered
  cases recovered

end ChangeLog.Journal
