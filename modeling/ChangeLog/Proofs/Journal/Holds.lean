/-
  What a journal holds. `Holds` ties a journal to its file: the path leads to it, the file is a
  chain of frames without a leftover, and the frames hold the given records. Recovery establishes
  it on any bytes that it accepts (`recover_ok`), adding records keeps it (`append_ok`,
  `appendAll_ok`), and opening the journal again finds the same records (`Holds.reopen`).
-/
import ChangeLog.Proofs.Codec
import ChangeLog.Proofs.Disk
import ChangeLog.Proofs.Journal.Chain
import ChangeLog.Journal

namespace ChangeLog

/-! ## Opening -/

namespace Journal

section Opening

variable {α : Type} {journal : Journal α} {disk later : Disk} {path : String}

/-- Opening a journal leads to its file; nothing is changed but that directories and an empty file
are made where they are missing. -/
structure Ready (disk : Disk) (path : String) (journal : Journal α) (later : Disk) : Prop
    extends Disk.Confined journal.file disk later where
  path_eq : journal.path = path
  reaches : later.Reaches (Path.parts path) journal.file
  length_eq : journal.length = (later.content journal.file).length

theorem Ready.file_lt (h : Ready disk path journal later) (stored : disk.Stored) :
    journal.file < later.contents.length := by
  obtain ⟨place, -, found⟩ := Disk.locate_iff.mp h.reaches.located
  exact h.stored stored place journal.file found

theorem ready_of_openAt (h : openAt disk path = (.ok journal, later)) :
    Ready disk path journal later := by
  have furnished := Disk.furnished_settleAll disk
    ((Path.parts path).dropLast.filter fun part => part ≠ ".").reverse
  unfold openAt Disk.createDirectories at h
  dsimp only at h
  split at h
  · cases h
  · rename_i middle made
    rw [made] at furnished
    have around := Disk.isDirectory_of_settleAll made
    rw [List.reverse_reverse, List.reverse_eq_nil_iff] at around
    split at h
    · cases h
    · rename_i file final opening
      have opened := Disk.opened_of_openFile opening
      obtain ⟨result, rfl⟩ := Prod.mk.inj h
      cases result
      refine ⟨⟨furnished.keeps.trans opened.keeps, ?_, ?_,
        fun stored => opened.stored (furnished.stored stored),
        fun stored unshared => opened.unshared (furnished.stored stored)
          (furnished.unshared unshared)⟩,
        rfl, ⟨opened.located, around.imp_right opened.keeps.isDirectory⟩, rfl⟩
      · rw [← furnished.contents]
        exact opened.grows
      · intro other lt _
        rw [opened.same other (by rw [furnished.contents]; exact lt), Disk.content, Disk.content,
          furnished.contents]

/-- Where the path already leads to a file, opening changes nothing. -/
theorem openAt_of_reaches {file : Nat} (h : disk.Reaches (Path.parts path) file) :
    openAt disk path =
      (.ok ({ path, file, length := (disk.content file).length } : Journal α), disk) := by
  rw [openAt, Disk.createDirectories_of_reaches h]
  dsimp only
  rw [Disk.openFile_of_locate h.located]

/-- Where the path leads to nothing, opening makes an empty file there. -/
theorem openAt_of_vacant {place : List String}
    (resolved : disk.resolve (Path.parts path) = .ok place) (free : disk.find? place = none) :
    openAt disk path = (.ok ({ path, file := disk.contents.length, length := 0 } : Journal α),
      disk.newFile place) := by
  -- The root is never free, so the path has a last part.
  have ne : Path.parts path ≠ [] := by
    intro root
    rw [root] at resolved
    cases resolved
    cases free
  have split := List.dropLast_concat_getLast ne
  have around : disk.isDirectory
      ((Path.parts path).dropLast.filter fun part => part ≠ ".") = true := by
    rw [← split] at resolved
    exact Disk.isDirectory_around resolved
  rw [openAt, Disk.createDirectories_eq (.inr around)]
  dsimp only
  rw [Disk.openFile_of_vacant resolved free]
  dsimp only
  rw [Disk.content_newFile]
  rfl

/-- The journal's path leads to its file, and the journal knows the file's length. -/
structure Attached (journal : Journal α) (disk : Disk) : Prop where
  reaches : disk.Reaches (Path.parts journal.path) journal.file
  stored : journal.file < disk.contents.length
  length_eq : journal.length = (disk.content journal.file).length

theorem Ready.attached (ready : Ready disk path journal later)
    (stored : disk.Stored) : Attached journal later :=
  ⟨ready.path_eq.symm ▸ ready.reaches, ready.file_lt stored, ready.length_eq⟩

/-- Whatever was written to the file, the journal can be opened again. -/
theorem Attached.reopen (h : Attached journal disk) (change : Disk.OnlyIn journal.file disk later) :
    ∃ again : Journal α, openAt later journal.path = (.ok again, later) ∧
      again.path = journal.path ∧ again.file = journal.file ∧ Attached again later :=
  have reaches := change.keeps.reaches h.reaches
  ⟨_, openAt_of_reaches reaches, rfl, rfl, reaches, change.length ▸ h.stored, rfl⟩

end Opening

end Journal

/-! ## Frames of records -/

section Records

variable {α : Type} [Wire α]

/-- The frame of a record. -/
def Frame.ofRecord (a : α) : Frame := Frame.ofPayload (Wire.write a)

/-- A record that takes less than 4 GiB. -/
def Journal.Fits (a : α) : Prop := (Wire.write a).length < UInt32.size

/-- A record that a journal gives back: it takes less than 4 GiB but not nothing, and its own
payload holds it. -/
structure Journal.Recoverable (a : α) : Prop where
  fits : Fits a
  write_ne_nil : Wire.write a ≠ []
  ofPayload_write : Wire.ofPayload (Wire.write a) = some a

/-- The bytes of records one behind the other. -/
def Journal.bytesOf (records : List α) : Bytes := Frame.writeAll (records.map Frame.ofRecord)

variable {a : α}

theorem Journal.Recoverable.proper (h : Recoverable a) : (Frame.ofRecord a).Proper :=
  ⟨h.write_ne_nil, h.fits⟩

theorem Journal.Recoverable.record? (h : Recoverable a) :
    (Frame.ofRecord a).record? = some a := by
  rw [Frame.record?, Frame.ofRecord, if_pos (Frame.isIntact_ofPayload _)]
  exact h.ofPayload_write

variable [Wire.Lawful α]

theorem Journal.Fits.recoverable (h : Journal.Fits a) : Recoverable a :=
  ⟨h, Wire.Lawful.write_ne_nil a, Wire.ofPayload_write (Nat.lt_trans h (by decide))⟩

theorem Frame.proper_ofRecord (h : Journal.Fits a) : (Frame.ofRecord a).Proper :=
  h.recoverable.proper

theorem Frame.record?_ofRecord (h : Journal.Fits a) : (Frame.ofRecord a).record? = some a :=
  h.recoverable.record?

end Records

namespace Journal

variable {α : Type} [Wire α] {journal : Journal α} {disk later : Disk} {records : List α}

@[simp] theorem bytesOf_nil : bytesOf ([] : List α) = [] := rfl

@[simp] theorem bytesOf_cons (a : α) (rest : List α) :
    bytesOf (a :: rest) = (Frame.ofRecord a).write ++ bytesOf rest := rfl

theorem bytesOf_singleton (a : α) : bytesOf [a] = (Frame.ofRecord a).write := by
  rw [bytesOf_cons, bytesOf_nil, List.append_nil]

@[simp] theorem bytesOf_append (front back : List α) :
    bytesOf (front ++ back) = bytesOf front ++ bytesOf back := by
  rw [bytesOf, List.map_append, Frame.writeAll_append]
  rfl

theorem proper_of_fits [Wire.Lawful α] (fits : ∀ a ∈ records, Fits a) :
    ∀ f ∈ records.map Frame.ofRecord, f.Proper := by
  intro f hf
  obtain ⟨a, ha, rfl⟩ := List.mem_map.mp hf
  exact Frame.proper_ofRecord (fits a ha)

theorem filterMap_ofRecord [Wire.Lawful α] (fits : ∀ a ∈ records, Fits a) :
    (records.map Frame.ofRecord).filterMap Frame.record? = records := by
  induction records with
  | nil => rfl
  | cons a rest ih =>
      rw [List.map_cons, List.filterMap_cons, Frame.record?_ofRecord (fits a List.mem_cons_self),
        ih fun b hb => fits b (List.mem_cons_of_mem _ hb)]

theorem recordsIn_bytesOf_append [Wire.Lawful α] (fits : ∀ a ∈ records, Fits a) (rest : Bytes) :
    recordsIn (bytesOf records ++ rest) = records ++ recordsIn rest := by
  rw [recordsIn, bytesOf, Frame.chain_writeAll_append (proper_of_fits fits), List.filterMap_append,
    filterMap_ofRecord fits, recordsIn]

theorem recordsIn_bytesOf [Wire.Lawful α] (fits : ∀ a ∈ records, Fits a) :
    recordsIn (bytesOf records) = records := by
  rw [recordsIn, bytesOf, Frame.chain_writeAll (proper_of_fits fits), filterMap_ofRecord fits]

theorem leftover_bytesOf [Wire.Lawful α] (fits : ∀ a ∈ records, Fits a) :
    Frame.leftover (bytesOf records) = [] := Frame.leftover_writeAll (proper_of_fits fits)

/-! ## The relation -/

/-- The journal's file is a chain of frames to its end and holds the given records. -/
structure Holds (journal : Journal α) (disk : Disk) (records : List α) : Prop
    extends Attached journal disk where
  whole : Frame.leftover (disk.content journal.file) = []
  records_eq : recordsIn (disk.content journal.file) = records

/-- A journal with an empty file holds nothing. -/
theorem Attached.holds_nil (h : Attached journal disk) (empty : disk.content journal.file = []) :
    Holds journal disk [] :=
  ⟨h, by rw [empty, Frame.leftover_of_read?_none Frame.read?_nil],
    by rw [empty, recordsIn, Frame.chain_of_read?_none Frame.read?_nil]; rfl⟩

/-- A journal that was just made holds nothing. -/
theorem holds_newFile {path : String} {place : List String}
    (resolved : disk.resolve (Path.parts path) = .ok place) (free : disk.find? place = none) :
    Holds ({ path, file := disk.contents.length, length := 0 } : Journal α) (disk.newFile place)
      [] := by
  have ready := ready_of_openAt (openAt_of_vacant (α := α) resolved free)
  refine Attached.holds_nil ⟨ready.reaches, ?_, ready.length_eq⟩ (Disk.content_newFile disk place)
  rw [Disk.length_newFile]
  exact Nat.lt_succ_self _

/-- A disk on which another file was changed still holds the records. -/
theorem Holds.elsewhere {file : Nat} (h : Holds journal disk records)
    (change : Disk.Confined file disk later) (ne : journal.file ≠ file) :
    Holds journal later records := by
  have same := change.others _ h.stored ne
  exact ⟨⟨change.keeps.reaches h.reaches, Nat.lt_of_lt_of_le h.stored change.grows,
    same ▸ h.length_eq⟩, same ▸ h.whole, same ▸ h.records_eq⟩

/-! ## Recovery -/

/-- Recovery on any bytes. -/
theorem recover_eq (reaches : disk.Reaches (Path.parts journal.path) journal.file) :
    journal.recover disk =
      if Frame.Hides (Frame.leftover (disk.content journal.file)) then
        (.error (.corrupt journal.path (chainEnd (disk.content journal.file))), journal, disk)
      else if chainEnd (disk.content journal.file) < (disk.content journal.file).length then
        (.ok (recordsIn (disk.content journal.file)),
          { journal with length := chainEnd (disk.content journal.file) },
          disk.resize journal.file (chainEnd (disk.content journal.file)))
      else (.ok (recordsIn (disk.content journal.file)), journal, disk) := by
  rw [recover, reaches.read]
  dsimp only
  rw [scan_eq, Nat.zero_add]
  by_cases hides : Frame.Hides (Frame.leftover (disk.content journal.file))
  · simp only [if_pos hides]
  · simp only [if_neg hides]

theorem recover_corrupt (reaches : disk.Reaches (Path.parts journal.path) journal.file)
    (hides : Frame.Hides (Frame.leftover (disk.content journal.file))) :
    journal.recover disk =
      (.error (.corrupt journal.path (chainEnd (disk.content journal.file))), journal, disk) := by
  rw [recover_eq reaches, if_pos hides]

/-- A recovery that is not refused: the file is cut where its chain breaks off, and then holds the
records of the chain. -/
theorem recover_ok (h : Attached journal disk)
    (plain : ¬ Frame.Hides (Frame.leftover (disk.content journal.file))) :
    ∃ later : Disk, journal.recover disk = (.ok (recordsIn (disk.content journal.file)),
        { journal with length := chainEnd (disk.content journal.file) }, later) ∧
      Disk.OnlyIn journal.file disk later ∧
      later.content journal.file =
        (disk.content journal.file).take (chainEnd (disk.content journal.file)) ∧
      Holds { journal with length := chainEnd (disk.content journal.file) } later
        (recordsIn (α := α) (disk.content journal.file)) := by
  have total := chainEnd_add (disk.content journal.file)
  have cut_chain := chain_take_chainEnd (disk.content journal.file)
  have cut_whole := leftover_take_chainEnd (disk.content journal.file)
  rw [recover_eq h.reaches, if_neg plain]
  split
  · rename_i torn
    have change := Disk.onlyIn_resize disk journal.file (chainEnd (disk.content journal.file))
    have content := Disk.content_resize h.stored (Nat.le_of_lt torn)
    refine ⟨_, rfl, change, content,
      ⟨change.keeps.reaches h.reaches, change.length ▸ h.stored, ?_⟩, ?_, ?_⟩
    · rw [content, List.length_take]
      dsimp only
      omega
    · rw [content, cut_whole]
    · rw [content, recordsIn, cut_chain, recordsIn]
  · rename_i untorn
    have all : chainEnd (disk.content journal.file) = (disk.content journal.file).length := by omega
    have same : { journal with length := chainEnd (disk.content journal.file) } = journal := by
      rw [all, ← h.length_eq]
    have taken : (disk.content journal.file).take (chainEnd (disk.content journal.file)) =
        disk.content journal.file := by rw [all, List.take_length]
    rw [same]
    rw [taken] at cut_whole
    exact ⟨disk, rfl, Disk.OnlyIn.refl _ _, taken.symm, h, cut_whole, rfl⟩

/-- Opening a journal and recovering: what was found is what the journal holds, and nothing else on
the disk has changed. -/
theorem holds_of_openAt {path : String} {middle : Disk} {found : Journal α} (stored : disk.Stored)
    (opened : openAt disk path = (.ok journal, middle))
    (recovered : journal.recover middle = (.ok records, found, later)) :
    found.path = path ∧ Holds found later records ∧ Disk.Confined found.file disk later := by
  have ready := ready_of_openAt opened
  have attached := ready.attached stored
  by_cases hides : Frame.Hides (Frame.leftover (middle.content journal.file))
  · rw [recover_corrupt attached.reaches hides] at recovered
    cases recovered
  · obtain ⟨final, kept, change, -, holds⟩ := recover_ok attached hides
    rw [kept] at recovered
    cases recovered
    exact ⟨ready.path_eq, holds, ready.toConfined.trans change.confined⟩

/-- Where no leftover is, recovery changes nothing. -/
theorem recover_whole (h : Attached journal disk)
    (whole : Frame.leftover (disk.content journal.file) = []) :
    journal.recover disk = (.ok (recordsIn (disk.content journal.file)), journal, disk) := by
  have total := chainEnd_add (disk.content journal.file)
  rw [whole, List.length_nil, Nat.add_zero] at total
  rw [recover_eq h.reaches, if_neg (by rw [whole]; exact Frame.not_hides_nil), total,
    if_neg (Nat.lt_irrefl _)]

/-- Opening a journal again, and recovering, finds what it holds and changes nothing. -/
theorem Holds.reopen (h : Holds journal disk records) :
    openAt disk journal.path = (.ok journal, disk) ∧
      journal.recover disk = (.ok records, journal, disk) := by
  constructor
  · rw [openAt_of_reaches h.reaches, ← h.length_eq]
  · rw [recover_whole h.toAttached h.whole, h.records_eq]

/-! ## Adding records -/

theorem append_ok (h : Holds journal disk records) {a : α} (sound : Recoverable a) :
    ∃ later, journal.append disk a = (.ok journal.length,
        { journal with length := journal.length + (Frame.ofRecord a).size }, later) ∧
      Disk.OnlyIn journal.file disk later ∧
      later.content journal.file = disk.content journal.file ++ (Frame.ofRecord a).write ∧
      Holds { journal with length := journal.length + (Frame.ofRecord a).size } later
        (records ++ [a]) := by
  have change := Disk.onlyIn_extend disk journal.file (Frame.ofRecord a).write
  have content := Disk.content_extend h.stored (Frame.ofRecord a).write
  have own : (Frame.ofRecord a).write = Frame.writeAll [Frame.ofRecord a] := by simp
  have all_proper : ∀ f ∈ [Frame.ofRecord a], f.Proper := by
    intro f hf
    rw [List.mem_singleton.mp hf]
    exact sound.proper
  refine ⟨_, ?_, change, content,
    ⟨change.keeps.reaches h.reaches, change.length ▸ h.stored, ?_⟩, ?_, ?_⟩
  · rw [append, if_neg (Nat.not_le.mpr sound.fits)]
    rfl
  · rw [content, List.length_append, Frame.length_write, ← h.length_eq]
  · rw [content, Frame.leftover_append h.whole, own]
    exact Frame.leftover_writeAll all_proper
  · rw [content, recordsIn, Frame.chain_append h.whole, List.filterMap_append, own]
    rw [Frame.chain_writeAll all_proper, ← h.records_eq, List.filterMap_cons, sound.record?]
    rfl

theorem append_tooLarge {a : α} (large : ¬ Fits a) :
    journal.append disk a = (.error .recordTooLarge, journal, disk) := by
  rw [append, if_pos (Nat.not_lt.mp large)]

/-- Adds records one after the other; gives their positions. -/
def appendAll (journal : Journal α) (disk : Disk) :
    List α → Except StoreError (List Nat) × Journal α × Disk
  | [] => (.ok [], journal, disk)
  | a :: rest =>
    match journal.append disk a with
    | (.error fault, journal, disk) => (.error fault, journal, disk)
    | (.ok position, journal, disk) =>
      match appendAll journal disk rest with
      | (.error fault, journal, disk) => (.error fault, journal, disk)
      | (.ok positions, journal, disk) => (.ok (position :: positions), journal, disk)

theorem appendAll_ok (h : Holds journal disk records) {more : List α}
    (sound : ∀ a ∈ more, Recoverable a) :
    ∃ positions later, journal.appendAll disk more = (.ok positions,
        { journal with length := journal.length + (bytesOf more).length }, later) ∧
      Disk.OnlyIn journal.file disk later ∧
      later.content journal.file = disk.content journal.file ++ bytesOf more ∧
      Holds { journal with length := journal.length + (bytesOf more).length } later
        (records ++ more) := by
  induction more generalizing journal disk records with
  | nil =>
      rw [bytesOf_nil, List.append_nil, List.append_nil]
      exact ⟨[], disk, rfl, Disk.OnlyIn.refl _ _, rfl, h⟩
  | cons a rest ih =>
      obtain ⟨middle, first, change, content, holds⟩ := append_ok h (sound a List.mem_cons_self)
      obtain ⟨positions, later, others, change', content', holds'⟩ :=
        ih holds fun b hb => sound b (List.mem_cons_of_mem _ hb)
      have length : journal.length + (Frame.ofRecord a).size + (bytesOf rest).length =
          journal.length + (bytesOf (a :: rest)).length := by
        rw [bytesOf_cons, List.length_append, Frame.length_write, Nat.add_assoc]
      rw [content, List.append_assoc, ← bytesOf_cons] at content'
      rw [List.append_assoc, List.singleton_append] at holds'
      dsimp only at others holds' content' change'
      rw [length] at others holds'
      exact ⟨journal.length :: positions, later, by rw [appendAll, first]; dsimp only; rw [others],
        change.trans change', content', holds'⟩

/-- Records added to a new journal are all that its file holds. -/
theorem exists_appendAll [Wire.Lawful α] {start : Disk} {path : String} (stored : disk.Stored)
    (opened : openAt disk path = (.ok journal, start)) (empty : start.content journal.file = [])
    (fits : ∀ a ∈ records, Fits a) :
    ∃ positions written full, journal.appendAll start records = (.ok positions, written, full) ∧
      full.content journal.file = bytesOf records ∧ journal.file < full.contents.length ∧
      ∀ later, Disk.OnlyIn journal.file full later → ∃ again : Journal α,
        openAt later path = (.ok again, later) ∧ again.path = path ∧
          again.file = journal.file ∧ Attached again later := by
  have ready := ready_of_openAt opened
  obtain ⟨positions, full, appended, -, content, holds⟩ :=
    appendAll_ok ((ready.attached stored).holds_nil empty) fun a ha => (fits a ha).recoverable
  rw [empty, List.nil_append] at content
  refine ⟨positions, _, full, appended, content, holds.stored, ?_⟩
  intro later change
  have := holds.toAttached.reopen change
  rwa [ready.path_eq] at this

/-! ## A journal on a disk of its own -/

/-- A disk with one empty file. -/
def blankDisk : Disk := { entries := [(["events.wal"], .file 0)], contents := [[]] }

/-- The journal that is made where there is nothing yet. -/
def blank {β : Type} : Journal β := { path := "events.wal", file := 0, length := 0 }

theorem openAt_blank {β : Type} : openAt {} "events.wal" = (.ok (blank : Journal β), blankDisk) :=
  rfl

theorem fits_word (n : UInt64) : Fits n := by
  unfold Fits
  rw [Wire.length_write_word64]
  decide

end Journal
end ChangeLog
