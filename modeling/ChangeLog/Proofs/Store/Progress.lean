/-
  Progress stores that keep a journal. The records of progress are short, so writing one never
  fails, and the state of a store is at every moment the fold of its journal's records (`Backed`).
-/
import ChangeLog.Proofs.Journal.Holds

namespace ChangeLog

/-! ## Records are short -/

theorem Consumer.length_name_le (c : Consumer) : (Text.encode c.name).length ≤ 256 := by
  obtain ⟨name, valid⟩ := c
  unfold reason? at valid
  split at valid
  · cases valid
  · split at valid
    · cases valid
    · rename_i short
      exact Nat.not_lt.mp short

theorem ProgressRecord.fits (r : ProgressRecord) : Journal.Fits r := by
  unfold Journal.Fits
  have size : UInt32.size = 4294967296 := rfl
  cases r with
  | ack c offset =>
      change (Wire.write (0 : UInt32) ++ (Wire.write c.name ++ Wire.write offset)).length < _
      have short := c.length_name_le
      rw [List.length_append, List.length_append, Wire.length_write_word32, Wire.length_write_text,
        Wire.length_write_word64]
      omega
  | rewind c offset =>
      change (Wire.write (1 : UInt32) ++ (Wire.write c.name ++ Wire.write offset)).length < _
      have short := c.length_name_le
      have option : (Wire.write offset).length ≤ 9 := by
        cases offset with
        | none => exact (by decide : 1 ≤ 9)
        | some offset =>
            change (1 :: Wire.write offset).length ≤ 9
            have word := Wire.length_write_word64 offset
            rw [List.length_cons]
            omega
      rw [List.length_append, List.length_append, Wire.length_write_word32, Wire.length_write_text]
      omega

/-! ## Look-ups -/

namespace Progress

theorem toNat_max (a b : UInt64) : (max a b).toNat = max a.toNat b.toNat := by
  change (if a ≤ b then b else a).toNat = _
  split
  · rename_i le
    exact (Nat.max_eq_right (UInt64.le_iff_toNat_le.mp le)).symm
  · rename_i lt
    exact (Nat.max_eq_left (Nat.le_of_lt (UInt64.lt_iff_toNat_lt.mp (UInt64.not_le.mp lt)))).symm

theorem max_of_le {current offset : UInt64} (low : offset ≤ current) :
    max current offset = current := by
  change (if current ≤ offset then offset else current) = current
  split
  · rename_i high
    exact UInt64.le_antisymm low high
  · rfl

theorem get?_record (p : Progress) (c k : Consumer) (offset : UInt64) :
    (p.record c offset).get? k =
      if k = c then some (((p.get? c).map (max · offset)).getD offset) else p.get? k := by
  unfold record
  cases found : p.get? c with
  | none =>
      rw [Roster.get?_insert]
      rfl
  | some current =>
      rw [Roster.get?_insert]
      rfl

/-- A record that is not above the progress of its consumer changes nothing. -/
theorem record_of_le {p : Progress} {c : Consumer} {current offset : UInt64}
    (found : p.get? c = some current) (low : offset ≤ current) : p.record c offset = p := by
  refine Roster.ext_get? fun k => ?_
  rw [get?_record, found, Option.map_some, Option.getD_some, max_of_le low]
  split
  · rename_i same
    rw [same, found]
  · rfl

theorem get?_rewind (p : Progress) (c k : Consumer) (offset : Option UInt64) :
    (p.rewind c offset).get? k = if k = c then offset else p.get? k := by
  cases offset with
  | none => exact Roster.get?_erase p c k
  | some offset => exact Roster.get?_insert p c k offset

theorem ofRecords_append_singleton (records : List ProgressRecord) (r : ProgressRecord) :
    ofRecords (records ++ [r]) = (ofRecords records).apply r := by
  rw [ofRecords, List.foldl_append]
  rfl

/-! ## Counts -/

/-- How many events a consumer has acknowledged: one more than its recorded offset. -/
def count (p : Progress) (c : Consumer) : Nat :=
  ((p.get? c).map fun offset => offset.toNat + 1).getD 0

theorem count_ack (p : Progress) (c k : Consumer) (offset : UInt64) :
    (p.apply (.ack k offset)).count c =
      if k = c then max (p.count c) (offset.toNat + 1) else p.count c := by
  rw [count, apply, get?_record]
  by_cases same : k = c
  · subst same
    rw [if_pos rfl, if_pos rfl, count]
    cases p.get? k with
    | none => simp
    | some current =>
        simp only [Option.map_some, Option.getD_some, toNat_max]
        omega
  · rw [if_neg (Ne.symm same), if_neg same, count]

theorem count_rewind (p : Progress) (c k : Consumer) (target : Option UInt64) :
    (p.apply (.rewind k target)).count c =
      if k = c then (target.map fun offset => offset.toNat + 1).getD 0 else p.count c := by
  rw [count, apply, get?_rewind]
  by_cases same : k = c
  · rw [if_pos same.symm, if_pos same]
  · rw [if_neg (Ne.symm same), if_neg same, count]

/-- Records without a rewind of a consumer raise its count to the highest that they acknowledge. -/
theorem le_count_foldl_iff {records : List ProgressRecord} {c : Consumer}
    (raising : ∀ target, .rewind c target ∉ records) (p : Progress) (n : Nat) :
    n ≤ count (records.foldl apply p) c ↔
      n ≤ p.count c ∨ ∃ offset, .ack c offset ∈ records ∧ n ≤ offset.toNat + 1 := by
  induction records generalizing p with
  | nil => simp
  | cons r rest ih =>
      have others : ∀ target, .rewind c target ∉ rest := fun target there =>
        raising target (List.mem_cons_of_mem _ there)
      rw [List.foldl_cons, ih others]
      cases r with
      | ack k offset =>
          rw [count_ack]
          by_cases same : k = c
          · subst same
            have either : n ≤ max (p.count k) (offset.toNat + 1) ↔
                n ≤ p.count k ∨ n ≤ offset.toNat + 1 := by omega
            rw [if_pos rfl, either]
            simp only [List.mem_cons, ProgressRecord.ack.injEq, true_and]
            constructor
            · rintro ((low | high) | ⟨other, there, high⟩)
              · exact .inl low
              · exact .inr ⟨offset, .inl rfl, high⟩
              · exact .inr ⟨other, .inr there, high⟩
            · rintro (low | ⟨other, rfl | there, high⟩)
              · exact .inl (.inl low)
              · exact .inl (.inr high)
              · exact .inr ⟨other, there, high⟩
          · have ne : c ≠ k := Ne.symm same
            rw [if_neg same]
            simp [ne]
      | rewind k target =>
          have ne : ¬ k = c := by
            rintro rfl
            exact raising target List.mem_cons_self
          rw [count_rewind, if_neg ne]
          simp

/-- A rewind sets the count, and records behind it without another rewind raise it. -/
theorem le_count_behind_rewind_iff {front back : List ProgressRecord} {c : Consumer}
    {target : Option UInt64} (raising : ∀ other, .rewind c other ∉ back) (n : Nat) :
    n ≤ (ofRecords (front ++ .rewind c target :: back)).count c ↔
      n ≤ (target.map fun offset => offset.toNat + 1).getD 0 ∨
        ∃ offset, .ack c offset ∈ back ∧ n ≤ offset.toNat + 1 := by
  rw [ofRecords, List.foldl_append, List.foldl_cons, le_count_foldl_iff raising, count_rewind,
    if_pos rfl]

/-- Among any records there is no rewind of a consumer, or a last one. -/
theorem exists_last_rewind (records : List ProgressRecord) (c : Consumer) :
    (∀ target, .rewind c target ∉ records) ∨
      ∃ front target back, records = front ++ .rewind c target :: back ∧
        ∀ other, .rewind c other ∉ back := by
  induction records with
  | nil => exact .inl fun _ there => nomatch there
  | cons r rest ih =>
      rcases ih with raising | ⟨front, target, back, rfl, last⟩
      · by_cases here : ∃ target, r = .rewind c target
        · obtain ⟨target, rfl⟩ := here
          exact .inr ⟨[], target, rest, rfl, raising⟩
        · left
          intro target there
          rcases List.mem_cons.mp there with same | later
          · exact here ⟨target, same.symm⟩
          · exact raising target later
      · exact .inr ⟨r :: front, target, back, rfl, last⟩

end Progress

namespace ProgressStore

variable {disk later : Disk} {directory : String} {store : ProgressStore}
  {journal : Journal ProgressRecord}

/-! ## Stores with a journal -/

/-- The progress that a file's records amount to. -/
def progressIn (bytes : Bytes) : Progress := Progress.ofRecords (Journal.recordsIn bytes)

/-- The store keeps a journal in the directory, and its progress is what the journal's records
amount to. -/
structure Backed (directory : String) (journal : Journal ProgressRecord) (store : ProgressStore)
    (disk : Disk) : Prop where
  journal_eq : store.journal = some journal
  path_eq : journal.path = Path.join directory fileName
  holds : Journal.Holds journal disk (Journal.recordsIn (disk.content journal.file))
  progress_eq : store.progress = progressIn (disk.content journal.file)

/-- Where another file was changed, the store is backed as before. -/
theorem Backed.elsewhere {file : Nat} (h : Backed directory journal store disk)
    (change : Disk.Confined file disk later) (ne : journal.file ≠ file) :
    Backed directory journal store later := by
  have same := change.others _ h.holds.stored ne
  exact ⟨h.journal_eq, h.path_eq, same ▸ h.holds.elsewhere change ne, same ▸ h.progress_eq⟩

/-- Opening gives a store that is backed, whatever bytes the journal was found with. -/
theorem backed_of_openIn (stored : disk.Stored) (h : openIn disk directory = (.ok store, later)) :
    ∃ journal, Backed directory journal store later ∧
      Disk.Confined journal.file disk later := by
  unfold openIn at h
  split at h
  · cases h
  · rename_i opened
    split at h
    · cases h
    · rename_i recovered
      cases h
      obtain ⟨path_eq, holds, confined⟩ := Journal.holds_of_openAt stored opened recovered
      refine ⟨_, ⟨rfl, path_eq, ?_, ?_⟩, confined⟩
      · rw [holds.records_eq]
        exact holds
      · rw [progressIn, holds.records_eq]

/-- Opening a store whose journal is there and has no leftover finds its progress and changes
nothing. -/
theorem openIn_of_reaches {file : Nat}
    (reaches : disk.Reaches (Path.parts (Path.join directory fileName)) file)
    (stored : file < disk.contents.length) (whole : Frame.leftover (disk.content file) = []) :
    ∃ journal store, openIn disk directory = (.ok store, disk) ∧
      Backed directory journal store disk ∧ journal.file = file := by
  have attached : Journal.Attached
      (⟨Path.join directory fileName, file, (disk.content file).length⟩ : Journal ProgressRecord)
      disk := ⟨reaches, stored, rfl⟩
  refine ⟨_, { journal := some _, progress := progressIn (disk.content file) }, ?_,
    ⟨rfl, rfl, ⟨attached, whole, rfl⟩, rfl⟩, rfl⟩
  rw [openIn, Journal.openAt_of_reaches reaches]
  dsimp only
  rw [Journal.recover_whole attached whole]
  rfl

/-- Opening a store that was backed finds the same journal and the same progress. -/
theorem Backed.openIn_eq (h : Backed directory journal store disk) :
    openIn disk directory = (.ok store, disk) := by
  obtain ⟨opening, recovered⟩ := h.holds.reopen
  rw [h.path_eq] at opening
  rw [openIn, opening]
  dsimp only
  rw [recovered]
  dsimp only
  rw [← h.journal_eq]
  exact congrArg (fun progress => (Except.ok { store with progress }, disk)) h.progress_eq.symm

/-- Opening a store where its journal is missing makes an empty one. -/
theorem openIn_of_vacant {place : List String}
    (resolved : disk.resolve (Path.parts (Path.join directory fileName)) = .ok place)
    (free : disk.find? place = none) :
    ∃ journal, openIn disk directory = (.ok { journal := some journal }, disk.newFile place) ∧
      Backed directory journal { journal := some journal } (disk.newFile place) ∧
      Disk.Confined journal.file disk (disk.newFile place) ∧
      journal = ⟨Path.join directory fileName, disk.contents.length, 0⟩ := by
  have holds := Journal.holds_newFile (α := ProgressRecord) resolved free
  have opening := Journal.openAt_of_vacant (α := ProgressRecord) resolved free
  have records := holds.records_eq
  refine ⟨_, ?_, ⟨rfl, rfl, ?_, ?_⟩, (Journal.ready_of_openAt opening).toConfined, rfl⟩
  · rw [openIn, opening]
    dsimp only
    rw [holds.reopen.2]
    rfl
  · rw [records]
    exact holds
  · rw [progressIn, records]
    rfl

/-! ## Changes -/

/-- Whatever journal a store keeps, a record is never too large for it. -/
theorem apply_taken (store : ProgressStore) (disk : Disk) (r : ProgressRecord) :
    ∃ kept later, store.apply disk r = (.ok (), kept, later) := by
  unfold apply
  cases store.journal with
  | none => exact ⟨_, _, rfl⟩
  | some journal =>
      dsimp only
      rw [Journal.append, if_neg (Nat.not_le.mpr r.fits)]
      exact ⟨_, _, rfl⟩

theorem record_taken (store : ProgressStore) (disk : Disk) (c : Consumer) (offset : UInt64) :
    ∃ kept later, store.record disk c offset = (.ok (), kept, later) := by
  unfold record
  cases store.progress.get? c with
  | none => exact apply_taken store disk _
  | some current =>
      dsimp only
      split
      · exact ⟨_, _, rfl⟩
      · exact apply_taken store disk _

theorem record_ne_error (store : ProgressStore) (disk : Disk) (c : Consumer) (offset : UInt64)
    {cause : StoreError} {failed : ProgressStore × Disk} :
    store.record disk c offset ≠ (.error cause, failed) := by
  obtain ⟨kept, later, taken⟩ := store.record_taken disk c offset
  rw [taken]
  exact nofun

/-- A record is written and applied, and never refused. -/
theorem apply_ok (h : Backed directory journal store disk) (r : ProgressRecord) :
    ∃ grown later, store.apply disk r =
        (.ok (), { journal := some grown, progress := store.progress.apply r }, later) ∧
      Disk.OnlyIn journal.file disk later ∧ grown.file = journal.file ∧
      Backed directory grown { journal := some grown, progress := store.progress.apply r }
        later := by
  obtain ⟨later, appended, change, -, holds⟩ := Journal.append_ok h.holds r.fits.recoverable
  have records : Journal.recordsIn (later.content journal.file) =
      Journal.recordsIn (disk.content journal.file) ++ [r] := holds.records_eq
  refine ⟨{ journal with length := journal.length + (Frame.ofRecord r).size }, later, ?_, change,
    rfl, rfl, h.path_eq, ?_, ?_⟩
  · rw [apply, h.journal_eq]
    dsimp only
    rw [appended]
  · rw [← records] at holds
    exact holds
  · rw [progressIn]
    dsimp only
    rw [records, Progress.ofRecords_append_singleton, h.progress_eq, progressIn]

/-- Recording raises the progress of one consumer, where it is lower. -/
theorem record_ok (h : Backed directory journal store disk) (c : Consumer) (offset : UInt64) :
    ∃ grown raised later, store.record disk c offset = (.ok (), raised, later) ∧
      Disk.OnlyIn journal.file disk later ∧ grown.file = journal.file ∧
      Backed directory grown raised later ∧
      ∀ k, raised.progress.get? k =
        if k = c then some (((store.progress.get? c).map (max · offset)).getD offset)
        else store.progress.get? k := by
  unfold record
  split
  · obtain ⟨grown, later, applied, change, file, backed⟩ := apply_ok h (.ack c offset)
    exact ⟨grown, _, later, applied, change, file, backed,
      fun k => Progress.get?_record store.progress c k offset⟩
  · rename_i current found
    split
    · rename_i low
      refine ⟨journal, store, disk, rfl, Disk.OnlyIn.refl _ _, rfl, h, ?_⟩
      intro k
      split
      · rename_i same
        rw [same, found, Option.map_some, Option.getD_some, Progress.max_of_le low]
      · rfl
    · obtain ⟨grown, later, applied, change, file, backed⟩ := apply_ok h (.ack c offset)
      exact ⟨grown, _, later, applied, change, file, backed,
        fun k => Progress.get?_record store.progress c k offset⟩

/-- The store without its journal. -/
def unbacked (store : ProgressStore) : ProgressStore := { store with journal := none }

/-- Recording does to the store what it does to the same store in memory. -/
theorem record_unbacked (h : Backed directory journal store disk) (c : Consumer) (offset : UInt64)
    (other : Disk) :
    ∃ raised later, store.record disk c offset = (.ok (), raised, later) ∧
      store.unbacked.record other c offset = (.ok (), raised.unbacked, other) := by
  obtain ⟨grown, later, applied, -⟩ := apply_ok h (.ack c offset)
  have same : store.unbacked.progress = store.progress := rfl
  unfold record
  rw [same]
  cases store.progress.get? c with
  | none => exact ⟨_, later, applied, rfl⟩
  | some current =>
      dsimp only
      by_cases low : offset ≤ current
      · rw [if_pos low, if_pos low]
        exact ⟨store, disk, rfl, rfl⟩
      · rw [if_neg low, if_neg low]
        exact ⟨_, later, applied, rfl⟩

/-- Rewinding sets the progress of one consumer, or forgets it. -/
theorem rewind_ok (h : Backed directory journal store disk) (c : Consumer)
    (offset : Option UInt64) :
    ∃ grown rewound later, store.rewind disk c offset = (.ok (), rewound, later) ∧
      Disk.OnlyIn journal.file disk later ∧ grown.file = journal.file ∧
      Backed directory grown rewound later ∧
      ∀ k, rewound.progress.get? k = if k = c then offset else store.progress.get? k := by
  obtain ⟨grown, later, applied, change, file, backed⟩ := apply_ok h (.rewind c offset)
  exact ⟨grown, _, later, applied, change, file, backed,
    fun k => Progress.get?_rewind store.progress c k offset⟩

end ProgressStore
end ChangeLog
