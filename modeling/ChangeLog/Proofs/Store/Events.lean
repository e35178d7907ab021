/-
  Event stores that keep a journal. `Backed` ties such a store to its disk: the journal holds the
  store's events, and these are numbered from 0 without gaps. Opening establishes it
  (`backed_of_openIn`), appending keeps it (`append_ok`), and a backed store that is opened again is
  the same store, only not closed (`Backed.openIn_eq`).
-/
import ChangeLog.Proofs.Journal.Holds
import ChangeLog.Store.Events

namespace ChangeLog

/-! ## Sizes of records -/

/-- Neither the place nor the identifier of an event changes how long its record is. -/
theorem Event.fits_stamp_iff {draft : Draft} {offset other : UInt64} {now : Time.Instant} :
    Journal.Fits (Event.stamp draft offset now) ↔ Journal.Fits (Event.stamp draft other now) := by
  unfold Journal.Fits
  rw [Event.length_write, Event.length_write]
  exact Iff.rfl

namespace EventStore

variable {disk later : Disk} {directory : String} {store : EventStore} {journal : Journal Event}

/-! ## Numbering -/

/-- Every event stands at its own offset. -/
def Numbered (events : List Event) : Prop :=
  ∀ i e, events[i]? = some e → e.offset = UInt64.ofNat i

theorem gap?_eq_none_iff {first : Nat} {events : List Event} :
    gap? (UInt64.ofNat first) events = none ↔
      ∀ i e, events[i]? = some e → e.offset = UInt64.ofNat (first + i) := by
  induction events generalizing first with
  | nil => simp [gap?]
  | cons e rest ih =>
      have next : UInt64.ofNat first + 1 = UInt64.ofNat (first + 1) := by
        rw [UInt64.ofNat_add]
        rfl
      rw [gap?, next]
      constructor
      · intro h i d hd
        split at h
        · rename_i here
          cases i with
          | zero =>
              cases hd
              exact here
          | succ i => rw [ih.mp h i d hd, Nat.add_right_comm, Nat.add_assoc]
        · cases h
      · intro h
        rw [if_pos (show e.offset = UInt64.ofNat first from h 0 e rfl)]
        refine ih.mpr ?_
        intro i d hd
        rw [h (i + 1) d hd, Nat.add_right_comm, Nat.add_assoc]

theorem numbered_iff {events : List Event} : Numbered events ↔ gap? 0 events = none := by
  have from_zero := @gap?_eq_none_iff 0 events
  simp only [Nat.zero_add] at from_zero
  exact from_zero.symm

theorem Numbered.append {events : List Event} (h : Numbered events) {e : Event}
    (last : e.offset = UInt64.ofNat events.length) : Numbered (events ++ [e]) := by
  intro i d hd
  rcases Nat.lt_trichotomy i events.length with lt | rfl | gt
  · rw [List.getElem?_append_left lt] at hd
    exact h i d hd
  · rw [List.getElem?_append_right (Nat.le_refl _), Nat.sub_self] at hd
    cases hd
    exact last
  · rw [List.getElem?_eq_none (by rw [List.length_append, List.length_singleton]; omega)] at hd
    cases hd

/-! ## Stores with a journal -/

/-- The events in a file. -/
def eventsIn (bytes : Bytes) : List Event := Journal.recordsIn bytes

/-- The store keeps a journal in the directory, which holds the store's events. -/
structure Backed (directory : String) (journal : Journal Event) (store : EventStore)
    (disk : Disk) : Prop where
  journal_eq : store.journal = some journal
  path_eq : journal.path = Path.join directory fileName
  holds : Journal.Holds journal disk store.events
  numbered : Numbered store.events

/-- Where another file was changed, the store is backed as before. -/
theorem Backed.elsewhere {file : Nat} (h : Backed directory journal store disk)
    (change : Disk.Confined file disk later) (ne : journal.file ≠ file) :
    Backed directory journal store later :=
  ⟨h.journal_eq, h.path_eq, h.holds.elsewhere change ne, h.numbered⟩

/-- An offset below the next one is the offset of an event, and not the last of all. -/
theorem lt_of_lt_nextOffset {offset : UInt64} (h : offset < store.nextOffset) :
    offset.toNat < store.events.length ∧ offset.toNat + 1 < UInt64.size := by
  have below := UInt64.lt_iff_toNat_lt.mp h
  have next_lt : store.nextOffset.toNat < UInt64.size := store.nextOffset.toNat_lt
  have next_le : store.nextOffset.toNat ≤ store.events.length := Nat.mod_le _ _
  omega

/-- Opening a store whose journal holds these events: a gap in their numbers is reported, and
otherwise they are the store's. -/
theorem openIn_of_holds {events : List Event}
    (path_eq : journal.path = Path.join directory fileName)
    (holds : Journal.Holds journal disk events) :
    openIn disk directory = match gap? 0 events with
      | some (expected, found) =>
        (.error (.offsetGap (Path.join directory fileName) expected found), disk)
      | none => (.ok { journal := some journal, events }, disk) := by
  obtain ⟨opening, recovered⟩ := holds.reopen
  rw [path_eq] at opening
  unfold openIn
  dsimp only
  rw [opening]
  cases found : gap? 0 events with
  | none =>
      dsimp only
      rw [recovered]
      dsimp only
      rw [found]
  | some gap =>
      dsimp only
      rw [recovered]
      dsimp only
      rw [found]

/-- Opening a store that was backed finds the same journal and the same events. -/
theorem Backed.openIn_eq (h : Backed directory journal store disk) :
    openIn disk directory = (.ok { store with isClosed := false }, disk) := by
  rw [openIn_of_holds h.path_eq h.holds, numbered_iff.mp h.numbered]
  dsimp only
  rw [← h.journal_eq]

/-- Opening gives a store that is backed, whatever bytes the journal was found with. -/
theorem backed_of_openIn (stored : disk.Stored) (h : openIn disk directory = (.ok store, later)) :
    ∃ journal, Backed directory journal store later ∧ store.isClosed = false ∧
      Disk.Confined journal.file disk later := by
  unfold openIn at h
  dsimp only at h
  split at h
  · cases h
  · rename_i opened
    split at h
    · cases h
    · rename_i recovered
      split at h
      · cases h
      · rename_i numbered
        cases h
        obtain ⟨path_eq, holds, confined⟩ := Journal.holds_of_openAt stored opened recovered
        exact ⟨_, ⟨rfl, path_eq, holds, numbered_iff.mpr numbered⟩, rfl, confined⟩

/-- Opening a store whose journal is there, whatever its bytes: at most the journal's file is cut,
its events stay, and a store that comes of it is backed. -/
theorem openIn_of_reaches {file : Nat}
    (reaches : disk.Reaches (Path.parts (Path.join directory fileName)) file)
    (stored : file < disk.contents.length) :
    ∃ result later, openIn disk directory = (result, later) ∧ Disk.OnlyIn file disk later ∧
      eventsIn (later.content file) = eventsIn (disk.content file) ∧
      ∀ store, result = .ok store → ∃ journal, Backed directory journal store later ∧
        journal.file = file := by
  have attached : Journal.Attached
      (⟨Path.join directory fileName, file, (disk.content file).length⟩ : Journal Event) disk :=
    ⟨reaches, stored, rfl⟩
  unfold openIn
  dsimp only
  rw [Journal.openAt_of_reaches reaches]
  dsimp only
  by_cases hides : Frame.Hides (Frame.leftover (disk.content file))
  · rw [Journal.recover_corrupt attached.reaches hides]
    refine ⟨_, disk, rfl, Disk.OnlyIn.refl _ _, rfl, ?_⟩
    intro store opened
    cases opened
  · obtain ⟨later, recovered, change, -, holds⟩ := Journal.recover_ok attached hides
    rw [recovered]
    dsimp only
    split
    · refine ⟨_, later, rfl, change, holds.records_eq, ?_⟩
      intro store opened
      cases opened
    · rename_i numbered
      refine ⟨_, later, rfl, change, holds.records_eq, ?_⟩
      intro store opened
      cases opened
      exact ⟨_, ⟨rfl, rfl, holds, numbered_iff.mpr numbered⟩, rfl⟩

/-- What a backed store does with a submitted event. -/
theorem append_ok (h : Backed directory journal store disk) (isOpen : store.isClosed = false)
    {now : Time.Instant} {draft : Draft} {e : Event}
    (stamped : e = Event.stamp draft store.nextOffset now) (fits : Journal.Fits e) :
    ∃ grown later, store.append disk now draft =
        (.ok e, { journal := some grown, events := store.events ++ [e] }, later) ∧
      Disk.OnlyIn journal.file disk later ∧ grown.file = journal.file ∧
      later.content journal.file = disk.content journal.file ++ (Frame.ofRecord e).write ∧
      Backed directory grown { journal := some grown, events := store.events ++ [e] } later := by
  obtain ⟨later, appended, change, content, holds⟩ := Journal.append_ok h.holds fits.recoverable
  have last : e.offset = UInt64.ofNat store.events.length := by
    rw [stamped]
    rfl
  refine ⟨{ journal with length := journal.length + (Frame.ofRecord e).size }, later, ?_, change,
    rfl, content, rfl, h.path_eq, holds, h.numbered.append last⟩
  rw [append, isOpen, if_neg Bool.false_ne_true]
  dsimp only
  rw [← stamped, write, h.journal_eq]
  dsimp only
  rw [appended, ← isOpen]

/-- An event whose record is too large is refused, and nothing is changed. -/
theorem append_tooLarge (h : Backed directory journal store disk)
    (isOpen : store.isClosed = false) {now : Time.Instant} {draft : Draft}
    (large : ¬ Journal.Fits (Event.stamp draft store.nextOffset now)) :
    store.append disk now draft = (.error .recordTooLarge, store, disk) := by
  rw [append, isOpen, if_neg Bool.false_ne_true]
  dsimp only
  rw [write, h.journal_eq]
  dsimp only
  rw [Journal.append_tooLarge large]
  dsimp only
  rw [← h.journal_eq]

/-- Opening a store where its journal is missing makes an empty one. -/
theorem openIn_of_vacant {place : List String}
    (resolved : disk.resolve (Path.parts (Path.join directory fileName)) = .ok place)
    (free : disk.find? place = none) :
    ∃ journal, openIn disk directory = (.ok { journal := some journal }, disk.newFile place) ∧
      Backed directory journal { journal := some journal } (disk.newFile place) ∧
      journal = ⟨Path.join directory fileName, disk.contents.length, 0⟩ := by
  have holds := Journal.holds_newFile (α := Event) resolved free
  refine ⟨_, ?_, ⟨rfl, rfl, holds, numbered_iff.mpr rfl⟩, rfl⟩
  unfold openIn
  dsimp only
  rw [Journal.openAt_of_vacant resolved free]
  dsimp only
  rw [holds.reopen.2]
  rfl

/-- Opening a store on a disk with nothing on it. -/
theorem openIn_blank :
    openIn {} "" = (.ok { journal := some Journal.blank }, Journal.blankDisk) := by
  have resolved : ({} : Disk).resolve (Path.parts (Path.join "" fileName)) = .ok ["events.wal"] :=
    rfl
  obtain ⟨journal, opened, -, rfl⟩ := openIn_of_vacant resolved rfl
  exact opened

end EventStore
end ChangeLog
