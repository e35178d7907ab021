/-
  Acknowledgements over any sink, and over a progress store that keeps a journal. What a consumer has
  acknowledged is read off its slot, and its slot is where it resumes. Two lemmas say all that can
  happen: taking over recorded progress settles each offset at the end of the log, if it is not in
  front of it (`recover_holds`), and an acknowledgement does one of four things
  (`acknowledge_cases`). Over a journal slots and recorded progress agree: a slot is one more than
  the recorded offset. Taking over makes them agree (`recover_ok`); acknowledging keeps them so
  (`acknowledge_ok`).
-/
import ChangeLog.Proofs.Store.Progress
import ChangeLog.Acks

namespace ChangeLog.Acks

variable {disk : Disk} {directory : String} {store : ProgressStore}
  {journal : Journal ProgressRecord} {acks : Acks}

/-- The offset behind one that is not the last of all. -/
theorem toNat_add_one {offset : UInt64} (h : offset.toNat + 1 < UInt64.size) :
    (offset + 1).toNat = offset.toNat + 1 := by
  rw [UInt64.toNat_add]
  exact Nat.mod_eq_of_lt h

/-- An offset in front of another one is not the last of all. -/
theorem add_one_lt_of_lt {offset next : UInt64} (h : offset < next) :
    offset.toNat + 1 < UInt64.size := by
  have next_lt : next.toNat < UInt64.size := next.toNat_lt
  have lt := UInt64.lt_iff_toNat_lt.mp h
  omega

theorem toNat_add_one_of_lt {offset next : UInt64} (h : offset < next) :
    (offset + 1).toNat = offset.toNat + 1 := toNat_add_one (add_one_lt_of_lt h)

/-- The offset in front of one that is not the first of all. -/
theorem toNat_sub_one {offset : UInt64} (nonzero : offset ≠ 0) :
    (offset - 1).toNat + 1 = offset.toNat := by
  have positive : offset.toNat ≠ 0 := fun zero => nonzero (UInt64.toNat_inj.mp zero)
  have one_le : (1 : UInt64) ≤ offset := by
    rw [UInt64.le_iff_toNat_le, UInt64.toNat_one]
    omega
  rw [UInt64.toNat_sub_of_le _ _ one_le, UInt64.toNat_one]
  omega

/-! ## Slots -/

@[simp] theorem slot_insert (acks : Acks) (c k : Consumer) (s : UInt64) :
    slot ⟨acks.slots.insert c s⟩ k = if k = c then s else acks.slot k := by
  rw [slot, Roster.get?_insert]
  split <;> rfl

/-- Making a slot changes no slot's number: one that is missing counts as 0. -/
@[simp] theorem slot_reserve (acks : Acks) (c k : Consumer) :
    (acks.reserve c).slot k = acks.slot k := by
  unfold reserve
  split
  · rename_i missing
    rw [slot_insert]
    split
    · rename_i same
      rw [same, slot, missing]
      rfl
    · rfl
  · rfl

/-- A slot that was just made is overwritten like any other. -/
theorem insert_reserve (acks : Acks) (c : Consumer) (s : UInt64) :
    (acks.reserve c).slots.insert c s = acks.slots.insert c s := by
  unfold reserve
  split
  · refine Roster.ext_get? fun k => ?_
    rw [Roster.get?_insert, Roster.get?_insert, Roster.get?_insert]
    split <;> rfl
  · rfl

/-- Acknowledgements are decided by their slots. -/
theorem ext_slots {others : Acks} (same : ∀ k, others.slots.get? k = acks.slots.get? k) :
    others = acks := by
  obtain ⟨slots⟩ := acks
  obtain ⟨slots'⟩ := others
  exact congrArg mk (Roster.ext_get? same)

/-- What a consumer has acknowledged can be read off its slot. -/
theorem progress_eq (acks : Acks) (c : Consumer) :
    acks.progress c = acknowledged (acks.slot c) := by
  rw [progress, slot]
  cases acks.slots.get? c <;> rfl

@[simp] theorem progress_reserve (acks : Acks) (c k : Consumer) :
    (acks.reserve c).progress k = acks.progress k := by
  rw [progress_eq, progress_eq, slot_reserve]

theorem reserve_of_progress {c : Consumer} {offset : UInt64} (h : acks.progress c = some offset) :
    acks.reserve c = acks := by
  rw [progress] at h
  cases found : acks.slots.get? c with
  | none =>
      rw [found] at h
      cases h
  | some s => rw [reserve, found]

/-- A slot stands for an offset if it is one more than it. -/
theorem acknowledged_eq_some_iff {s offset : UInt64} :
    acknowledged s = some offset ↔ s.toNat = offset.toNat + 1 := by
  unfold acknowledged
  by_cases zero : s = 0
  · rw [if_pos zero, zero, UInt64.toNat_zero]
    constructor <;> intro h <;> cases h
  · have less := toNat_sub_one zero
    rw [if_neg zero, Option.some_inj, ← UInt64.toNat_inj]
    omega

theorem acknowledged_eq_none_iff {s : UInt64} : acknowledged s = none ↔ s = 0 := by
  unfold acknowledged
  split
  · rename_i zero
    exact ⟨fun _ => zero, fun _ => rfl⟩
  · rename_i nonzero
    exact ⟨fun h => (nomatch h), fun zero => absurd zero nonzero⟩

/-- A slot holds the offset at which its consumer resumes. -/
theorem resumeOffset_eq (acks : Acks) (c : Consumer) : acks.resumeOffset c = acks.slot c := by
  rw [resumeOffset, progress_eq, acknowledged]
  by_cases zero : acks.slot c = 0
  · rw [if_pos zero, zero]
  · rw [if_neg zero]
    exact UInt64.sub_add_cancel ..

theorem progress_eq_some_iff {c : Consumer} {offset : UInt64} :
    acks.progress c = some offset ↔ (acks.slot c).toNat = offset.toNat + 1 := by
  rw [progress_eq, acknowledged_eq_some_iff]

/-- A slot that is not lowered keeps its consumer's progress, or raises it. -/
theorem exists_progress_of_slot_le {raised : Acks} {c : Consumer} {offset : UInt64}
    (le : acks.slot c ≤ raised.slot c) (shown : acks.progress c = some offset) :
    ∃ higher, raised.progress c = some higher ∧ offset ≤ higher := by
  have before := progress_eq_some_iff.mp shown
  have le := UInt64.le_iff_toNat_le.mp le
  cases after : raised.progress c with
  | none =>
      rw [progress_eq, acknowledged_eq_none_iff] at after
      rw [after, UInt64.toNat_zero] at le
      omega
  | some higher =>
      have after := progress_eq_some_iff.mp after
      exact ⟨higher, rfl, UInt64.le_iff_toNat_le.mpr (by omega)⟩

/-- Setting a slot to one past an offset acknowledges the offset. -/
theorem progress_insert {offset : UInt64} (h : offset.toNat + 1 < UInt64.size) (acks : Acks)
    (c k : Consumer) : progress ⟨acks.slots.insert c (offset + 1)⟩ k =
      if k = c then some offset else acks.progress k := by
  rw [progress_eq, slot_insert]
  split
  · rw [acknowledged_eq_some_iff, toNat_add_one h]
  · rw [progress_eq]

/-- Slots that are one more than recorded offsets show what is recorded. -/
theorem progress_of_slots {c : Consumer} {recorded : Option UInt64}
    (slots : acks.slots.get? c = recorded.map (· + 1))
    (bound : ∀ offset, recorded = some offset → offset.toNat + 1 < UInt64.size) :
    acks.progress c = recorded := by
  cases recorded with
  | none =>
      rw [progress, slots]
      rfl
  | some offset =>
      rw [progress_eq_some_iff, slot, slots]
      exact toNat_add_one (bound offset rfl)

/-! ## Every consumer -/

theorem sorted_all (acks : Acks) : Roster.Sorted acks.all :=
  Roster.sorted_filterMap acknowledged acks.slots.sorted

theorem lookup_all (acks : Acks) (c : Consumer) : acks.all.lookup c = acks.progress c :=
  Roster.lookup_filterMap acknowledged acks.slots.sorted c

/-- The list of all progress is decided by each consumer's. -/
theorem all_eq_of_progress {entries : List (Consumer × UInt64)} (sorted : Roster.Sorted entries)
    (same : ∀ c, acks.progress c = entries.lookup c) : acks.all = entries :=
  Roster.eq_of_lookup_eq acks.sorted_all sorted fun c => (acks.lookup_all c).trans (same c)

theorem tracked_eq (acks : Acks) : acks.tracked = acks.all.length := by
  unfold tracked all
  rw [List.length_filterMap_eq_countP, ← List.countP_eq_length_filter]
  refine List.countP_congr fun entry _ => ?_
  rw [decide_eq_true_iff, Option.isSome_map, Option.isSome_iff_ne_none, gt_iff_lt,
    UInt64.pos_iff_ne_zero, ne_eq, ne_eq, acknowledged_eq_none_iff]

/-! ## Taking over recorded progress -/

/-- What a log that ends at `next` leaves of a recorded offset. -/
def settled (next offset : UInt64) : Option UInt64 :=
  if offset < next then some offset else if next = 0 then none else some (next - 1)

theorem lt_of_settled {next offset kept : UInt64} (h : settled next offset = some kept) :
    kept ≤ offset ∧ kept < next := by
  unfold settled at h
  split at h
  · rename_i inside
    cases h
    exact ⟨UInt64.le_refl _, inside⟩
  · rename_i outside
    split at h
    · cases h
    · rename_i nonzero
      cases h
      have less := toNat_sub_one nonzero
      rw [UInt64.lt_iff_toNat_lt] at outside
      rw [UInt64.le_iff_toNat_le, UInt64.lt_iff_toNat_lt]
      omega

/-- What is settled ends where the log ends, if not before. -/
theorem toNat_settled (next offset : UInt64) :
    (((settled next offset).map (· + 1)).getD 0).toNat = min (offset.toNat + 1) next.toNat := by
  unfold settled
  by_cases inside : offset < next
  · have lt := UInt64.lt_iff_toNat_lt.mp inside
    rw [if_pos inside, Option.map_some, Option.getD_some, toNat_add_one_of_lt inside]
    omega
  · have le := UInt64.le_iff_toNat_le.mp (UInt64.not_lt.mp inside)
    rw [if_neg inside]
    by_cases zero : next = 0
    · rw [if_pos zero, zero]
      rfl
    · rw [if_neg zero, Option.map_some, Option.getD_some, UInt64.sub_add_cancel]
      omega

/-- Where a consumer resumes when its recorded progress was settled. -/
theorem toNat_resumeOffset {p : Progress} {next : UInt64} {c : Consumer}
    (settling : acks.slots.get? c = ((p.get? c).bind (settled next)).map (· + 1)) :
    (acks.resumeOffset c).toNat = min (p.count c) next.toNat := by
  rw [resumeOffset_eq, slot, settling, Progress.count]
  cases p.get? c with
  | none => exact (Nat.zero_min _).symm
  | some offset => exact toNat_settled next offset

section Sink

variable {σ : Type} [ProgressSink σ] {Holds : σ → Progress → Prop} {sink : σ} {p : Progress}

/-- A relation between sinks and the progress that they hold: it is what a sink loads, and rewinding
changes it as asked, or fails and leaves it. -/
structure Tracks (Holds : σ → Progress → Prop) : Prop where
  load_eq : ∀ {sink p}, Holds sink p → ProgressSink.load sink = p.entries
  rewind_cases : ∀ {sink p}, Holds sink p → ∀ c offset,
    (∃ cause failed, ProgressSink.rewind sink c offset = (.error cause, failed) ∧ Holds failed p) ∨
    ∃ rewound, ProgressSink.rewind sink c offset = (.ok (), rewound) ∧
      Holds rewound (p.rewind c offset)

/-- The sink, while it held something, failed to rewind, and is what that left. -/
def Failed (Holds : σ → Progress → Prop) (failed : σ) : Prop :=
  ∃ sink p c offset cause, Holds sink p ∧
    ProgressSink.rewind sink c offset = (.error cause, failed)

/-- One consumer's progress is settled, and the others' is left alone; or the sink fails. -/
theorem settle_cons (tracks : Tracks Holds) (held : Holds sink p) {c : Consumer} {offset : UInt64}
    (recorded : p.get? c = some offset) (unseen : acks.slots.get? c = none) (next : UInt64)
    (rest : List (Consumer × UInt64)) :
    (∃ fault failed, settle next ((c, offset) :: rest) acks sink = (.error fault, failed) ∧
      Failed Holds failed) ∨
    ∃ taken later q, settle next ((c, offset) :: rest) acks sink = settle next rest taken later ∧
      Holds later q ∧
      (∀ k, q.get? k = if k = c then settled next offset else p.get? k) ∧
      ∀ k, taken.slots.get? k =
        if k = c then (settled next offset).map (· + 1) else acks.slots.get? k := by
  rw [settle]
  by_cases inside : offset < next
  · right
    rw [if_pos inside, settled, if_pos inside]
    refine ⟨_, sink, p, rfl, held, ?_, fun k => Roster.get?_insert _ _ _ _⟩
    intro k
    split
    · rename_i same
      rw [same, recorded]
    · rfl
  · rw [if_neg inside, settled, if_neg inside]
    dsimp only
    rcases tracks.rewind_cases held c (if next = 0 then none else some (next - 1)) with
      ⟨cause, failed, refused, -⟩ | ⟨rewound, rewinding, kept⟩
    · left
      rw [refused]
      exact ⟨_, failed, rfl, sink, p, c, _, cause, held, refused⟩
    · right
      rw [rewinding]
      dsimp only
      have found := fun k => Progress.get?_rewind p c k (if next = 0 then none else some (next - 1))
      by_cases empty : next = 0
      · rw [if_pos empty] at found kept ⊢
        refine ⟨acks, rewound, _, rfl, kept, found, ?_⟩
        intro k
        split
        · rename_i same
          rw [same, unseen]
          rfl
        · rfl
      · rw [if_neg empty] at found kept ⊢
        exact ⟨_, rewound, _, rfl, kept, found, fun k => Roster.get?_insert _ _ _ _⟩

/-- All progress that is listed is settled, or the sink fails. -/
theorem settle_holds (tracks : Tracks Holds) (held : Holds sink p)
    {entries : List (Consumer × UInt64)} (sorted : Roster.Sorted entries)
    (recorded : ∀ c offset, entries.lookup c = some offset → p.get? c = some offset)
    (unseen : ∀ c offset, entries.lookup c = some offset → acks.slots.get? c = none)
    (next : UInt64) :
    (∃ fault failed, settle next entries acks sink = (.error fault, failed) ∧
      Failed Holds failed) ∨
    ∃ taken later q, settle next entries acks sink = (.ok taken, later) ∧ Holds later q ∧
      (∀ k, q.get? k = ((entries.lookup k).map (settled next)).getD (p.get? k)) ∧
      ∀ k, taken.slots.get? k =
        ((entries.lookup k).map fun offset => (settled next offset).map (· + 1)).getD
          (acks.slots.get? k) := by
  induction entries generalizing sink p acks with
  | nil => exact .inr ⟨acks, sink, p, rfl, held, fun _ => rfl, fun _ => rfl⟩
  | cons entry rest ih =>
      obtain ⟨c, offset⟩ := entry
      -- Nobody is listed twice, so that settling the first leaves the rest as it was.
      have absent := Roster.lookup_eq_none_of_lt (List.pairwise_cons.mp sorted).1
      have here : ((c, offset) :: rest).lookup c = some offset := by
        rw [Roster.lookup_cons_ite, if_pos rfl]
      have there : ∀ k other, rest.lookup k = some other →
          k ≠ c ∧ ((c, offset) :: rest).lookup k = some other := by
        intro k other found
        have ne : k ≠ c := by
          rintro rfl
          rw [absent] at found
          cases found
        exact ⟨ne, by rw [Roster.lookup_cons_ite, if_neg ne, found]⟩
      rcases settle_cons tracks held (recorded c offset here) (unseen c offset here) next rest with
        refused | ⟨halfway, middle, between, first, kept, progress, slots⟩
      · exact .inl refused
      rw [first]
      rcases ih kept (List.pairwise_cons.mp sorted).2
          (by
            intro k other found
            obtain ⟨ne, all⟩ := there k other found
            rw [progress, if_neg ne, recorded k other all])
          (by
            intro k other found
            obtain ⟨ne, all⟩ := there k other found
            rw [slots, if_neg ne, unseen k other all]) with
        refused | ⟨taken, later, q, others, kept', progress', slots'⟩
      · exact .inl refused
      refine .inr ⟨taken, later, q, others, kept', ?_, ?_⟩
      · intro k
        rw [progress', progress, Roster.lookup_cons_ite]
        split
        · rename_i same
          rw [same, absent]
          rfl
        · rfl
      · intro k
        rw [slots', slots, Roster.lookup_cons_ite]
        split
        · rename_i same
          rw [same, absent]
          rfl
        · rfl

/-- Taking over what a sink has recorded: the sink fails, or all progress is settled and each slot
is one more than it. -/
theorem recover_holds (tracks : Tracks Holds) (held : Holds sink p) (next : UInt64) :
    (∃ fault failed, recover sink next = (.error fault, failed) ∧ Failed Holds failed) ∨
    ∃ taken later q, recover sink next = (.ok taken, later) ∧ Holds later q ∧
      (∀ k, q.get? k = (p.get? k).bind (settled next)) ∧
      ∀ k, taken.slots.get? k = (q.get? k).map (· + 1) := by
  have unseen : ∀ c offset, p.entries.lookup c = some offset →
      ({} : Acks).slots.get? c = none := fun _ _ _ => rfl
  rw [recover, tracks.load_eq held]
  rcases settle_holds tracks held p.sorted (fun _ _ found => found) unseen next with
    refused | ⟨taken, later, q, settling, kept, progress, slots⟩
  · exact .inl refused
  have q_eq : ∀ k, q.get? k = (p.get? k).bind (settled next) := by
    intro k
    rw [progress]
    change ((p.get? k).map _).getD _ = _
    cases p.get? k <;> rfl
  refine .inr ⟨taken, later, q, settling, kept, q_eq, ?_⟩
  intro k
  rw [slots, q_eq]
  change ((p.get? k).map _).getD _ = _
  cases p.get? k <;> rfl

/-- Where taking over succeeds, what is taken over is what the sink is left with: all progress,
settled. -/
theorem recover_progress (tracks : Tracks Holds) (held : Holds sink p) {next : UInt64}
    {taken : Acks} {later : σ} (recovering : recover sink next = (.ok taken, later)) :
    ∃ q, Holds later q ∧ (∀ k, q.get? k = (p.get? k).bind (settled next)) ∧
      (∀ k, taken.slots.get? k = (q.get? k).map (· + 1)) ∧ ∀ k, taken.progress k = q.get? k := by
  rcases recover_holds tracks held next with
    ⟨fault, failed, refused, -⟩ | ⟨taken', later', q, taking, kept, settling, slots⟩
  · rw [recovering] at refused
    cases refused
  · rw [recovering] at taking
    cases taking
    refine ⟨q, kept, settling, slots, fun k => progress_of_slots (slots k) ?_⟩
    intro offset found
    rw [settling] at found
    obtain ⟨old, -, kept⟩ := Option.bind_eq_some_iff.mp found
    exact add_one_lt_of_lt (lt_of_settled kept).2

/-- Whatever a sink does when it is asked to rewind: settling sets no slot past the end. -/
theorem slot_settle_le {next : UInt64} {entries : List (Consumer × UInt64)} {taken : Acks}
    {later : σ} (bounded : ∀ k, acks.slot k ≤ next)
    (settling : settle next entries acks sink = (.ok taken, later)) (k : Consumer) :
    taken.slot k ≤ next := by
  induction entries generalizing acks sink with
  | nil =>
      cases settling
      exact bounded k
  | cons entry rest ih =>
      obtain ⟨c, offset⟩ := entry
      -- Whichever offset is kept lies in front of the end, so that its slot is the end at most.
      have bounded' : ∀ kept, kept < next →
          ∀ k, slot ⟨acks.slots.insert c (kept + 1)⟩ k ≤ next := by
        intro kept inside k
        rw [slot_insert]
        split
        · exact UInt64.le_iff_toNat_le.mpr (toNat_add_one_of_lt inside ▸
            UInt64.lt_iff_toNat_lt.mp inside)
        · exact bounded k
      rw [settle] at settling
      split at settling
      · rename_i inside
        exact ih (bounded' offset inside) settling
      · rename_i outside
        dsimp only at settling
        split at settling
        · cases settling
        · by_cases empty : next = 0
          · rw [if_pos empty] at settling
            exact ih bounded settling
          · rw [if_neg empty] at settling
            have last : settled next offset = some (next - 1) := by
              rw [settled, if_neg outside, if_neg empty]
            exact ih (bounded' (next - 1) (lt_of_settled last).2) settling

/-- Nobody resumes past the end of the log behind taking over what a sink has recorded. -/
theorem slot_recover_le {next : UInt64} {taken : Acks} {later : σ}
    (recovering : recover sink next = (.ok taken, later)) (k : Consumer) : taken.slot k ≤ next :=
  slot_settle_le (fun _ => UInt64.zero_le ..) recovering k

end Sink

/-- The store holds this progress in its journal, which is on a disk that was changed in one file
only. -/
def InJournal (directory : String) (file : Nat) (before : Disk) :
    ProgressStore × Disk → Progress → Prop
  | (store, disk), p => store.progress = p ∧ Disk.OnlyIn file before disk ∧
    ∃ journal, journal.file = file ∧ ProgressStore.Backed directory journal store disk

theorem tracks_inJournal (directory : String) (file : Nat) (before : Disk) :
    Tracks (InJournal directory file before) := by
  refine ⟨?_, ?_⟩
  · rintro ⟨store, disk⟩ p ⟨rfl, -⟩
    rfl
  · rintro ⟨store, disk⟩ p ⟨rfl, change, journal, rfl, backed⟩ c offset
    obtain ⟨grown, rewound, later, rewinding, change', file, backed', found⟩ :=
      ProgressStore.rewind_ok backed c offset
    refine .inr ⟨(rewound, later), rewinding, ?_, change.trans change', grown, file, backed'⟩
    exact Roster.ext_get? fun k => (found k).trans (Progress.get?_rewind _ c k offset).symm

/-- Taking over what a store with a journal has recorded never fails, and settles it. -/
theorem recover_settles (h : ProgressStore.Backed directory journal store disk) (next : UInt64) :
    ∃ taken grown kept later, recover (store, disk) next = (.ok taken, kept, later) ∧
      Disk.OnlyIn journal.file disk later ∧ grown.file = journal.file ∧
      ProgressStore.Backed directory grown kept later ∧
      (∀ k, kept.progress.get? k = (store.progress.get? k).bind (settled next)) ∧
      ∀ k, taken.slots.get? k = (kept.progress.get? k).map (· + 1) := by
  have tracks := tracks_inJournal directory journal.file disk
  have held : InJournal directory journal.file disk (store, disk) store.progress :=
    ⟨rfl, Disk.OnlyIn.refl _ _, journal, rfl, h⟩
  rcases recover_holds tracks held next with
    ⟨fault, failed, -, middle, p, c, offset, cause, ⟨-, -, other, -, backed⟩, refused⟩ |
      ⟨taken, ⟨kept, later⟩, q, recovering, ⟨rfl, change, grown, file, backed⟩, progress, slots⟩
  · obtain ⟨grown, rewound, later, rewinding, -⟩ := ProgressStore.rewind_ok backed c offset
    have sink : ProgressSink.rewind (middle.1, middle.2) c offset = (.ok (), rewound, later) :=
      rewinding
    rw [sink] at refused
    cases refused
  · exact ⟨taken, grown, kept, later, recovering, change, file, backed, progress, slots⟩

/-- Taking over what a store has recorded never fails. Afterwards nobody's recorded offset is higher
than before, or at or past the end of the log, and each slot is one more than it. -/
theorem recover_ok (h : ProgressStore.Backed directory journal store disk) (next : UInt64) :
    ∃ taken grown kept later, recover (store, disk) next = (.ok taken, kept, later) ∧
      Disk.OnlyIn journal.file disk later ∧ grown.file = journal.file ∧
      ProgressStore.Backed directory grown kept later ∧
      (∀ k, taken.slots.get? k = (kept.progress.get? k).map (· + 1)) ∧
      ∀ k offset, kept.progress.get? k = some offset → offset < next ∧
        ∃ old, store.progress.get? k = some old ∧ offset ≤ old := by
  obtain ⟨taken, grown, kept, later, recovering, change, file, backed, progress, slots⟩ :=
    recover_settles h next
  refine ⟨taken, grown, kept, later, recovering, change, file, backed, slots, ?_⟩
  intro k offset found
  rw [progress] at found
  obtain ⟨old, before, after⟩ := Option.bind_eq_some_iff.mp found
  obtain ⟨le, lt⟩ := lt_of_settled after
  exact ⟨lt, old, before, le⟩

/-- What lies in front of the end of the log is taken over and not recorded again, whatever the sink
is. -/
theorem settle_of_lt {next : UInt64} {entries : List (Consumer × UInt64)}
    (inside : ∀ e ∈ entries, e.2 < next) (acks : Acks) :
    ∃ taken, ∀ {σ : Type} [ProgressSink σ] (sink : σ),
      settle next entries acks sink = (.ok taken, sink) := by
  induction entries generalizing acks with
  | nil => exact ⟨acks, fun _ => rfl⟩
  | cons entry rest ih =>
      obtain ⟨taken, unchanged⟩ := ih (fun e he => inside e (List.mem_cons_of_mem _ he))
        ⟨acks.slots.insert entry.1 (entry.2 + 1)⟩
      refine ⟨taken, fun sink => ?_⟩
      rw [settle, if_pos (inside entry List.mem_cons_self)]
      exact unchanged sink

/-- Where all recorded offsets lie in front of the end of the log, taking them over gives the slots
that agree with them, and changes nothing. -/
theorem recover_of_lt (h : ProgressStore.Backed directory journal store disk)
    (slots : ∀ k, acks.slots.get? k = (store.progress.get? k).map (· + 1)) {next : UInt64}
    (inside : ∀ k offset, store.progress.get? k = some offset → offset < next) :
    recover (store, disk) next = (.ok acks, store, disk) := by
  have listed : ∀ e ∈ store.progress.entries, e.2 < next := fun e he =>
    inside e.1 e.2 (Roster.lookup_eq_some_of_mem store.progress.sorted he)
  obtain ⟨taken, unchanged⟩ := settle_of_lt listed {}
  have unchanged : recover (store, disk) next = (.ok taken, store, disk) := unchanged (store, disk)
  obtain ⟨same, grown, kept, later, recovering, -, -, -, agree, -⟩ := recover_ok h next
  rw [unchanged] at recovering
  cases recovering
  have equal : taken = acks := ext_slots fun k => (agree k).trans (slots k).symm
  exact equal ▸ unchanged

/-! ## Acknowledging -/

/-- An offset lies behind what the consumer has acknowledged. -/
def Raises (acks : Acks) (c : Consumer) (offset : UInt64) : Prop :=
  ∀ current, acks.progress c = some current → current < offset

theorem raises_iff {c : Consumer} {offset : UInt64} :
    acks.Raises c offset ↔ acks.slot c ≤ offset := by
  rw [UInt64.le_iff_toNat_le]
  constructor
  · intro higher
    cases shown : acks.progress c with
    | none =>
        rw [progress_eq, acknowledged_eq_none_iff] at shown
        rw [shown]
        exact Nat.zero_le _
    | some current =>
        have lower := UInt64.lt_iff_toNat_lt.mp (higher current shown)
        rw [progress_eq_some_iff.mp shown]
        exact lower
  · intro le current shown
    rw [progress_eq_some_iff.mp shown] at le
    exact UInt64.lt_iff_toNat_lt.mpr le

/-- Where what shows is recorded, a store that takes the higher offset takes the new one. -/
theorem Raises.top_eq {c : Consumer} {offset : UInt64} (higher : acks.Raises c offset)
    {recorded : Option UInt64} (shown : acks.progress c = recorded) :
    (recorded.map (max · offset)).getD offset = offset := by
  cases recorded with
  | none => rfl
  | some current => exact if_pos (UInt64.le_of_lt (higher current shown) : current ≤ offset)

section Sink

variable {σ : Type} [ProgressSink σ]

/-- Everything that an acknowledgement can do: it is out of range; or it raises nothing; or the sink
fails, and there is a slot more at most; or the offset is recorded and shows. -/
theorem acknowledge_cases (acks : Acks) (sink : σ) (c : Consumer) (offset next : UInt64) :
    (next ≤ offset ∧
      acknowledge acks sink c offset next = (.error (.outOfRange offset next), acks, sink)) ∨
    (offset < next ∧ ∃ current, acks.progress c = some current ∧ offset ≤ current ∧
      acknowledge acks sink c offset next = (.ok current, acks, sink)) ∨
    (offset < next ∧ acks.Raises c offset ∧
      ((∃ cause failed, ProgressSink.record sink c offset = (.error cause, failed) ∧
          acknowledge acks sink c offset next = (.error (.ofStore cause), acks.reserve c, failed)) ∨
        ∃ recorded, ProgressSink.record sink c offset = (.ok (), recorded) ∧
          acknowledge acks sink c offset next =
            (.ok offset, ⟨acks.slots.insert c (offset + 1)⟩, recorded))) := by
  by_cases outside : next ≤ offset
  · exact .inl ⟨outside, if_pos outside⟩
  have inside := UInt64.not_le.mp outside
  have one_more := toNat_add_one_of_lt inside
  right
  unfold acknowledge
  rw [if_neg outside]
  dsimp only
  rw [slot_reserve]
  by_cases low : offset + 1 ≤ acks.slot c
  · left
    rw [UInt64.le_iff_toNat_le, one_more] at low
    have nonzero : acks.slot c ≠ 0 := by
      intro zero
      rw [zero, UInt64.toNat_zero] at low
      omega
    have shown : acks.progress c = some (acks.slot c - 1) := by
      rw [progress_eq, acknowledged, if_neg nonzero]
    have slot_eq := progress_eq_some_iff.mp shown
    rw [if_pos (UInt64.le_iff_toNat_le.mpr (by rw [one_more]; exact low)),
      reserve_of_progress shown]
    exact ⟨inside, _, shown, UInt64.le_iff_toNat_le.mpr (by omega), rfl⟩
  · right
    have top : max (acks.slot c) (offset + 1) = offset + 1 :=
      if_pos (UInt64.le_of_lt (UInt64.not_le.mp low))
    have higher : acks.Raises c offset := by
      rw [UInt64.le_iff_toNat_le, one_more] at low
      exact raises_iff.mpr (UInt64.le_iff_toNat_le.mpr (by omega))
    refine ⟨inside, higher, ?_⟩
    rw [if_neg low, top, UInt64.add_sub_cancel, insert_reserve]
    cases recording : ProgressSink.record sink c offset with
    | mk result later =>
        cases result with
        | error cause => exact .inl ⟨cause, later, rfl, rfl⟩
        | ok _ => exact .inr ⟨later, rfl, rfl⟩

/-- An acknowledgement lowers no slot, and sets none past the end of the log. -/
theorem slot_acknowledge (acks : Acks) (sink : σ) (c k : Consumer) (offset next : UInt64) :
    acks.slot k ≤ (acknowledge acks sink c offset next).2.1.slot k ∧
      ((acknowledge acks sink c offset next).2.1.slot k = acks.slot k ∨
        (acknowledge acks sink c offset next).2.1.slot k ≤ next) := by
  rcases acknowledge_cases acks sink c offset next with
    ⟨-, refused⟩ | ⟨-, current, -, -, stale⟩ | ⟨inside, higher, outcome⟩
  · rw [refused]
    exact ⟨UInt64.le_refl _, .inl rfl⟩
  · rw [stale]
    exact ⟨UInt64.le_refl _, .inl rfl⟩
  · rcases outcome with ⟨cause, failed, -, refused⟩ | ⟨recorded, -, raised⟩
    · rw [refused]
      dsimp only
      rw [slot_reserve]
      exact ⟨UInt64.le_refl _, .inl rfl⟩
    · rw [raised]
      dsimp only
      rw [slot_insert]
      split
      · rename_i same
        have le := UInt64.le_iff_toNat_le.mp (raises_iff.mp higher)
        rw [same, UInt64.le_iff_toNat_le, UInt64.le_iff_toNat_le, toNat_add_one_of_lt inside]
        exact ⟨Nat.le_succ_of_le le, .inr (UInt64.lt_iff_toNat_lt.mp inside)⟩
      · exact ⟨UInt64.le_refl _, .inl rfl⟩

end Sink

/-- An acknowledgement. Recorded offsets are as before, but for the one just acknowledged, and slots
go on agreeing with them. -/
theorem acknowledge_ok (h : ProgressStore.Backed directory journal store disk)
    (slots : ∀ k, acks.slots.get? k = (store.progress.get? k).map (· + 1))
    (bound : ∀ k offset, store.progress.get? k = some offset → offset.toNat + 1 < UInt64.size)
    (c : Consumer) (offset next : UInt64) :
    ∃ result raised grown kept later,
      acknowledge acks (store, disk) c offset next = (result, raised, kept, later) ∧
      Disk.OnlyIn journal.file disk later ∧ grown.file = journal.file ∧
      ProgressStore.Backed directory grown kept later ∧
      (∀ k, raised.slots.get? k = (kept.progress.get? k).map (· + 1)) ∧
      ∀ k other, kept.progress.get? k = some other → store.progress.get? k = some other ∨
        (k = c ∧ other = offset ∧ offset < next ∧ ∃ progress, result = .ok progress) := by
  rcases acknowledge_cases acks (store, disk) c offset next with
    ⟨-, refused⟩ | ⟨-, current, -, -, stale⟩ | ⟨inside, higher, outcome⟩
  · exact ⟨_, acks, journal, store, disk, refused, Disk.OnlyIn.refl _ _, rfl, h, slots,
      fun _ _ found => .inl found⟩
  · exact ⟨_, acks, journal, store, disk, stale, Disk.OnlyIn.refl _ _, rfl, h, slots,
      fun _ _ found => .inl found⟩
  · obtain ⟨grown, kept, later, recording, change, file, backed, found⟩ :=
      ProgressStore.record_ok h c offset
    have sink : ProgressSink.record (store, disk) c offset = (.ok (), kept, later) := recording
    rw [sink] at outcome
    rcases outcome with ⟨cause, failed, refused, -⟩ | ⟨recorded, accepted, raised⟩
    · cases refused
    · cases accepted
      rw [higher.top_eq (progress_of_slots (slots c) (bound c))] at found
      refine ⟨_, _, grown, kept, later, raised, change, file, backed, ?_, ?_⟩
      · intro k
        rw [Roster.get?_insert, found, slots]
        split <;> rfl
      · intro k other recorded
        rw [found] at recorded
        split at recorded
        · rename_i same
          cases recorded
          exact .inr ⟨same, rfl, inside, _, rfl⟩
        · exact .inl recorded

/-- An acknowledgement is answered as over the same progress in memory. -/
theorem acknowledge_unbacked (h : ProgressStore.Backed directory journal store disk) (acks : Acks)
    (c : Consumer) (offset next : UInt64) (other : Disk) :
    ∃ result raised kept later,
      acknowledge acks (store, disk) c offset next = (result, raised, kept, later) ∧
      acknowledge acks (store.unbacked, other) c offset next =
        (result, raised, kept.unbacked, other) := by
  obtain ⟨kept, later, recording, recording'⟩ := ProgressStore.record_unbacked h c offset other
  have sink : ProgressSink.record (store, disk) c offset = (.ok (), kept, later) := recording
  have sink' : ProgressSink.record (store.unbacked, other) c offset =
      (.ok (), kept.unbacked, other) := recording'
  unfold acknowledge
  rw [sink, sink']
  by_cases outside : next ≤ offset
  · rw [if_pos outside, if_pos outside]
    exact ⟨_, acks, store, disk, rfl, rfl⟩
  · rw [if_neg outside, if_neg outside]
    dsimp only
    by_cases low : offset + 1 ≤ (acks.reserve c).slot c
    · rw [if_pos low, if_pos low]
      exact ⟨_, acks.reserve c, store, disk, rfl, rfl⟩
    · rw [if_neg low, if_neg low]
      exact ⟨_, _, kept, later, rfl, rfl⟩

end ChangeLog.Acks
