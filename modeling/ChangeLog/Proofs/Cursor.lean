/-
  Open cursors and the part of the log that each stands for. `between` is a part of the log by the
  two offsets that bound it; parts that meet can be joined (`between_append`), and a part that ends
  within the log stays the same when the log grows (`between_of_grows`). Slices and replays of a
  store are such parts (`EventStore.slice_eq`, `EventStore.replay_eq`). Each operation changes the
  look-up of one cursor only, and reading hands out the part from the cursor's old position to its
  new one (`Cursors.read_eq`).
-/
import ChangeLog.Cursor
import ChangeLog.Log.Replay
import ChangeLog.Roster

namespace ChangeLog

/-! ## Parts of the log -/

/-- The events from offset `first` up to, but without, `stop`. -/
def between (events : List Event) (first stop : UInt64) : List Event :=
  (events.drop first.toNat).take (stop.toNat - first.toNat)

section Parts

variable {events later : List Event} {first middle stop : UInt64}

theorem between_self (events : List Event) (first : UInt64) : between events first first = [] := by
  rw [between, Nat.sub_self, List.take_zero]

theorem length_between (inside : stop.toNat ≤ events.length) :
    (between events first stop).length = stop.toNat - first.toNat := by
  rw [between, List.length_take, List.length_drop]
  omega

theorem getElem?_between (events : List Event) (first stop : UInt64) (i : Nat) :
    (between events first stop)[i]? =
      if i < stop.toNat - first.toNat then events[first.toNat + i]? else none := by
  rw [between, List.getElem?_take, List.getElem?_drop]

theorem between_append (low : first.toNat ≤ middle.toNat) (high : middle.toNat ≤ stop.toNat) :
    between events first middle ++ between events middle stop = between events first stop := by
  have rest : events.drop middle.toNat =
      (events.drop first.toNat).drop (middle.toNat - first.toNat) := by
    rw [List.drop_drop, Nat.add_sub_of_le low]
  have total : stop.toNat - first.toNat =
      (middle.toNat - first.toNat) + (stop.toNat - middle.toNat) := by omega
  rw [between, between, between, rest, total, List.take_add]

theorem between_of_grows (grows : events <+: later) (inside : stop.toNat ≤ events.length) :
    between later first stop = between events first stop := by
  obtain ⟨more, rfl⟩ := grows
  rw [between, between]
  rcases Nat.le_total first.toNat events.length with le | gt
  · rw [List.drop_append_of_le_length le, List.take_append_of_le_length]
    rw [List.length_drop]
    omega
  · have nothing : stop.toNat - first.toNat = 0 := by omega
    rw [nothing, List.take_zero, List.take_zero]

/-- A slice of an open store, cut to the log. -/
theorem EventStore.slice_eq {store : EventStore} (isOpen : store.isClosed = false)
    (first stop : UInt64) :
    store.slice first stop = .ok (between store.events first (min stop store.nextOffset)) := by
  rw [EventStore.slice, isOpen, if_neg Bool.false_ne_true]
  dsimp only
  split
  · rename_i short
    have le := UInt64.le_iff_toNat_le.mp short
    have nothing : (min stop store.nextOffset).toNat - first.toNat = 0 := by omega
    rw [between, nothing, List.take_zero]
  · rename_i long
    rw [UInt64.not_le] at long
    rw [UInt64.toNat_sub_of_le _ _ (UInt64.le_of_lt long), between]

/-- A store never has fewer events than its next offset. -/
theorem EventStore.toNat_nextOffset_le (store : EventStore) :
    store.nextOffset.toNat ≤ store.events.length := Nat.mod_le _ _

/-- Where offsets can count the events, the next offset is their number. -/
theorem EventStore.toNat_nextOffset {store : EventStore}
    (counted : store.events.length < UInt64.size) :
    store.nextOffset.toNat = store.events.length := UInt64.toNat_ofNat_of_lt' counted

/-- What replaying a range of an open store comes to. No offset in front of the end is the last of
all, so that there is always one behind it to stop at. -/
theorem EventStore.replay_eq {store : EventStore} (isOpen : store.isClosed = false)
    (first last : UInt64) :
    store.replay first last =
      if last < first then .error (.invalidRange first last)
      else if store.nextOffset ≤ last then .error (.outOfRange last store.nextOffset)
      else .ok (between store.events first (last + 1)) := by
  rw [EventStore.replay]
  split
  · rfl
  · split
    · rfl
    · rename_i inside
      rw [UInt64.not_le, UInt64.lt_iff_toNat_lt] at inside
      have next_lt : store.nextOffset.toNat < UInt64.size := store.nextOffset.toNat_lt
      have behind : last + 1 ≤ store.nextOffset := by
        rw [UInt64.le_iff_toNat_le, UInt64.toNat_add, UInt64.toNat_one,
          Nat.mod_eq_of_lt (show _ < UInt64.size by omega)]
        exact inside
      have uncut : min (last + 1) store.nextOffset = last + 1 := if_pos behind
      rw [EventStore.slice_eq isOpen, uncut]
      rfl

end Parts

namespace Cursors

variable {cs : Cursors} {id other : CursorId} {cursor : Cursor} {store : EventStore}

/-! ## Look-ups -/

theorem find?_empty (id : CursorId) : ({} : Cursors).find? id = none := rfl

theorem find?_move (cs : Cursors) (id other : CursorId) (position : UInt64) :
    (cs.move id position).find? other =
      if other = id then (cs.find? id).map fun c => { c with position } else cs.find? other := by
  obtain ⟨entries⟩ := cs
  unfold move find?
  induction entries with
  | nil => simp
  | cons entry rest ih =>
      obtain ⟨k, c⟩ := entry
      simp only [List.map_cons, Roster.lookup_cons_ite] at ih ⊢
      rw [ih]
      by_cases here : other = k
      · subst here
        by_cases same : other = id
        · simp [same]
        · simp [same]
      · by_cases same : other = id
        · subst same
          simp [here]
        · simp [here, same]

theorem find?_erase (cs : Cursors) (id other : CursorId) :
    (cs.erase id).find? other = if other = id then none else cs.find? other :=
  Roster.lookup_filter_ne id other cs.entries

theorem find?_insert (cs : Cursors) (id other : CursorId) (cursor : Cursor) :
    Cursors.find? ⟨(cs.erase id).entries ++ [(id, cursor)]⟩ other =
      if other = id then some cursor else cs.find? other := by
  have erased := find?_erase cs id other
  unfold find? at erased ⊢
  rw [List.lookup_append, erased, Roster.lookup_cons_ite]
  by_cases same : other = id
  · rw [if_pos same, if_pos same, if_pos same, Option.none_or]
  · rw [if_neg same, if_neg same, if_neg same, List.lookup_nil, Option.or_none]

/-! ## Reading -/

theorem toNat_saturatingAdd (a b : UInt64) :
    (saturatingAdd a b).toNat = min (a.toNat + b.toNat) (UInt64.size - 1) := by
  have a_lt : a.toNat < UInt64.size := a.toNat_lt
  have b_lt : b.toNat < UInt64.size := b.toNat_lt
  have sum : (a + b).toNat = (a.toNat + b.toNat) % UInt64.size := UInt64.toNat_add a b
  have wraps : a + b < a ↔ UInt64.size ≤ a.toNat + b.toNat := by
    rw [UInt64.lt_iff_toNat_lt, sum]
    rcases Nat.lt_or_ge (a.toNat + b.toNat) UInt64.size with fits | exceeds
    · rw [Nat.mod_eq_of_lt fits]
      omega
    · rw [Nat.mod_eq_sub_mod exceeds, Nat.mod_eq_of_lt (by omega)]
      omega
  unfold saturatingAdd
  split
  · rename_i wrapped
    have exceeds := wraps.mp wrapped
    rw [UInt64.toNat_ofNat_of_lt' (by decide)]
    omega
  · rename_i fits
    have fits := (not_congr wraps).mp fits
    rw [sum, Nat.mod_eq_of_lt (by omega)]
    omega

theorem toNat_min (a b : UInt64) : (min a b).toNat = min a.toNat b.toNat := by
  change (if a ≤ b then a else b).toNat = _
  split
  · rename_i le
    have le := UInt64.le_iff_toNat_le.mp le
    omega
  · rename_i gt
    have gt := (not_congr UInt64.le_iff_toNat_le).mp gt
    omega

/-- Reading from a cursor of an open store hands out the part of the log from the old position to
the new one, as long as what is asked for or what there is, whichever is shorter. -/
theorem read_eq (found : cs.find? id = some cursor) (isOpen : store.isClosed = false)
    (max : UInt64) :
    ∃ stop, cs.read store id max =
        (.ok { events := between store.events cursor.position stop, position := stop },
          cs.move id stop) ∧
      stop.toNat = cursor.position.toNat +
        min max.toNat (store.nextOffset.toNat - cursor.position.toNat) := by
  have next_lt : store.nextOffset.toNat < UInt64.size := store.nextOffset.toNat_lt
  have next_le := store.toNat_nextOffset_le
  -- Where the slice ends; that may lie before the cursor, and then nothing is handed out.
  generalize slice_end : min (saturatingAdd cursor.position max) store.nextOffset = stop
  have stop_eq : stop.toNat = min (cursor.position.toNat + max.toNat) store.nextOffset.toNat := by
    rw [← slice_end, toNat_min, toNat_saturatingAdd]
    omega
  have length : (between store.events cursor.position stop).length =
      stop.toNat - cursor.position.toNat := length_between (by omega)
  have position_lt : cursor.position.toNat < UInt64.size := cursor.position.toNat_lt
  have moved : (cursor.position + UInt64.ofNat (stop.toNat - cursor.position.toNat)).toNat =
      cursor.position.toNat + (stop.toNat - cursor.position.toNat) := by
    rw [UInt64.toNat_add, UInt64.toNat_ofNat_of_lt' (by omega)]
    exact Nat.mod_eq_of_lt (show _ < UInt64.size by omega)
  refine ⟨cursor.position + UInt64.ofNat (stop.toNat - cursor.position.toNat), ?_, by omega⟩
  have same : between store.events cursor.position
      (cursor.position + UInt64.ofNat (stop.toNat - cursor.position.toNat)) =
        between store.events cursor.position stop := by
    rw [between, between, moved, Nat.add_sub_cancel_left]
  rw [read, found]
  dsimp only
  rw [EventStore.slice_eq isOpen, slice_end]
  dsimp only
  rw [length, same]

/-- Without a cursor of that name there is nothing to read. -/
theorem read_of_find?_none (missing : cs.find? id = none) (max : UInt64) :
    cs.read store id max = (.error (.cursorNotFound id), cs) := by
  rw [read, missing]

end Cursors
end ChangeLog
