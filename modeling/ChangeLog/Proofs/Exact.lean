/-
  Offsets as numbers. The log computes them in words of 64 bits, which wrap around; here each of its
  computations is written once more over natural numbers. A step that a number cannot take has no
  result: a sum that there is no room for, a difference below 0, an item or a part that a list does
  not have. Whether there is room for 64 bits or for any number, each computation takes all its
  steps, from whatever state and with whatever arguments, and comes to what the log comes to
  (`reads_of_counted`, `keeps`). So nothing wraps around.
-/
import ChangeLog.Proofs.Acks
import ChangeLog.Proofs.Cursor

namespace ChangeLog

section Map

variable {α β : Type}

/-- Changes each value. -/
def Roster.map (f : α → β) (r : Roster α) : Roster β :=
  ⟨r.entries.map fun e => (e.1, f e.2), by
    unfold Sorted
    exact List.pairwise_map.mpr r.sorted⟩

theorem lookup_map_snd {κ : Type} [DecidableEq κ] (f : α → β) (entries : List (κ × α)) (k : κ) :
    (entries.map fun e => (e.1, f e.2)).lookup k = (entries.lookup k).map f := by
  induction entries with
  | nil => rfl
  | cons entry rest ih =>
      obtain ⟨c, a⟩ := entry
      rw [List.map_cons, Roster.lookup_cons_ite, Roster.lookup_cons_ite, ih]
      split <;> rfl

@[simp] theorem Roster.get?_map (f : α → β) (r : Roster α) (c : Consumer) :
    (r.map f).get? c = (r.get? c).map f := lookup_map_snd f r.entries c

theorem Roster.map_insert (f : α → β) (r : Roster α) (c : Consumer) (a : α) :
    (r.insert c a).map f = (r.map f).insert c (f a) := by
  refine Roster.ext_get? fun k => ?_
  rw [get?_map, get?_insert, get?_insert, get?_map]
  split <;> rfl

end Map

namespace Exact

/-! ## Numbers -/

/-- How much room there is for a number. -/
inductive Width where
  | word
  | unbounded

/-- Whether there is room for a number. -/
def Width.fits : Width → Nat → Bool
  | .word, n => n < UInt64.size
  | .unbounded, _ => true

variable (w : Width)

/-- A number that there is room for. -/
def Width.number (n : Nat) : Option Nat := if w.fits n then some n else none

/-- A sum. -/
def Width.add (a b : Nat) : Option Nat := w.number (a + b)

/-- A sum, or the greatest number where there is no room for it. -/
def Width.saturatingAdd : Width → Nat → Nat → Nat
  | .word, a, b => min (a + b) (UInt64.size - 1)
  | .unbounded, a, b => a + b

/-- A difference. -/
def sub (a b : Nat) : Option Nat := if b ≤ a then some (a - b) else none

/-- The part of a list between two positions in it. -/
def part {α : Type} (xs : List α) (first stop : Nat) : Option (List α) :=
  if first ≤ stop ∧ stop ≤ xs.length then some ((xs.drop first).take (stop - first)) else none

/-- A number as a sink takes it. -/
def word (n : Nat) : Option UInt64 := if n < UInt64.size then some (UInt64.ofNat n) else none

/-- A number as a sink takes it, if there is one. -/
def wordOrNone : Option Nat → Option (Option UInt64)
  | none => some none
  | some n => (word n).map some

theorem Width.number_eq {n : Nat} (room : n < UInt64.size) : w.number n = some n := by
  refine if_pos ?_
  cases w with
  | word => exact decide_eq_true room
  | unbounded => rfl

theorem sub_eq {a b : Nat} (le : b ≤ a) : sub a b = some (a - b) := if_pos le

theorem part_eq {α : Type} {xs : List α} {first stop : Nat} (le : first ≤ stop)
    (inside : stop ≤ xs.length) : part xs first stop = some ((xs.drop first).take (stop - first)) :=
  if_pos ⟨le, inside⟩

theorem word_toNat (n : UInt64) : word n.toNat = some n := by
  rw [word, if_pos n.toNat_lt, UInt64.ofNat_toNat]

/-- Adding 1 to an offset in front of another one. -/
theorem Width.add_one {offset next : UInt64} (h : offset < next) :
    w.add offset.toNat 1 = some (offset + 1).toNat := by
  rw [Acks.toNat_add_one_of_lt h]
  exact w.number_eq (Acks.add_one_lt_of_lt h)

/-- Taking 1 from an offset that is not 0. -/
theorem sub_one {offset : UInt64} (h : offset ≠ 0) :
    sub offset.toNat 1 = some (offset - 1).toNat := by
  rw [← Acks.toNat_sub_one h]
  exact sub_eq (Nat.le_add_left ..)

theorem toNat_eq_zero_iff {n : UInt64} : n.toNat = 0 ↔ n = 0 := UInt64.toNat_inj (b := 0)

/-! ## Refusals -/

/-- Why the log refuses an operation, with the offsets of a range as numbers. -/
inductive Refusal where
  | outOfRange (offset next : Nat)
  | invalidRange (first last : Nat)
  | other (fault : LogError)

/-- A refusal in numbers. -/
def Refusal.of : LogError → Refusal
  | .outOfRange offset next => .outOfRange offset.toNat next.toNat
  | .invalidRange first last => .invalidRange first.toNat last.toNat
  | fault => .other fault

/-- An answer of the log in numbers. -/
def answer {α β : Type} (f : α → β) : Except LogError α → Except Refusal β
  | .error fault => .error (.of fault)
  | .ok a => .ok (f a)

/-! ## Events -/

section Events

variable (store : EventStore)

/-- The offset that the next event gets. -/
def next : Option Nat := w.number store.events.length

/-- The event at an offset. -/
def get (offset : Nat) : Option (Except StoreError (Option Event)) :=
  if store.isClosed then some (.error .closed)
  else do
    if (← next w store) ≤ offset then return .ok none
    else
      let e ← store.events[offset]?
      return .ok (some e)

/-- The events from offset `first` up to, but without, `stop`. -/
def slice (first stop : Nat) : Option (Except StoreError (List Event)) :=
  if store.isClosed then some (.error .closed)
  else do
    let stop := min stop (← next w store)
    if stop ≤ first then return .ok []
    else
      let events ← part store.events first stop
      return .ok events

/-- The events with offsets from `first` to `last`. -/
def replay (first last : Nat) : Option (Except Refusal (List Event)) := do
  if last < first then return .error (.invalidRange first last)
  else
    let next ← next w store
    if next ≤ last then return .error (.outOfRange last next)
    else
      let stop ← w.add last 1
      let events ← slice w store first stop
      return answer id (LogError.lift events)

/-- The events from `first` to the end. -/
def replayFrom (first : Nat) : Option (Except Refusal (List Event)) := do
  let next ← next w store
  if next = 0 then return .error (.outOfRange first 0)
  else
    let last ← sub next 1
    replay w store first last

end Events

/-! ## Cursors -/

/-- A cursor. -/
structure Cursor where
  owner : Option String
  start : Nat
  position : Nat

/-- Events that one read hands out, and the position after it. -/
structure Batch where
  events : List Event
  position : Nat

/-- The open cursors. -/
abbrev Cursors := List (CursorId × Cursor)

/-- A cursor of the log in numbers. -/
def Cursor.of (c : ChangeLog.Cursor) : Cursor := ⟨c.owner, c.start.toNat, c.position.toNat⟩

theorem Cursor.position_of (c : ChangeLog.Cursor) : (Cursor.of c).position = c.position.toNat := rfl

/-- What a read of the log hands out, in numbers. -/
def Batch.of (b : ChangeLog.Batch) : Batch := ⟨b.events, b.position.toNat⟩

/-- The cursors of the log in numbers. -/
def cursors (cs : ChangeLog.Cursors) : Cursors := cs.entries.map fun e => (e.1, Cursor.of e.2)

section Cursors

variable (cs : Cursors) (store : EventStore)

/-- Moves a cursor to a position. -/
def move (id : CursorId) (position : Nat) : Cursors :=
  cs.map fun (k, c) => (k, if k = id then { c with position } else c)

/-- Opens a cursor at an offset of the log or at its end. -/
def subscribe (fresh : CursorId) (start : Nat) (owner : Option String) :
    Option (Except Refusal CursorId × Cursors) := do
  let next ← next w store
  if next < start then return (.error (.outOfRange start next), cs)
  else
    return (.ok fresh,
      cs.filter (fun e => e.1 ≠ fresh) ++ [(fresh, { owner, start, position := start })])

/-- Hands out at most `max` events from the position of a cursor and moves it past them. -/
def read (id : CursorId) (max : Nat) : Option (Except Refusal Batch × Cursors) :=
  match cs.lookup id with
  | none => some (.error (.of (.cursorNotFound id)), cs)
  | some cursor => do
    match ← slice w store cursor.position (w.saturatingAdd cursor.position max) with
    | .error cause => return (.error (.of (.ofStore cause)), cs)
    | .ok events =>
      let position ← w.add cursor.position events.length
      return (.ok { events, position }, move cs id position)

end Cursors

/-! ## Progress -/

section Progress

variable {σ : Type} [ProgressSink σ] (slots : Roster Nat)

/-- The slots of the log in numbers. -/
def slotsOf (acks : Acks) : Roster Nat := acks.slots.map UInt64.toNat

/-- The offset that a slot stands for. -/
def acknowledged (slot : Nat) : Option (Option Nat) :=
  if slot = 0 then some none else (sub slot 1).map some

/-- Makes a slot for a consumer that has none. -/
def reserve (consumer : Consumer) : Roster Nat :=
  match slots.get? consumer with
  | none => slots.insert consumer 0
  | some _ => slots

/-- Takes over recorded progress into the log that ends at `next`. -/
def settle (next : Nat) :
    List (Consumer × UInt64) → Roster Nat → σ → Option (Except Refusal (Roster Nat) × σ)
  | [], slots, sink => some (.ok slots, sink)
  | (consumer, offset) :: rest, slots, sink =>
    if offset.toNat < next then do
      let slot ← w.add offset.toNat 1
      settle next rest (slots.insert consumer slot) sink
    else do
      let last := sub next 1
      match ProgressSink.rewind sink consumer (← wordOrNone last) with
      | (.error cause, sink) => return (.error (.of (.ofStore cause)), sink)
      | (.ok (), sink) =>
        match last with
        | none => settle next rest slots sink
        | some offset => do
          let slot ← w.add offset 1
          settle next rest (slots.insert consumer slot) sink

/-- Takes over all progress that a sink has recorded. -/
def recover (sink : σ) (next : Nat) : Option (Except Refusal (Roster Nat) × σ) :=
  settle w next (ProgressSink.load sink) Roster.empty sink

/-- Acknowledges everything up to `offset` of a log that ends at `next`. -/
def acknowledge (sink : σ) (consumer : Consumer) (offset next : Nat) :
    Option (Except Refusal Nat × Roster Nat × σ) :=
  if next ≤ offset then some (.error (.outOfRange offset next), slots, sink)
  else do
    let slots := reserve slots consumer
    let target ← w.add offset 1
    let current := (slots.get? consumer).getD 0
    if target ≤ current then
      let progress ← sub current 1
      return (.ok progress, slots, sink)
    else
      match ProgressSink.record sink consumer (← word offset) with
      | (.error cause, sink) => return (.error (.of (.ofStore cause)), slots, sink)
      | (.ok (), sink) =>
        let progress ← sub (max current target) 1
        return (.ok progress, slots.insert consumer (max current target), sink)

/-- The highest offset that a consumer has acknowledged. -/
def progress (consumer : Consumer) : Option (Option Nat) :=
  match slots.get? consumer with
  | none => some none
  | some slot => acknowledged slot

/-- The offset behind an acknowledged one, or the start. -/
def resumeAfter : Option Nat → Option Nat
  | none => some 0
  | some offset => w.add offset 1

/-- Where a consumer goes on after a restart. -/
def resumeOffset (consumer : Consumer) : Option Nat := do
  resumeAfter w (← progress slots consumer)

/-- Every consumer among some that has acknowledged something. -/
def tracked : List (Consumer × Nat) → Option (List (Consumer × Nat))
  | [] => some []
  | (consumer, slot) :: rest => do
    let offset ← acknowledged slot
    let others ← tracked rest
    return (offset.map fun offset => (consumer, offset)).toList ++ others

/-- Every consumer that has acknowledged something, by name. -/
def all : Option (List (Consumer × Nat)) := tracked slots.entries

end Progress

/-! ## The same results -/

variable {store : EventStore}

section Events

theorem next_eq (counted : store.events.length < UInt64.size) :
    next w store = some store.nextOffset.toNat := by
  rw [EventStore.toNat_nextOffset counted]
  exact w.number_eq counted

theorem get_eq (counted : store.events.length < UInt64.size) (offset : UInt64) :
    get w store offset.toNat = some (store.get offset) := by
  have next_eq := next_eq w counted
  have length := EventStore.toNat_nextOffset counted
  unfold get EventStore.get
  cases store.isClosed with
  | true => rfl
  | false =>
      rw [if_neg Bool.false_ne_true, if_neg Bool.false_ne_true, next_eq, Option.bind_eq_bind,
        Option.bind_some]
      by_cases behind : store.nextOffset ≤ offset
      · rw [if_pos behind, if_pos (UInt64.le_iff_toNat_le.mp behind)]
        rfl
      · have behind' := (not_congr UInt64.le_iff_toNat_le).mp behind
        rw [if_neg behind, if_neg behind', List.getElem?_eq_getElem (by omega)]
        rfl

/-- A slice is decided by where it stops in the log; past the end that may be any number. -/
theorem slice_of_min (counted : store.events.length < UInt64.size) (first : UInt64) {stop : Nat}
    {stop' : UInt64} (same : min stop store.nextOffset.toNat = (min stop' store.nextOffset).toNat) :
    slice w store first.toNat stop = some (store.slice first stop') := by
  have next_eq := next_eq w counted
  have length := EventStore.toNat_nextOffset counted
  unfold slice EventStore.slice
  cases store.isClosed with
  | true => rfl
  | false =>
      rw [if_neg Bool.false_ne_true, if_neg Bool.false_ne_true, next_eq, Option.bind_eq_bind,
        Option.bind_some]
      dsimp only
      rw [same]
      generalize min stop' store.nextOffset = cut at same ⊢
      by_cases short : cut ≤ first
      · rw [if_pos short, if_pos (UInt64.le_iff_toNat_le.mp short)]
        rfl
      · have short' := (not_congr UInt64.le_iff_toNat_le).mp short
        rw [if_neg short, if_neg short', part_eq (by omega) (by omega),
          UInt64.toNat_sub_of_le _ _ (UInt64.le_of_lt (UInt64.not_le.mp short))]
        rfl

theorem slice_eq (counted : store.events.length < UInt64.size) (first stop : UInt64) :
    slice w store first.toNat stop.toNat = some (store.slice first stop) :=
  slice_of_min w counted first (Cursors.toNat_min ..).symm

theorem replay_eq (counted : store.events.length < UInt64.size) (first last : UInt64) :
    replay w store first.toNat last.toNat = some (answer id (store.replay first last)) := by
  unfold replay EventStore.replay
  by_cases inverted : last < first
  · rw [if_pos inverted, if_pos (UInt64.lt_iff_toNat_lt.mp inverted)]
    rfl
  · rw [if_neg inverted, if_neg ((not_congr UInt64.lt_iff_toNat_lt).mp inverted), next_eq w counted,
      Option.bind_eq_bind, Option.bind_some]
    by_cases outside : store.nextOffset ≤ last
    · rw [if_pos outside, if_pos (UInt64.le_iff_toNat_le.mp outside)]
      rfl
    · rw [if_neg outside, if_neg ((not_congr UInt64.le_iff_toNat_le).mp outside),
        w.add_one (UInt64.not_le.mp outside), Option.bind_eq_bind, Option.bind_some,
        slice_eq w counted, Option.bind_some]
      rfl

theorem replayFrom_eq (counted : store.events.length < UInt64.size) (first : UInt64) :
    replayFrom w store first.toNat = some (answer id (store.replayFrom first)) := by
  unfold replayFrom EventStore.replayFrom
  rw [next_eq w counted, Option.bind_eq_bind, Option.bind_some]
  by_cases empty : store.nextOffset = 0
  · rw [if_pos empty, if_pos (toNat_eq_zero_iff.mpr empty)]
    rfl
  · rw [if_neg empty, if_neg ((not_congr toNat_eq_zero_iff).mpr empty), sub_one empty,
      Option.bind_some, replay_eq w counted]

end Events

section Cursors

variable {cs : ChangeLog.Cursors} {id : CursorId}

theorem lookup_cursors (cs : ChangeLog.Cursors) (id : CursorId) :
    (cursors cs).lookup id = (cs.find? id).map Cursor.of := lookup_map_snd Cursor.of cs.entries id

theorem cursors_move (cs : ChangeLog.Cursors) (id : CursorId) (position : UInt64) :
    cursors (cs.move id position) = move (cursors cs) id position.toNat := by
  unfold cursors ChangeLog.Cursors.move move
  rw [List.map_map, List.map_map]
  refine List.map_congr_left fun entry _ => ?_
  obtain ⟨k, c⟩ := entry
  by_cases same : k = id
  · simp only [Function.comp_apply, if_pos same]
    rfl
  · simp only [Function.comp_apply, if_neg same]

theorem cursors_erase (cs : ChangeLog.Cursors) (id : CursorId) :
    cursors (cs.erase id) = (cursors cs).filter fun e => e.1 ≠ id := by
  unfold cursors ChangeLog.Cursors.erase
  rw [List.filter_map]
  rfl

theorem subscribe_eq (counted : store.events.length < UInt64.size) (cs : ChangeLog.Cursors)
    (fresh : CursorId) (start : UInt64) (owner : Option String) :
    subscribe w (cursors cs) store fresh start.toNat owner =
      some (answer (fun opened => opened) (cs.subscribe store fresh start owner).1,
        cursors (cs.subscribe store fresh start owner).2) := by
  unfold subscribe ChangeLog.Cursors.subscribe
  rw [next_eq w counted, Option.bind_eq_bind, Option.bind_some]
  by_cases outside : store.nextOffset < start
  · rw [if_pos outside, if_pos (UInt64.lt_iff_toNat_lt.mp outside)]
    rfl
  · rw [if_neg outside, if_neg ((not_congr UInt64.lt_iff_toNat_lt).mp outside), ← cursors_erase]
    unfold cursors
    rw [List.map_append]
    rfl

/-- Where a read ends, whether its end is cut to a word or not. -/
theorem min_saturatingAdd (a b next : UInt64) :
    min (w.saturatingAdd a.toNat b.toNat) next.toNat =
      (min (ChangeLog.Cursors.saturatingAdd a b) next).toNat := by
  have next_lt : next.toNat < UInt64.size := next.toNat_lt
  rw [Cursors.toNat_min, Cursors.toNat_saturatingAdd]
  cases w with
  | word => rfl
  | unbounded =>
      rw [Width.saturatingAdd]
      omega

/-- A cursor does not leave the 64 bits when it moves past the events of a slice. -/
theorem toNat_add_length {first stop : UInt64} {events : List Event}
    (sliced : store.slice first stop = .ok events) :
    (first + UInt64.ofNat events.length).toNat = first.toNat + events.length := by
  have first_lt : first.toNat < UInt64.size := first.toNat_lt
  have stop_lt := (min stop store.nextOffset).toNat_lt
  have end_le := store.toNat_nextOffset_le
  have isOpen : store.isClosed = false := by
    cases closed : store.isClosed with
    | false => rfl
    | true =>
        rw [EventStore.slice, closed, if_pos rfl] at sliced
        cases sliced
  rw [EventStore.slice_eq isOpen] at sliced
  cases sliced
  have inside : (min stop store.nextOffset).toNat ≤ store.events.length := by
    rw [Cursors.toNat_min]
    omega
  change _ < UInt64.size at stop_lt
  rw [length_between inside, UInt64.toNat_add, UInt64.toNat_ofNat_of_lt' (by omega)]
  exact Nat.mod_eq_of_lt (show _ < UInt64.size by omega)

theorem read_eq (counted : store.events.length < UInt64.size) (cs : ChangeLog.Cursors)
    (id : CursorId) (max : UInt64) :
    read w (cursors cs) store id max.toNat =
      some (answer Batch.of (cs.read store id max).1, cursors (cs.read store id max).2) := by
  unfold read ChangeLog.Cursors.read
  rw [lookup_cursors]
  cases cs.find? id with
  | none => rfl
  | some cursor =>
      have slice_eq := slice_of_min w counted cursor.position
        (min_saturatingAdd w cursor.position max store.nextOffset)
      rw [Option.map_some]
      dsimp only
      rw [Cursor.position_of, slice_eq, Option.bind_eq_bind, Option.bind_some]
      cases sliced : store.slice cursor.position
          (ChangeLog.Cursors.saturatingAdd cursor.position max) with
      | error cause => rfl
      | ok events =>
          have moved := toNat_add_length sliced
          have room := (cursor.position + UInt64.ofNat events.length).toNat_lt
          rw [moved] at room
          dsimp only [answer, Batch.of]
          rw [cursors_move, moved, Width.add, w.number_eq room]
          rfl

end Cursors

section Progress

variable {σ : Type} [ProgressSink σ] (acks : Acks)

theorem get?_slotsOf (consumer : Consumer) :
    (slotsOf acks).get? consumer = (acks.slots.get? consumer).map UInt64.toNat :=
  Roster.get?_map ..

theorem slotsOf_insert (consumer : Consumer) (slot : UInt64) :
    slotsOf ⟨acks.slots.insert consumer slot⟩ = (slotsOf acks).insert consumer slot.toNat :=
  Roster.map_insert ..

theorem slotsOf_reserve (consumer : Consumer) :
    slotsOf (acks.reserve consumer) = reserve (slotsOf acks) consumer := by
  unfold reserve Acks.reserve
  rw [get?_slotsOf]
  cases acks.slots.get? consumer with
  | none => exact slotsOf_insert acks consumer 0
  | some slot => rfl

theorem getD_slotsOf (consumer : Consumer) :
    ((slotsOf acks).get? consumer).getD 0 = (acks.slot consumer).toNat := by
  rw [get?_slotsOf, Acks.slot]
  cases acks.slots.get? consumer <;> rfl

theorem acknowledged_eq (slot : UInt64) :
    acknowledged slot.toNat = some ((Acks.acknowledged slot).map UInt64.toNat) := by
  unfold acknowledged Acks.acknowledged
  by_cases zero : slot = 0
  · rw [if_pos zero, if_pos (toNat_eq_zero_iff.mpr zero)]
    rfl
  · rw [if_neg zero, if_neg ((not_congr toNat_eq_zero_iff).mpr zero), sub_one zero]
    rfl

theorem progress_eq (consumer : Consumer) :
    progress (slotsOf acks) consumer = some ((acks.progress consumer).map UInt64.toNat) := by
  rw [progress, get?_slotsOf, Acks.progress]
  cases acks.slots.get? consumer with
  | none => rfl
  | some slot => exact acknowledged_eq slot

/-- No consumer has acknowledged the last offset of all, which no slot could stand for. -/
theorem resumeAfter_eq (consumer : Consumer) :
    resumeAfter w ((acks.progress consumer).map UInt64.toNat) =
      some (acks.resumeOffset consumer).toNat := by
  rw [Acks.resumeOffset]
  cases shown : acks.progress consumer with
  | none => rfl
  | some offset =>
      have slot_eq := Acks.progress_eq_some_iff.mp shown
      have room : offset.toNat + 1 < UInt64.size := by
        rw [← slot_eq]
        exact (acks.slot consumer).toNat_lt
      rw [Option.map_some, resumeAfter]
      dsimp only
      rw [Acks.toNat_add_one room]
      exact w.number_eq room

theorem resumeOffset_eq (consumer : Consumer) :
    resumeOffset w (slotsOf acks) consumer = some (acks.resumeOffset consumer).toNat := by
  rw [resumeOffset, progress_eq, Option.bind_eq_bind, Option.bind_some, resumeAfter_eq]

theorem tracked_eq (entries : List (Consumer × UInt64)) :
    tracked (entries.map fun e => (e.1, e.2.toNat)) =
      some ((entries.filterMap fun (consumer, slot) =>
        (Acks.acknowledged slot).map fun offset => (consumer, offset)).map
          fun e => (e.1, e.2.toNat)) := by
  induction entries with
  | nil => rfl
  | cons entry rest ih =>
      obtain ⟨consumer, slot⟩ := entry
      rw [List.map_cons, tracked, acknowledged_eq, ih, List.filterMap_cons]
      dsimp only
      cases Acks.acknowledged slot with
      | none => rfl
      | some offset => rfl

theorem all_eq :
    all (slotsOf acks) = some (acks.all.map fun e => (e.1, e.2.toNat)) :=
  tracked_eq acks.slots.entries

theorem settle_eq (next : UInt64) (loaded : List (Consumer × UInt64)) (sink : σ) :
    settle w next.toNat loaded (slotsOf acks) sink =
      some (answer slotsOf (Acks.settle next loaded acks sink).1,
        (Acks.settle next loaded acks sink).2) := by
  induction loaded generalizing acks sink with
  | nil => rfl
  | cons entry rest ih =>
      obtain ⟨consumer, offset⟩ := entry
      rw [settle, Acks.settle]
      by_cases inside : offset < next
      · rw [if_pos inside, if_pos (UInt64.lt_iff_toNat_lt.mp inside), w.add_one inside,
          Option.bind_eq_bind, Option.bind_some, ← slotsOf_insert, ih]
      · rw [if_neg inside, if_neg ((not_congr UInt64.lt_iff_toNat_lt).mp inside)]
        dsimp only
        by_cases empty : next = 0
        · subst empty
          have none_left : sub (UInt64.toNat 0) 1 = none := rfl
          rw [if_pos rfl, none_left, wordOrNone, Option.bind_eq_bind, Option.bind_some]
          rcases ProgressSink.rewind sink consumer none with ⟨cause | done, after⟩
          · rfl
          · exact ih acks after
        · have kept : Acks.settled next offset = some (next - 1) := by
            rw [Acks.settled, if_neg inside, if_neg empty]
          have last_lt := (Acks.lt_of_settled kept).2
          rw [if_neg empty, sub_one empty, wordOrNone, word_toNat, Option.map_some,
            Option.bind_eq_bind, Option.bind_some]
          rcases ProgressSink.rewind sink consumer (some (next - 1)) with ⟨cause | done, after⟩
          · rfl
          · dsimp only
            rw [w.add_one last_lt, Option.bind_eq_bind, Option.bind_some, ← slotsOf_insert, ih]

theorem recover_eq (sink : σ) (next : UInt64) :
    recover w sink next.toNat =
      some (answer slotsOf (Acks.recover sink next).1, (Acks.recover sink next).2) :=
  settle_eq w {} next (ProgressSink.load sink) sink

theorem acknowledge_eq (sink : σ) (consumer : Consumer) (offset next : UInt64) :
    acknowledge w (slotsOf acks) sink consumer offset.toNat next.toNat =
      some (answer UInt64.toNat (acks.acknowledge sink consumer offset next).1,
        slotsOf (acks.acknowledge sink consumer offset next).2.1,
        (acks.acknowledge sink consumer offset next).2.2) := by
  unfold acknowledge Acks.acknowledge
  by_cases outside : next ≤ offset
  · rw [if_pos outside, if_pos (UInt64.le_iff_toNat_le.mp outside)]
    rfl
  · have inside := UInt64.not_le.mp outside
    have target_eq := Acks.toNat_add_one_of_lt inside
    rw [if_neg outside, if_neg ((not_congr UInt64.le_iff_toNat_le).mp outside), w.add_one inside,
      Option.bind_eq_bind, Option.bind_some, ← slotsOf_reserve, getD_slotsOf]
    dsimp only
    generalize (acks.reserve consumer).slot consumer = current
    by_cases stale : offset + 1 ≤ current
    · have nonzero : current ≠ 0 := by
        rintro rfl
        have le := UInt64.le_iff_toNat_le.mp stale
        rw [target_eq, UInt64.toNat_zero] at le
        omega
      rw [if_pos stale, if_pos (UInt64.le_iff_toNat_le.mp stale), sub_one nonzero]
      rfl
    · have raised : max current (offset + 1) = offset + 1 :=
        if_pos (UInt64.le_of_lt (UInt64.not_le.mp stale))
      have raised' : max current.toNat (offset + 1).toNat = (offset + 1).toNat :=
        Nat.max_eq_right (Nat.le_of_not_le ((not_congr UInt64.le_iff_toNat_le).mp stale))
      have nonzero : offset + 1 ≠ 0 := by
        intro zero
        rw [zero, UInt64.toNat_zero] at target_eq
        omega
      rw [if_neg stale, if_neg ((not_congr UInt64.le_iff_toNat_le).mp stale), word_toNat,
        Option.bind_eq_bind, Option.bind_some, raised, raised', sub_one nonzero]
      rcases ProgressSink.record sink consumer offset with ⟨cause | done, after⟩
      · rfl
      · dsimp only
        rw [slotsOf_insert]
        rfl

end Progress

/-! ## All of them -/

/-- All that is read of a store, computed in numbers, is what the log reads: no step is without a
result. -/
structure Reads (store : EventStore) : Prop where
  get : ∀ offset : UInt64, Exact.get w store offset.toNat = some (store.get offset)
  slice : ∀ first stop : UInt64,
    Exact.slice w store first.toNat stop.toNat = some (store.slice first stop)
  replay : ∀ first last : UInt64,
    Exact.replay w store first.toNat last.toNat = some (answer id (store.replay first last))
  replayFrom : ∀ first : UInt64,
    Exact.replayFrom w store first.toNat = some (answer id (store.replayFrom first))
  subscribe : ∀ (cs : ChangeLog.Cursors) (fresh : CursorId) (start : UInt64)
    (owner : Option String), Exact.subscribe w (cursors cs) store fresh start.toNat owner =
      some (answer (fun opened => opened) (cs.subscribe store fresh start owner).1,
        cursors (cs.subscribe store fresh start owner).2)
  read : ∀ (cs : ChangeLog.Cursors) (id : CursorId) (max : UInt64),
    Exact.read w (cursors cs) store id max.toNat =
      some (answer Batch.of (cs.read store id max).1, cursors (cs.read store id max).2)

/-- All that is kept of consumers, computed in numbers, is what the log keeps, over any sink. -/
structure Keeps : Prop where
  recover : ∀ (σ : Type) [ProgressSink σ] (sink : σ) (next : UInt64),
    Exact.recover w sink next.toNat =
      some (answer slotsOf (Acks.recover sink next).1, (Acks.recover sink next).2)
  acknowledge : ∀ (σ : Type) [ProgressSink σ] (acks : Acks) (sink : σ) (consumer : Consumer)
    (offset next : UInt64),
    Exact.acknowledge w (slotsOf acks) sink consumer offset.toNat next.toNat =
      some (answer UInt64.toNat (acks.acknowledge sink consumer offset next).1,
        slotsOf (acks.acknowledge sink consumer offset next).2.1,
        (acks.acknowledge sink consumer offset next).2.2)
  progress : ∀ (acks : Acks) (consumer : Consumer),
    Exact.progress (slotsOf acks) consumer = some ((acks.progress consumer).map UInt64.toNat)
  all : ∀ acks : Acks,
    Exact.all (slotsOf acks) = some (acks.all.map fun e => (e.1, e.2.toNat))
  resumeOffset : ∀ (acks : Acks) (consumer : Consumer),
    Exact.resumeOffset w (slotsOf acks) consumer = some (acks.resumeOffset consumer).toNat

theorem reads_of_counted (counted : store.events.length < UInt64.size) : Reads w store where
  get := get_eq w counted
  slice := slice_eq w counted
  replay := replay_eq w counted
  replayFrom := replayFrom_eq w counted
  subscribe := subscribe_eq w counted
  read := read_eq w counted

theorem keeps : Keeps w where
  recover _ _ sink next := recover_eq w sink next
  acknowledge _ _ acks sink consumer offset next := acknowledge_eq w acks sink consumer offset next
  progress := progress_eq
  all := all_eq
  resumeOffset := resumeOffset_eq w

end Exact
end ChangeLog
