/-
  Event stores whose file has one wrong byte, in the checksum or in the payload of an event. The
  file of a store that wrote all of it holds the events' frames and nothing else (`Written`),
  through any calls and openings. With the damage the journal gives all events but the damaged one;
  the store takes that for a gap, unless it was the last event, which is then missing and whose
  offset is given out again (`damaged_byte_contained`).
-/
import ChangeLog.Proofs.Journal.DamagedByte
import ChangeLog.Proofs.Store.Refinement

namespace ChangeLog.EventStore

variable {disk start : Disk} {directory : String} {store : EventStore} {journal : Journal Event}
  {i position : Nat} {b : UInt8}

/-! ## Stores that wrote their file -/

/-- The file of a store with a journal is the frames of its events, one behind the other. -/
structure Written (directory : String) (journal : Journal Event) (store : EventStore)
    (disk : Disk) : Prop extends Backed directory journal store disk where
  fits : ∀ e ∈ store.events, Journal.Fits e
  content_eq : disk.content journal.file = Journal.bytesOf store.events

/-- One call to a store that wrote its file. -/
theorem Written.perform (h : Written directory journal store disk) (call : Call) :
    ∃ answer final grown later, perform (fromDirectory directory) store disk call =
        (answer, final, later) ∧
      Written directory grown final later ∧ final.events = store.events ++ accepted [answer] := by
  cases call with
  | append now draft =>
      cases isOpen : store.isClosed with
      | true =>
          refine ⟨.appended (.error .closed), store, journal, disk, ?_, h,
            (List.append_nil _).symm⟩
          rw [EventStore.perform, append, if_pos isOpen]
      | false =>
          by_cases fits : Journal.Fits (Event.stamp draft store.nextOffset now)
          · obtain ⟨grown, later, appended, -, same_file, content, backed⟩ :=
              append_ok h.toBacked isOpen rfl fits
            refine ⟨.appended (.ok (Event.stamp draft store.nextOffset now)), _, grown, later, ?_,
              ⟨backed, ?_, ?_⟩, rfl⟩
            · rw [EventStore.perform, appended]
            · intro e he
              rcases List.mem_append.mp he with old | new
              · exact h.fits e old
              · rw [List.mem_singleton.mp new]
                exact fits
            · rw [same_file, content, h.content_eq, Journal.bytesOf_append,
                Journal.bytesOf_singleton]
          · refine ⟨.appended (.error .recordTooLarge), store, journal, disk, ?_, h,
              (List.append_nil _).symm⟩
            rw [EventStore.perform, append_tooLarge h.toBacked isOpen fits]
  | close =>
      exact ⟨_, store.close, journal, disk, rfl,
        ⟨⟨h.journal_eq, h.path_eq, h.holds, h.numbered⟩, h.fits, h.content_eq⟩,
        (List.append_nil _).symm⟩
  | get _ | slice _ _ | nextOffset | isClosed =>
      exact ⟨_, store, journal, disk, rfl, h, (List.append_nil _).symm⟩
  | reopen =>
      refine ⟨.reopened (.ok ()), { store with isClosed := false }, journal, disk, ?_,
        ⟨⟨h.journal_eq, h.path_eq, h.holds, h.numbered⟩, h.fits, h.content_eq⟩,
        (List.append_nil _).symm⟩
      rw [EventStore.perform, fromDirectory, h.openIn_eq]

theorem Written.performAll (h : Written directory journal store disk) (calls : List Call) :
    ∃ answers final grown later, performAll (fromDirectory directory) store disk calls =
        (answers, final, later) ∧
      Written directory grown final later ∧ final.events = store.events ++ accepted answers := by
  induction calls generalizing store journal disk with
  | nil => exact ⟨[], store, journal, disk, rfl, h, (List.append_nil _).symm⟩
  | cons call calls ih =>
      obtain ⟨answer, middle, between, halfway, first, written, events⟩ := h.perform call
      obtain ⟨answers, final, grown, later, others, written', events'⟩ := ih written
      refine ⟨answer :: answers, final, grown, later, ?_, written', ?_⟩
      · rw [EventStore.performAll, first]
        dsimp only
        rw [others]
      · rw [events', events, List.append_assoc, accepted, accepted, accepted,
          ← List.filterMap_append, List.singleton_append]

/-! ## Gaps -/

/-- Behind events that stand at their offsets, one that does not is what is found. -/
theorem gap?_append {first : Nat} {front : List Event}
    (numbered : ∀ i e, front[i]? = some e → e.offset = UInt64.ofNat (first + i)) {e : Event}
    (other : e.offset ≠ UInt64.ofNat (first + front.length)) (rest : List Event) :
    gap? (UInt64.ofNat first) (front ++ e :: rest) =
      some (UInt64.ofNat (first + front.length), e.offset) := by
  induction front generalizing first with
  | nil => exact if_neg other
  | cons d front ih =>
      have next : UInt64.ofNat first + 1 = UInt64.ofNat (first + 1) := by
        rw [UInt64.ofNat_add]
        rfl
      have shifted : ∀ k, first + 1 + k = first + (k + 1) := fun k => by omega
      rw [List.cons_append, gap?, if_pos (show d.offset = UInt64.ofNat first from numbered 0 d rfl),
        next, ih]
      · rw [shifted, List.length_cons]
      · intro k c hc
        rw [shifted]
        exact numbered (k + 1) c hc
      · rw [shifted]
        exact other

/-- Without one of its events, unless it is the last, a log has a gap where the event was. -/
theorem Numbered.gap?_eraseIdx {events : List Event} (h : Numbered events)
    (lt : i + 1 < events.length) :
    gap? 0 (events.eraseIdx i) = some (UInt64.ofNat i, UInt64.ofNat (i + 1)) := by
  have found : events[i + 1].offset = UInt64.ofNat (i + 1) :=
    h (i + 1) _ (List.getElem?_eq_getElem lt)
  have length : (events.take i).length = i := by
    rw [List.length_take]
    omega
  have later : events[i + 1].offset ≠ UInt64.ofNat (0 + (events.take i).length) := by
    rw [found, Nat.zero_add, length, UInt64.ofNat_add]
    intro same
    have none : UInt64.ofNat 1 = 0 := UInt64.add_eq_left.mp same
    cases none
  rw [List.eraseIdx_eq_take_drop_succ, List.drop_eq_getElem_cons lt]
  have numbered : ∀ k e, (events.take i)[k]? = some e → e.offset = UInt64.ofNat (0 + k) := by
    intro k e there
    obtain ⟨below, -⟩ := List.getElem?_eq_some_iff.mp there
    rw [List.getElem?_take_of_lt (by omega)] at there
    rw [Nat.zero_add]
    exact h k e there
  refine (gap?_append numbered later _).trans ?_
  rw [found, length, Nat.zero_add]

theorem Numbered.take {events : List Event} (h : Numbered events) (count : Nat) :
    Numbered (events.take count) := by
  intro k e there
  obtain ⟨below, -⟩ := List.getElem?_eq_some_iff.mp there
  rw [List.length_take] at below
  rw [List.getElem?_take_of_lt (by omega)] at there
  exact h k e there

/-! ## Damage -/

/-- The disk with one byte of the file of events overwritten. -/
def overwriteByte (directory : String) (position : Nat) (b : UInt8) (disk : Disk) : Disk :=
  match disk.locate (Path.parts (Path.join directory fileName)) with
  | .ok file => disk.setContent file ((disk.content file).set position b)
  | .error _ => disk

/-- The journal of the damaged file is there, and holds all events but one. -/
theorem Written.damaged (h : Written directory journal store disk)
    (damages : Journal.Damages store.events i position b) :
    ∃ again : Journal Event, again.path = Path.join directory fileName ∧
      (overwriteByte directory position b disk).content again.file =
        (Journal.bytesOf store.events).set position b ∧
      Journal.Holds again (overwriteByte directory position b disk) (store.events.eraseIdx i) := by
  have reaches := h.holds.reaches
  rw [h.path_eq] at reaches
  have bytes := Disk.content_setContent h.holds.stored
    ((Journal.bytesOf store.events).set position b)
  have change := Disk.onlyIn_setContent disk journal.file
    ((Journal.bytesOf store.events).set position b)
  rw [overwriteByte, reaches.located]
  dsimp only
  rw [h.content_eq]
  have attached : Journal.Attached
      (⟨Path.join directory fileName, journal.file, (Journal.bytesOf store.events).length⟩ :
        Journal Event)
      (disk.setContent journal.file ((Journal.bytesOf store.events).set position b)) := by
    refine ⟨change.keeps.reaches reaches, change.length ▸ h.holds.stored, ?_⟩
    rw [bytes, List.length_set]
  exact ⟨⟨Path.join directory fileName, journal.file, _⟩, rfl, bytes,
    attached.holds_eraseIdx damages h.fits bytes⟩

/-- A store that wrote its file, after an opening that found the file empty. -/
theorem written_of_openIn (stored : disk.Stored)
    (opened : openIn disk directory = (.ok store, start))
    (empty : start.read (Path.parts (Path.join directory fileName)) = .ok []) :
    ∃ journal, Written directory journal store start ∧ store.events = [] := by
  obtain ⟨journal, backed, -, -⟩ := backed_of_openIn stored opened
  have reaches := backed.holds.reaches
  rw [backed.path_eq] at reaches
  rw [reaches.read, Except.ok.injEq] at empty
  have nothing : store.events = [] :=
    backed.holds.records_eq.symm.trans (backed.holds.toAttached.holds_nil empty).records_eq
  refine ⟨journal, ⟨backed, ?_, ?_⟩, nothing⟩
  · rw [nothing]
    exact fun _ there => nomatch there
  · rw [nothing, empty, Journal.bytesOf_nil]

/-- After any calls to a store that was opened on an empty file, its file is the frames of its
events, and whichever byte of a checksum or of a payload is then changed in it: the journal gives
all events but that one and leaves the file alone. Unless the event was the last, opening the store
reports the gap. If it was, the store opens with the events in front of it; what it appends next
gets the offset of the lost event, and is there when the store is opened once more. -/
theorem damaged_byte_contained (stored : disk.Stored)
    (opened : openIn disk directory = (.ok store, start))
    (empty : start.read (Path.parts (Path.join directory fileName)) = .ok []) (calls : List Call) :
    ∃ answers final later,
      performAll (fromDirectory directory) store start calls = (answers, final, later) ∧
      final.events = accepted answers ∧
      later.read (Path.parts (Path.join directory fileName)) =
        .ok (Journal.bytesOf final.events) ∧
      ∀ i position b, Journal.Damages final.events i position b →
        ∃ damaged, damaged = overwriteByte directory position b later ∧
        damaged.read (Path.parts (Path.join directory fileName)) =
          .ok ((Journal.bytesOf final.events).set position b) ∧
        (∃ journal : Journal Event,
          Journal.openAt damaged (Path.join directory fileName) = (.ok journal, damaged) ∧
          journal.recover damaged = (.ok (final.events.eraseIdx i), journal, damaged)) ∧
        (i + 1 < final.events.length → openIn damaged directory =
          (.error (.offsetGap (Path.join directory fileName) (UInt64.ofNat i)
            (UInt64.ofNat (i + 1))), damaged)) ∧
        (i + 1 = final.events.length → ∃ kept, openIn damaged directory = (.ok kept, damaged) ∧
          kept.events = final.events.take i ∧ kept.nextOffset = UInt64.ofNat i ∧
          ∀ now draft, Journal.Fits (Event.stamp draft 0 now) → ∃ e grown further,
            kept.append damaged now draft = (.ok e, grown, further) ∧
            e = Event.stamp draft (UInt64.ofNat i) now ∧
            openIn further directory = (.ok grown, further) ∧
            grown.events = final.events.take i ++ [e]) := by
  obtain ⟨journal, written, nothing⟩ := written_of_openIn stored opened empty
  obtain ⟨answers, final, grown, later, ran, written', events⟩ := written.performAll calls
  rw [nothing, List.nil_append] at events
  have reaches := written'.holds.reaches
  rw [written'.path_eq] at reaches
  refine ⟨answers, final, later, ran, events, by rw [reaches.read, written'.content_eq], ?_⟩
  intro i position b damages
  obtain ⟨again, path_eq, content, holds⟩ := written'.damaged damages
  have reaches' := holds.reaches
  rw [path_eq] at reaches'
  obtain ⟨opening, recovered⟩ := holds.reopen
  rw [path_eq] at opening
  refine ⟨_, rfl, by rw [reaches'.read, content], ⟨again, opening, recovered⟩, ?_, ?_⟩
  · intro early
    rw [openIn_of_holds path_eq holds, written'.numbered.gap?_eraseIdx early]
  · intro last
    have others : final.events.eraseIdx i = final.events.take i := by
      rw [List.eraseIdx_eq_take_drop_succ, last, List.drop_length, List.append_nil]
    have length : (final.events.take i).length = i := by
      rw [List.length_take]
      omega
    have numbered := written'.numbered.take i
    rw [others] at holds
    have backed : Backed directory again { journal := some again, events := final.events.take i }
        (overwriteByte directory position b later) := ⟨rfl, path_eq, holds, numbered⟩
    refine ⟨_, backed.openIn_eq, rfl, congrArg UInt64.ofNat length, ?_⟩
    intro now draft fits
    obtain ⟨grown, further, appended, -, -, -, backed'⟩ :=
      append_ok backed rfl rfl (Event.fits_stamp_iff.mp fits)
    exact ⟨_, _, further, appended,
      congrArg (Event.stamp draft · now) (congrArg UInt64.ofNat length), backed'.openIn_eq, rfl⟩

/-- Two events, the second with an earlier time than the first. -/
def twoAppends : List Call :=
  [.append ⟨12, 0, by decide⟩ { type := "put" }, .append ⟨10, 0, by decide⟩ { type := "put" }]

/-- Damage to the first of two events is a gap; damage to the second leaves the first. -/
theorem either_of_two_damaged :
    ∃ answers final later, performAll (fromDirectory "") { journal := some Journal.blank }
        Journal.blankDisk twoAppends = (answers, final, later) ∧
      final.events.length = 2 ∧
      (∃ position b, Journal.Damages final.events 0 position b ∧
        openIn (overwriteByte "" position b later) "" =
          (.error (.offsetGap "events.wal" 0 1), overwriteByte "" position b later)) ∧
      ∃ position b kept, Journal.Damages final.events 1 position b ∧
        openIn (overwriteByte "" position b later) "" =
          (.ok kept, overwriteByte "" position b later) ∧
        kept.events = final.events.take 1 ∧ kept.nextOffset = 1 := by
  have small : ∀ call ∈ twoAppends, call.Small := by
    intro call hc
    simp only [twoAppends, List.mem_cons, List.not_mem_nil, or_false] at hc
    rcases hc with rfl | rfl
    · change (Wire.write (Event.stamp _ 0 _)).length < UInt32.size
      rw [Event.length_write]
      decide +kernel
    · change (Wire.write (Event.stamp _ 0 _)).length < UInt32.size
      rw [Event.length_write]
      decide +kernel
  obtain ⟨answers, final, later, ran, -, -, damage⟩ :=
    damaged_byte_contained Disk.stored_empty openIn_blank rfl twoAppends
  obtain ⟨journal, written, -⟩ := written_of_openIn Disk.stored_empty openIn_blank rfl
  obtain ⟨_, _, _, _, ran', -, memory, -⟩ := performAll_backed written.toBacked small {}
  rw [ran] at ran'
  cases ran'
  have count : final.unbacked.events.length = 2 := by
    rw [show final.unbacked = (performAll fromMemory {} {} twoAppends).2.1 from
      (congrArg (·.2.1) memory).symm]
    rfl
  have count : final.events.length = 2 := count
  have one : 0 < final.events.length := by omega
  have two : 1 < final.events.length := by omega
  obtain ⟨b, first⟩ := Journal.exists_damages one
  obtain ⟨c, second⟩ := Journal.exists_damages two
  refine ⟨answers, final, later, ran, count, ⟨_, b, first, ?_⟩, ?_⟩
  · obtain ⟨_, rfl, -, -, gap, -⟩ := damage 0 _ b first
    exact gap (by omega)
  · obtain ⟨_, rfl, -, -, -, last⟩ := damage 1 _ c second
    obtain ⟨kept, opened, events, next, -⟩ := last count.symm
    exact ⟨_, c, kept, second, opened, events, next⟩

end ChangeLog.EventStore
