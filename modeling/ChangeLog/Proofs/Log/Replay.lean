/-
  Replays of ranges. In every state of a run, wherever the log came from, a replay is refused for a
  range that is inverted, else for one that reaches past the end, and gives the events of any other
  (`Replays`); the range to the end is the one up to the last event. Once it was given, a range
  gives the same events in every later state in which the log is open
  (`replay_exact_and_stable`), since events stay where they are (`Standing.takeAll`).
-/
import ChangeLog.Proofs.Log.Growth

namespace ChangeLog.Log

variable {log later : Log} {first last offset : UInt64} {e : Event} {es : List Event}

/-- What replays of an open log come to. -/
structure Replays (log : Log) : Prop where
  inverted_iff : ∀ first last,
    log.replay first last = .error (.invalidRange first last) ↔ last < first
  outside_iff : ∀ first last,
    log.replay first last = .error (.outOfRange last log.nextOffset) ↔
      first ≤ last ∧ log.nextOffset ≤ last
  given_iff : ∀ first last,
    (∃ es, log.replay first last = .ok es) ↔ first ≤ last ∧ last < log.nextOffset
  /-- One event for each offset of the range, in the order of the offsets, and each the one that is
  shown when it is asked for alone. -/
  given : ∀ first last es, log.replay first last = .ok es →
    es.length = last.toNat - first.toNat + 1 ∧
    ∀ offset, first ≤ offset → offset ≤ last →
      ∃ e, es[offset.toNat - first.toNat]? = some e ∧ e.offset = offset ∧ log.get offset = .ok e
  toEnd_empty : log.events.events = [] →
    ∀ first, log.replayFrom first = .error (.outOfRange first 0)
  toEnd : log.events.events ≠ [] →
    (log.nextOffset - 1).toNat + 1 = log.events.events.length ∧
    ∀ first, log.replayFrom first = log.replay first (log.nextOffset - 1)

/-! ## One state -/

/-- An event that is there is shown when it is asked for. -/
theorem get_eq_ok (isOpen : log.isClosed = false) (inside : offset < log.nextOffset)
    (there : log.events.events[offset.toNat]? = some e) : log.get offset = .ok e := by
  have isOpen : log.events.isClosed = false := isOpen
  have inside : ¬ log.events.nextOffset ≤ offset := UInt64.not_le.mpr inside
  rw [get, EventStore.get, isOpen, if_neg Bool.false_ne_true, if_neg inside, there]

/-- The events of a range stand at its offsets. -/
theorem exists_of_replay (numbered : EventStore.Numbered log.events.events)
    (replayed : log.replay first last = .ok es) :
    es.length = last.toNat - first.toNat + 1 ∧
    ∀ offset, first ≤ offset → offset ≤ last →
      ∃ e, es[offset.toNat - first.toNat]? = some e ∧ e.offset = offset ∧
        log.get offset = .ok e := by
  have isOpen := isOpen_of_replay replayed
  obtain ⟨ordered, inside, rfl⟩ := (replay_eq_ok_iff isOpen).mp replayed
  have inside_events := (EventStore.lt_of_lt_nextOffset inside).1
  have stop_eq : (last + 1).toNat = last.toNat + 1 := Acks.toNat_add_one_of_lt inside
  have ordered := UInt64.le_iff_toNat_le.mp ordered
  constructor
  · rw [length_between (by omega), stop_eq]
    omega
  · intro offset from_first to_last
    have from_first := UInt64.le_iff_toNat_le.mp from_first
    have to_last' := UInt64.le_iff_toNat_le.mp to_last
    have there := List.getElem?_eq_getElem (Nat.lt_of_le_of_lt to_last' inside_events)
    refine ⟨_, ?_, ?_, get_eq_ok isOpen (UInt64.lt_of_le_of_lt to_last inside) there⟩
    · rw [getElem?_between, if_pos (by omega), Nat.add_sub_of_le from_first]
      exact there
    · rw [numbered _ _ there, UInt64.ofNat_toNat]

/-- Where events stand at their offsets, and offsets can count them, an open log replays as it
should. -/
theorem replays_of_numbered (isOpen : log.isClosed = false)
    (counted : log.events.events.length < UInt64.size)
    (numbered : EventStore.Numbered log.events.events) : Replays log := by
  have next_eq : log.nextOffset.toNat = log.events.events.length :=
    EventStore.toNat_nextOffset counted
  have nonempty_iff : log.nextOffset = 0 ↔ log.events.events = [] := by
    rw [← UInt64.toNat_inj, next_eq, UInt64.toNat_zero, List.length_eq_zero_iff]
  have isOpen' : log.events.isClosed = false := isOpen
  refine ⟨?_, ?_, ?_, fun first last es => exists_of_replay numbered, ?_, ?_⟩
  · intro first last
    rw [replay_eq isOpen]
    constructor
    · intro refused
      by_contra ordered
      rw [if_neg ordered] at refused
      split at refused
      · cases refused
      · cases refused
    · exact fun inverted => if_pos inverted
  · intro first last
    rw [replay_eq isOpen]
    constructor
    · intro refused
      split at refused
      · cases refused
      · rename_i ordered
        split at refused
        · rename_i outside
          exact ⟨UInt64.not_lt.mp ordered, outside⟩
        · cases refused
    · rintro ⟨ordered, outside⟩
      rw [if_neg (UInt64.not_lt.mpr ordered), if_pos outside]
  · intro first last
    constructor
    · rintro ⟨es, given⟩
      obtain ⟨ordered, inside, -⟩ := (replay_eq_ok_iff isOpen).mp given
      exact ⟨ordered, inside⟩
    · rintro ⟨ordered, inside⟩
      exact ⟨_, (replay_eq_ok_iff isOpen).mpr ⟨ordered, inside, rfl⟩⟩
  · intro empty first
    have none : log.events.nextOffset = 0 := nonempty_iff.mpr empty
    rw [replayFrom, whenOpen, isOpen', if_neg Bool.false_ne_true, EventStore.replayFrom,
      if_pos none]
  · intro some_event
    have nonempty : log.events.nextOffset ≠ 0 := fun zero => some_event (nonempty_iff.mp zero)
    refine ⟨(Acks.toNat_sub_one nonempty).trans next_eq, ?_⟩
    intro first
    rw [replayFrom, replay, EventStore.replayFrom, if_neg nonempty]
    rfl

/-! ## Later states -/

/-- A range that was given is given again by every log that holds the same events and maybe more. -/
theorem replay_of_grows (replayed : log.replay first last = .ok es)
    (grows : log.events.events <+: later.events.events) (isOpen : later.isClosed = false)
    (counted : later.events.events.length < UInt64.size) : later.replay first last = .ok es := by
  obtain ⟨ordered, inside, rfl⟩ := (replay_eq_ok_iff (isOpen_of_replay replayed)).mp replayed
  have inside_events := (EventStore.lt_of_lt_nextOffset inside).1
  have stop_eq : (last + 1).toNat = last.toNat + 1 := Acks.toNat_add_one_of_lt inside
  have next_eq : later.nextOffset.toNat = later.events.events.length :=
    EventStore.toNat_nextOffset counted
  have inside_later : last < later.nextOffset := by
    rw [UInt64.lt_iff_toNat_lt, next_eq]
    exact Nat.lt_of_lt_of_le inside_events grows.length_le
  refine (replay_eq_ok_iff isOpen).mpr ⟨ordered, inside_later, ?_⟩
  rw [between_of_grows grows (by omega)]

/-- Over any run of calls and restarts, of which no restart is refused, from wherever a log comes:
while it is open, it replays each range as it should, with every offset of the 64 bits as a bound.
A range that was given once is given again, with the same events, behind any further calls and
restarts that leave the log open. (There must be no more events than offsets.) -/
theorem replay_exact_and_stable {reopen : Log → Disk → Except LogError Log × Disk} {disk : Disk}
    (begins : Begins reopen log disk) (turns : List Turn) :
    ∃ replies final later, takeAll reopen log disk turns = (replies, final, later) ∧
      (∀ result, .restarted result ∈ replies → result = .ok ()) ∧
      (final.isClosed = false → final.events.events.length < UInt64.size → Replays final) ∧
      ∀ first last es, final.replay first last = .ok es →
        ∀ more replies' still last', takeAll reopen final later more = (replies', still, last') →
          (∀ result, .restarted result ∈ replies' → result = .ok ()) ∧
          (still.isClosed = false → still.events.events.length < UInt64.size →
            still.replay first last = .ok es) := by
  obtain ⟨standing, -, reopened⟩ := begins.standing.takeAll turns
  refine ⟨_, _, _, rfl, reopened, ?_, ?_⟩
  · exact fun isOpen counted => replays_of_numbered isOpen counted standing.numbered
  · intro first last es replayed more replies' still last' ran
    obtain ⟨-, grows, reopened'⟩ := standing.takeAll more
    rw [ran] at grows reopened'
    exact ⟨reopened', replay_of_grows replayed grows.isPrefix⟩

/-- The same event twice at the same time; the log is closed and opened again. -/
def repeatedTurns : List Turn :=
  [.call (.append ⟨15, 0, by decide⟩ { type := "put" }),
    .call (.append ⟨15, 0, by decide⟩ { type := "put" }), .call .close, .restart]

/-- The same event once more, read and acknowledged, and the log opened again. -/
def furtherTurns : List Turn :=
  [.call (.append ⟨15, 0, by decide⟩ { type := "put" }), .call (.subscribe ⟨1⟩ 0 none),
    .call (.read ⟨1⟩ 9), .call (.acknowledge ⟨"again", rfl⟩ 2), .restart]

/-- On a disk with nothing on it: two events are replayed behind a restart, and the same two when
there are three, behind another one. -/
theorem replayed_again_after_restart :
    ∃ log start replies final later es replies' still last',
      openIn {} "" 2 = (.ok log, start) ∧
      takeAll (fromDirectory "") log start repeatedTurns = (replies, final, later) ∧
      final.replay 0 1 = .ok es ∧ es.length = 2 ∧
      final.replay 1 0 = .error (.invalidRange 1 0) ∧
      final.replay 0 18446744073709551615 =
        .error (.outOfRange 18446744073709551615 final.nextOffset) ∧
      takeAll (fromDirectory "") final later furtherTurns = (replies', still, last') ∧
      still.events.events.length = 3 ∧ still.replay 0 1 = .ok es := by
  have fits : ∀ {turns}, turns ⊆ repeatedTurns ++ furtherTurns →
      ∀ turn ∈ turns, ¬ turn.Oversized := by
    rintro turns among turn mem ⟨now, draft, rfl, oversized⟩
    have only : now = ⟨15, 0, by decide⟩ ∧ draft = { type := "put" } := by
      simpa [repeatedTurns, furtherTurns] using among mem
    obtain ⟨rfl, rfl⟩ := only
    refine oversized ?_
    change (Wire.write (Event.stamp _ 0 _)).length < UInt32.size
    rw [Event.length_write]
    decide +kernel
  have begins := Begins.opened Disk.stored_empty Disk.unshared_empty (openIn_blank_eq 2)
  obtain ⟨replies, final, later, ran, -, replays, stable⟩ :=
    replay_exact_and_stable begins repeatedTurns
  -- What the two runs come to is looked up in the log in memory.
  obtain ⟨_, grown, raised, _, _, ran', live, inMemory⟩ :=
    takeAll_eq_unbacked (live_blank 2) (by decide) (fits (List.subset_append_left _ _)) {}
  rw [ran] at ran'
  cases ran'
  have final_eq : final.unbacked = (takeAll fromMemory (Log.inMemory 2) {} repeatedTurns).2.1 :=
    (congrArg (fun state => state.2.1) inMemory).symm
  have isOpen : final.unbacked.isClosed = false := by
    rw [final_eq]
    rfl
  have count : final.unbacked.events.events.length = 2 := by
    rw [final_eq]
    rfl
  have next : final.nextOffset = 2 := congrArg UInt64.ofNat count
  have count : final.events.events.length = 2 := count
  obtain ⟨replies', _, _, still, last', ran', -, inMemory'⟩ :=
    takeAll_eq_unbacked live (by rw [count]; decide) (fits (List.subset_append_right _ _)) {}
  have still_eq : still.unbacked = (takeAll fromMemory final.unbacked {} furtherTurns).2.1 :=
    (congrArg (fun state => state.2.1) inMemory').symm
  rw [final_eq] at still_eq
  have isOpen' : still.unbacked.isClosed = false := by
    rw [still_eq]
    rfl
  have count' : still.unbacked.events.events.length = 3 := by
    rw [still_eq]
    rfl
  have count' : still.events.events.length = 3 := count'
  have exact := replays isOpen (by rw [count]; decide)
  obtain ⟨es, given⟩ := (exact.given_iff 0 1).mpr ⟨by decide, by rw [next]; decide⟩
  refine ⟨_, _, replies, final, later, es, replies', still, last', openIn_blank_eq 2, ran, given,
    (exact.given 0 1 es given).1, (exact.inverted_iff 1 0).mpr (by decide),
    (exact.outside_iff 0 _).mpr ⟨by decide, by rw [next]; decide⟩, ran', count', ?_⟩
  exact (stable 0 1 es given furtherTurns _ _ _ ran').2 isOpen' (by rw [count']; decide)

end ChangeLog.Log
