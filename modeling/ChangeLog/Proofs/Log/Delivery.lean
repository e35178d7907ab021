/-
  What cursors hand out over a run of calls. Whatever is asked in between, an open cursor has handed
  out the events from where it started to its position, each one once and in order
  (`cursor_delivers_once`), and replaying that range gives the same events at any later time.

  `handed` keeps the account of one cursor call by call. The invariant is `Tracked`: one call keeps
  it (`Tracked.perform`), and so does any run (`Tracked.performAll`). Calls that do not name the
  cursor leave it alone, and the log in front of its position does not change any more.
-/
import ChangeLog.Proofs.Acks
import ChangeLog.Proofs.Log.Calls

namespace ChangeLog.Log

/-- The account of a cursor after one more call and its answer. It begins anew when a cursor is
opened under the identifier. -/
def handed (id : CursorId) (seen : List Event) : Call × Answer → List Event
  | (.subscribe fresh _ _, .cursor (.ok _)) => if fresh = id then [] else seen
  | (.read other _, .batch (.ok batch)) => if other = id then seen ++ batch.events else seen
  | _ => seen

/-- All events that the reads on a cursor gave since it was opened, one batch behind the other. -/
def delivered (id : CursorId) (exchanges : List (Call × Answer)) : List Event :=
  exchanges.foldl (handed id) []

/-- The cursor under an identifier, if it is open, was opened by one of the calls `made`, and what
it handed out is the part of the log from its start to its position. -/
def Tracked (id : CursorId) (made : List Call) (log : Log) (seen : List Event) : Prop :=
  ∀ cursor, log.cursors.find? id = some cursor →
    .subscribe id cursor.start cursor.owner ∈ made ∧
    cursor.start.toNat ≤ cursor.position.toNat ∧
    cursor.position.toNat ≤ log.events.events.length ∧
    seen = between log.events.events cursor.start cursor.position

variable {log : Log} {disk : Disk} {id : CursorId} {made : List Call} {seen : List Event}

/-! ## Replay -/

/-- Replaying up to the event in front of `stop` gives the part of the log up to `stop`. -/
theorem replay_eq_between {first stop : UInt64} (isOpen : log.isClosed = false)
    (numbered : log.events.events.length < UInt64.size) (ordered : first < stop)
    (inside : stop.toNat ≤ log.events.events.length) :
    log.replay first (stop - 1) = .ok (between log.events.events first stop) := by
  have next_eq : log.nextOffset.toNat = log.events.events.length :=
    EventStore.toNat_nextOffset numbered
  have ordered := UInt64.lt_iff_toNat_lt.mp ordered
  have nonzero : stop ≠ 0 := by
    rintro rfl
    exact Nat.not_lt_zero _ ordered
  have last_eq := Acks.toNat_sub_one nonzero
  refine (replay_eq_ok_iff isOpen).mpr ⟨?_, ?_, ?_⟩
  · rw [UInt64.le_iff_toNat_le]
    omega
  · rw [UInt64.lt_iff_toNat_lt]
    omega
  · rw [UInt64.sub_add_cancel]

/-! ## The account of a cursor -/

/-- A call that does not name the cursor adds nothing to its account. -/
theorem handed_of_not_touches {call : Call} (apart : ¬ call.Touches id) (seen : List Event)
    (answer : Answer) : handed id seen (call, answer) = seen := by
  unfold handed
  split
  · rename_i opened
    cases opened
    exact if_neg apart
  · rename_i gave
    cases gave
    exact if_neg apart
  · rfl

theorem tracked_nil (empty : log.cursors = {}) : Tracked id [] log [] := by
  intro cursor found
  rw [empty, Cursors.find?_empty] at found
  cases found

theorem Tracked.more (h : Tracked id made log seen) (calls : List Call) :
    Tracked id (made ++ calls) log seen := by
  intro cursor found
  obtain ⟨opened, rest⟩ := h cursor found
  exact ⟨List.mem_append_left _ opened, rest⟩

/-- Where the cursor stays and the log only grows, the account stays right. -/
theorem Tracked.elsewhere {later : Log} (h : Tracked id made log seen)
    (same : later.cursors.find? id = log.cursors.find? id)
    (grows : log.events.events <+: later.events.events) : Tracked id made later seen := by
  intro cursor found
  rw [same] at found
  obtain ⟨opened, ordered, inside, seen_eq⟩ := h cursor found
  refine ⟨opened, ordered, Nat.le_trans inside grows.length_le, ?_⟩
  rw [between_of_grows grows inside]
  exact seen_eq

/-- A cursor that is opened has handed out nothing. -/
theorem Tracked.subscribe (h : Tracked id made log seen) (start : UInt64)
    (owner : Option String) :
    Tracked id (made ++ [.subscribe id start owner]) (log.subscribe id start owner).2
      (handed id seen (.subscribe id start owner, .cursor (log.subscribe id start owner).1)) := by
  rcases subscribe_cases log id start owner with ⟨fault, refused⟩ | ⟨near, opened⟩
  · rw [refused]
    exact h.more _
  · rw [opened]
    intro cursor found
    dsimp only at found
    rw [Cursors.find?_insert, if_pos rfl] at found
    cases found
    have inside : start.toNat ≤ log.events.events.length :=
      Nat.le_trans (UInt64.le_iff_toNat_le.mp near) log.events.toNat_nextOffset_le
    refine ⟨List.mem_append_right _ (List.mem_singleton_self _), Nat.le_refl _, inside, ?_⟩
    rw [between_self]
    exact if_pos rfl

/-- A read adds the part that it moves the cursor past. -/
theorem Tracked.read (h : Tracked id made log seen) (max : UInt64) :
    Tracked id made (log.read id max).2
      (handed id seen (.read id max, .batch (log.read id max).1)) := by
  rcases read_cases log id max with ⟨fault, refused⟩ | ⟨cursor, stop, found, gave, stop_eq⟩
  · rw [refused]
    exact h
  · obtain ⟨opened, ordered, inside, seen_eq⟩ := h cursor found
    have next_le : log.nextOffset.toNat ≤ log.events.events.length :=
      log.events.toNat_nextOffset_le
    have forward : cursor.position.toNat ≤ stop.toNat := by omega
    have joined : between log.events.events cursor.start cursor.position ++
        between log.events.events cursor.position stop =
        between log.events.events cursor.start stop := between_append ordered forward
    rw [gave]
    intro moved there
    dsimp only at there
    rw [Cursors.find?_move, if_pos rfl, found] at there
    cases there
    refine ⟨opened, Nat.le_trans ordered forward, ?_, ?_⟩
    · dsimp only
      omega
    · rw [← seen_eq] at joined
      rw [← joined]
      exact if_pos rfl

/-- A cursor that is closed has no account any more. -/
theorem Tracked.unsubscribe (h : Tracked id made log seen) :
    Tracked id made (log.unsubscribe id).2 seen := by
  rcases unsubscribe_cases log id with ⟨fault, refused⟩ | gone
  · rw [refused]
    exact h
  · rw [gone]
    intro cursor found
    dsimp only at found
    rw [Cursors.find?_erase, if_pos rfl] at found
    cases found

/-- One call keeps the account right. -/
theorem Tracked.perform (h : Tracked id made log seen) (disk : Disk) (call : Call) :
    Tracked id (made ++ [call]) (perform log disk call).2.1
      (handed id seen (call, (perform log disk call).1)) := by
  by_cases touches : call.Touches id
  · cases call with
    | subscribe fresh start owner =>
        cases touches
        exact h.subscribe start owner
    | read other max =>
        cases touches
        exact (h.read max).more _
    | unsubscribe other =>
        cases touches
        exact h.unsubscribe.more _
    | _ => exact touches.elim
  · rw [handed_of_not_touches touches]
    exact (h.elsewhere (find?_perform touches log disk)
      (isPrefix_events_perform log disk call)).more _

/-- Any calls keep the account right. -/
theorem Tracked.performAll (h : Tracked id made log seen) (disk : Disk) (calls : List Call) :
    Tracked id (made ++ calls) (performAll log disk calls).2.1
      ((calls.zip (performAll log disk calls).1).foldl (handed id) seen) := by
  induction calls generalizing log disk made seen with
  | nil =>
      rw [List.append_nil]
      exact h
  | cons call calls ih =>
      have others := ih (h.perform disk call) (Log.perform log disk call).2.2
      rw [List.append_assoc, List.singleton_append] at others
      rw [performAll_cons]
      exact others

/-! ## Reads -/

/-- A read that is not refused gives what the log has behind the position, up to what was asked for
and to the log's bound, and reports the cursor's new position. -/
theorem read_ok {cursor : Cursor} {max : UInt64} {batch : Batch} {next : Log}
    (found : log.cursors.find? id = some cursor) (gave : log.read id max = (.ok batch, next)) :
    next.cursors.find? id = some { cursor with position := batch.position } ∧
      batch.events.length = min (min max.toNat log.maxBatch.toNat)
        (log.nextOffset.toNat - cursor.position.toNat) := by
  rcases read_cases log id max with ⟨fault, refused⟩ | ⟨same, stop, there, read, stop_eq⟩
  · rw [refused] at gave
    cases gave
  · rw [found] at there
    cases there
    rw [read] at gave
    cases gave
    have next_le : log.nextOffset.toNat ≤ log.events.events.length :=
      log.events.toNat_nextOffset_le
    constructor
    · dsimp only
      rw [Cursors.find?_move, if_pos rfl, found]
      rfl
    · dsimp only
      by_cases nothing : stop.toNat = cursor.position.toNat
      · rw [between, nothing, Nat.sub_self, List.take_zero]
        change 0 = _
        omega
      · rw [length_between (by omega)]
        omega

/-- Over any run of calls on a log that starts without cursors, and for every cursor that is open
behind it: all that its reads gave is the part of the log from where it was opened to its position,
each event once and in order. A further read gives exactly as many events as it may and reports the
position behind them, calls on other cursors leave this one alone, and replaying the range gives the
same events at any later time. (The last needs that offsets can count the events.) -/
theorem cursor_delivers_once (empty : log.cursors = {}) (disk : Disk) (calls : List Call) :
    ∃ answers final later, performAll log disk calls = (answers, final, later) ∧
      ∀ id cursor, final.cursors.find? id = some cursor →
        .subscribe id cursor.start cursor.owner ∈ calls ∧
        cursor.start.toNat ≤ cursor.position.toNat ∧
        cursor.position.toNat ≤ final.events.events.length ∧
        delivered id (calls.zip answers) =
          between final.events.events cursor.start cursor.position ∧
        (∀ max batch next, final.read id max = (.ok batch, next) →
          next.cursors.find? id = some { cursor with position := batch.position } ∧
          batch.events.length = min (min max.toNat log.maxBatch.toNat)
            (final.nextOffset.toNat - cursor.position.toNat)) ∧
        (final.isClosed = false → ∀ max, ∃ batch next, final.read id max = (.ok batch, next)) ∧
        (∀ call, ¬ call.Touches id →
          (perform final later call).2.1.cursors.find? id = some cursor) ∧
        (cursor.start < cursor.position → ∀ more replies still last,
          performAll final later more = (replies, still, last) → still.isClosed = false →
          still.events.events.length < UInt64.size →
          still.replay cursor.start (cursor.position - 1) =
            .ok (delivered id (calls.zip answers))) := by
  refine ⟨_, _, _, rfl, ?_⟩
  intro id cursor found
  have start : Tracked id [] log [] := tracked_nil empty
  obtain ⟨opened, ordered, inside, seen_eq⟩ := start.performAll disk calls cursor found
  have bound := (performAll_keeps log disk calls).2
  refine ⟨opened, ordered, inside, seen_eq, ?_, ?_, ?_, ?_⟩
  · intro max batch next gave
    rw [← bound]
    exact read_ok found gave
  · exact fun isOpen max => exists_read_eq_ok found isOpen max
  · exact fun call apart => (find?_perform apart _ _).trans found
  · intro nonempty more replies still last ran isOpen numbered
    have grows := (performAll_keeps (performAll log disk calls).2.1
      (performAll log disk calls).2.2 more).1
    rw [ran] at grows
    rw [replay_eq_between isOpen numbered nonempty (Nat.le_trans inside grows.length_le),
      between_of_grows grows inside]
    exact congrArg Except.ok seen_eq.symm

/-- Two cursors over a log that grows between the reads; each read asks for more than it may. -/
def cappedReads : List Call :=
  [.append ⟨5, 0, by decide⟩ { type := "put" }, .append ⟨5, 0, by decide⟩ { type := "put" },
    .subscribe ⟨1⟩ 1 none, .subscribe ⟨2⟩ 2 none, .read ⟨1⟩ 9,
    .append ⟨4, 0, by decide⟩ { type := "put" }, .append ⟨6, 0, by decide⟩ { type := "drop" },
    .read ⟨2⟩ 1, .read ⟨1⟩ 9]

/-- Reads of one event and of two, with others in between, are the replay of the three. -/
theorem capped_reads_delivered_once :
    ∃ answers final later, performAll (inMemory 2) {} cappedReads = (answers, final, later) ∧
      final.cursors.find? ⟨1⟩ = some { owner := none, start := 1, position := 4 } ∧
      (delivered ⟨1⟩ (cappedReads.zip answers)).length = 3 ∧
      final.replay 1 3 = .ok (delivered ⟨1⟩ (cappedReads.zip answers)) := by
  have none_open : (inMemory 2).cursors = {} := rfl
  obtain ⟨answers, final, later, ran, delivers⟩ := cursor_delivers_once none_open {} cappedReads
  have final_eq : final = (performAll (inMemory 2) {} cappedReads).2.1 := by rw [ran]
  have found : final.cursors.find? ⟨1⟩ = some { owner := none, start := 1, position := 4 } := by
    rw [final_eq]
    rfl
  have count : final.events.events.length = 4 := by
    rw [final_eq]
    rfl
  have isOpen : final.isClosed = false := by
    rw [final_eq]
    rfl
  obtain ⟨-, -, inside, all, -, -, -, replayed⟩ := delivers _ _ found
  refine ⟨answers, final, later, ran, found, ?_, ?_⟩
  · rw [all, length_between inside]
    rfl
  · exact replayed (by decide) [] _ _ _ rfl isOpen (by rw [count]; decide)

end ChangeLog.Log
