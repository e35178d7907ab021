/-
  Logs that are dropped and opened again. A log that was first opened in a directory without its
  files answers everything like a log in memory that is asked the same, where a restart only takes
  the cursors away and opens the log (`restarts_transparent`). The restarts are never refused, and
  they leave the disk as it was.

  The log in memory is at every moment the other one without its journals (`Log.unbacked`). The
  invariant is `Live`: no recorded offset lies at or past the end of the log, so that taking over
  progress rewinds nobody and writes nothing (`Live.openIn_eq`). The two logs need not hand out the
  same identifiers of cursors, since neither looks at them (`perform_rename`).

  There is one difference. No journal can hold an event whose record takes 4 GiB or more, but a log
  in memory takes it (`four_gib_event_told_apart`). Such an event is refused and nothing comes of
  it, so that all other answers are the same where the log in memory is not asked to append it.
-/
import ChangeLog.Proofs.Log
import ChangeLog.Proofs.Log.Renaming
import ChangeLog.Proofs.Store.Refinement

namespace ChangeLog.Log

/-! ## Turns -/

/-- What happens to a log: it is asked something, or it is dropped and opened again. -/
inductive Turn where
  | call (call : Call)
  | restart
deriving DecidableEq, Repr

/-- What comes of it. -/
inductive Reply where
  | answer (answer : Answer)
  | restarted (result : Except LogError Unit)

/-- Takes a turn. Where opening again fails, what was there before stays. -/
def take (reopen : Log → Disk → Except LogError Log × Disk) (log : Log) (disk : Disk) :
    Turn → Reply × Log × Disk
  | .call call =>
    let (answer, log, disk) := perform log disk call
    (.answer answer, log, disk)
  | .restart =>
    match reopen log disk with
    | (.error fault, disk) => (.restarted (.error fault), log, disk)
    | (.ok log, disk) => (.restarted (.ok ()), log, disk)

/-- Takes turns one after the other. -/
def takeAll (reopen : Log → Disk → Except LogError Log × Disk) (log : Log) (disk : Disk) :
    List Turn → List Reply × Log × Disk
  | [] => ([], log, disk)
  | turn :: turns =>
    let (reply, log, disk) := take reopen log disk turn
    let (replies, log, disk) := takeAll reopen log disk turns
    (reply :: replies, log, disk)

/-- A log in a directory is opened there again, with the same bound on reads. -/
def fromDirectory (directory : String) (log : Log) (disk : Disk) : Except LogError Log × Disk :=
  openIn disk directory log.maxBatch

/-- A log in memory only loses its cursors and forgets that it was closed. -/
def fromMemory (log : Log) (disk : Disk) : Except LogError Log × Disk := (.ok log.restarted, disk)

/-- The turns that can add an event. -/
def Turn.appends : Turn → Bool
  | .call asked => asked.appends
  | .restart => false

/-- Whether an event was refused because its record is too large. -/
def Answer.isTooLarge : Answer → Bool
  | .event (.error (.store .recordTooLarge)) => true
  | _ => false

/-- The same of a reply; a restart is not such a refusal. -/
def Reply.isTooLarge : Reply → Bool
  | .answer given => given.isTooLarge
  | .restarted _ => false

/-- The exchanges that a log in memory takes part in: all but the events that no journal holds. -/
def shared (exchanges : List (Turn × Reply)) : List (Turn × Reply) :=
  exchanges.filter fun exchange => !exchange.2.isTooLarge

/-- The turn appends an event whose record takes 4 GiB or more. -/
def Turn.Oversized (turn : Turn) : Prop :=
  ∃ now draft, turn = .call (.append now draft) ∧ ¬ Journal.Fits (Event.stamp draft 0 now)

/-- The same turn with other identifiers of cursors. -/
def Turn.rename (σ : CursorId → CursorId) : Turn → Turn
  | .call asked => .call (asked.rename σ)
  | .restart => .restart

/-- The same reply with other identifiers of cursors. -/
def Reply.rename (σ : CursorId → CursorId) : Reply → Reply
  | .answer given => .answer (given.rename σ)
  | .restarted result => .restarted result

variable {disk : Disk} {directory : String} {log : Log} {journal : Journal Event}
  {ledger : Journal ProgressRecord} {σ : CursorId → CursorId}

/-! ## Other identifiers -/

theorem take_fromMemory_rename (injective : Function.Injective σ) (log : Log) (disk : Disk)
    (turn : Turn) :
    take fromMemory (log.rename σ) disk (turn.rename σ) =
      ((take fromMemory log disk turn).1.rename σ, (take fromMemory log disk turn).2.1.rename σ,
        (take fromMemory log disk turn).2.2) := by
  cases turn with
  | call call =>
      rw [Turn.rename, take, perform_rename log disk injective]
      rfl
  | restart => rfl

theorem takeAll_fromMemory_rename (injective : Function.Injective σ) (log : Log) (disk : Disk)
    (turns : List Turn) :
    takeAll fromMemory (log.rename σ) disk (turns.map (Turn.rename σ)) =
      ((takeAll fromMemory log disk turns).1.map (Reply.rename σ),
        (takeAll fromMemory log disk turns).2.1.rename σ,
        (takeAll fromMemory log disk turns).2.2) := by
  induction turns generalizing log disk with
  | nil => rfl
  | cons turn turns ih =>
      rw [List.map_cons, takeAll, take_fromMemory_rename injective]
      dsimp only
      rw [ih]
      rfl

/-- A new log in memory has no cursors to rename: other identifiers only show in its answers. -/
theorem answers_rename (injective : Function.Injective σ) {maxBatch : UInt64} {turns : List Turn}
    {replies : List Reply} {later : Disk}
    (ran : takeAll fromMemory (inMemory maxBatch) disk turns = (replies, log, later)) :
    (takeAll fromMemory (inMemory maxBatch) disk (turns.map (Turn.rename σ))).1 =
      replies.map (Reply.rename σ) := by
  have renamed := takeAll_fromMemory_rename injective (inMemory maxBatch) disk turns
  rw [ran] at renamed
  exact congrArg Prod.fst renamed

/-! ## In step with a log in memory -/

/-- The log without its journals. -/
def unbacked (log : Log) : Log :=
  { log with events := log.events.unbacked, progress := log.progress.unbacked }

/-- Looking never finds a record too large. -/
theorem get_not_tooLarge (log : Log) (offset : UInt64) :
    (Answer.event (log.get offset)).isTooLarge = false := by
  unfold get EventStore.get
  by_cases closed : log.events.isClosed = true
  · rw [if_pos closed]
    rfl
  · rw [if_neg closed]
    by_cases behind : log.events.nextOffset ≤ offset
    · rw [if_pos behind]
      rfl
    · rw [if_neg behind]
      cases log.events.events[offset.toNat]? with
      | none => rfl
      | some e => rfl

theorem subscribe_unbacked (log : Log) (fresh : CursorId) (start : UInt64)
    (owner : Option String) :
    log.unbacked.subscribe fresh start owner =
      ((log.subscribe fresh start owner).1, (log.subscribe fresh start owner).2.unbacked) := by
  have flag : log.unbacked.events.isClosed = log.events.isClosed := rfl
  unfold subscribe
  rw [flag]
  by_cases closed : log.events.isClosed = true
  · rw [if_pos closed, if_pos closed]
  · rw [if_neg closed, if_neg closed]
    rfl

theorem read_unbacked (log : Log) (id : CursorId) (max : UInt64) :
    log.unbacked.read id max = ((log.read id max).1, (log.read id max).2.unbacked) := by
  have flag : log.unbacked.events.isClosed = log.events.isClosed := rfl
  unfold read
  rw [flag]
  by_cases closed : log.events.isClosed = true
  · rw [if_pos closed, if_pos closed]
  · rw [if_neg closed, if_neg closed]
    rfl

theorem unsubscribe_unbacked (log : Log) (id : CursorId) :
    log.unbacked.unsubscribe id = ((log.unsubscribe id).1, (log.unsubscribe id).2.unbacked) := by
  have flag : log.unbacked.events.isClosed = log.events.isClosed := rfl
  unfold unsubscribe
  rw [flag]
  by_cases closed : log.events.isClosed = true
  · rw [if_pos closed, if_pos closed]
  · rw [if_neg closed, if_neg closed]
    rfl

/-- Appending: in step with the log in memory, or refused for the size of the record. -/
theorem append_unbacked (h : Live directory journal ledger log disk) (now : Time.Instant)
    (draft : Draft) (other : Disk) :
    ∃ result grown final later, log.append disk now draft = (result, final, later) ∧
      Live directory grown ledger final later ∧
      (((Answer.event result).isTooLarge = false ∧
          log.unbacked.append other now draft = (result, final.unbacked, other)) ∨
        (result = .error (.store .recordTooLarge) ∧ final = log ∧
          ¬ Journal.Fits (Event.stamp draft 0 now))) := by
  obtain ⟨result, grown, final, later, appended, live, -⟩ := append_live h now draft
  refine ⟨result, grown, final, later, appended, live, ?_⟩
  have flag : log.unbacked.events.isClosed = log.events.isClosed := rfl
  have store : log.unbacked.events = log.events.unbacked := rfl
  unfold append at appended ⊢
  rw [flag, store]
  by_cases blank : Text.allBlank draft.type = true
  · rw [if_pos blank] at appended ⊢
    cases appended
    exact .inl ⟨rfl, rfl⟩
  · rw [if_neg blank] at appended ⊢
    cases isClosed : log.events.isClosed with
    | true =>
        rw [if_pos isClosed] at appended
        cases appended
        exact .inl ⟨rfl, rfl⟩
    | false =>
        rw [isClosed, if_neg Bool.false_ne_true] at appended
        by_cases fits : Journal.Fits (Event.stamp draft log.events.nextOffset now)
        · obtain ⟨grown, later, stored, -⟩ := EventStore.append_ok h.events isClosed rfl fits
          rw [stored] at appended
          cases appended
          rw [EventStore.append_unbacked isClosed]
          exact .inl ⟨rfl, rfl⟩
        · rw [EventStore.append_tooLarge h.events isClosed fits] at appended
          cases appended
          exact .inr ⟨rfl, rfl, fun small => fits (Event.fits_stamp_iff.mp small)⟩

theorem acknowledge_unbacked (h : Live directory journal ledger log disk) (consumer : Consumer)
    (offset : UInt64) (other : Disk) :
    ∃ result grown final later, log.acknowledge disk consumer offset = (result, final, later) ∧
      Live directory journal grown final later ∧
      log.unbacked.acknowledge other consumer offset = (result, final.unbacked, other) := by
  obtain ⟨result, grown, final, later, acknowledged, live, -⟩ := acknowledge_live h consumer offset
  refine ⟨result, grown, final, later, acknowledged, live, ?_⟩
  obtain ⟨result', raised, kept, later', recorded, inMemory⟩ :=
    Acks.acknowledge_unbacked h.progress log.acks consumer offset log.events.nextOffset other
  have flag : log.unbacked.events.isClosed = log.events.isClosed := rfl
  have sink : log.unbacked.acks.acknowledge (log.unbacked.progress, other) consumer offset
      log.unbacked.events.nextOffset = (result', raised, kept.unbacked, other) := inMemory
  unfold acknowledge at acknowledged ⊢
  rw [recorded] at acknowledged
  rw [flag, sink]
  by_cases closed : log.events.isClosed = true
  · rw [if_pos closed] at acknowledged ⊢
    cases acknowledged
    rfl
  · rw [if_neg closed] at acknowledged ⊢
    cases acknowledged
    rfl

/-- One call: the same answer from both, or an event was refused for its size. -/
theorem perform_unbacked (h : Live directory journal ledger log disk) (call : Call)
    (other : Disk) :
    ∃ answer grown raised final later, perform log disk call = (answer, final, later) ∧
      Live directory grown raised final later ∧
      ((answer.isTooLarge = false ∧
          perform log.unbacked other call = (answer, final.unbacked, other)) ∨
        (answer.isTooLarge = true ∧ final = log ∧ (Turn.call call).Oversized)) := by
  cases call with
  | append now draft =>
      obtain ⟨result, grown, final, later, appended, live, outcome⟩ :=
        append_unbacked h now draft other
      refine ⟨.event result, grown, ledger, final, later, ?_, live, ?_⟩
      · rw [perform, appended]
      · rcases outcome with ⟨small, inMemory⟩ | ⟨rfl, unchanged, large⟩
        · left
          refine ⟨small, ?_⟩
          rw [perform, inMemory]
        · exact .inr ⟨rfl, unchanged, now, draft, rfl, large⟩
  | acknowledge consumer offset =>
      obtain ⟨result, grown, final, later, acknowledged, live, inMemory⟩ :=
        acknowledge_unbacked h consumer offset other
      refine ⟨.progress result, journal, grown, final, later, ?_, live, .inl ⟨rfl, ?_⟩⟩
      · rw [perform, acknowledged]
      · rw [perform, inMemory]
  | subscribe fresh start owner =>
      obtain ⟨cursors, same⟩ := subscribe_cursors log fresh start owner
      refine ⟨.cursor (log.subscribe fresh start owner).1, journal, ledger,
        { log with cursors }, disk, ?_, h.cursors cursors, .inl ⟨rfl, ?_⟩⟩
      · rw [perform, ← same]
      · rw [perform, subscribe_unbacked, same]
  | read id max =>
      obtain ⟨cursors, same⟩ := read_cursors log id max
      refine ⟨.batch (log.read id max).1, journal, ledger, { log with cursors }, disk, ?_,
        h.cursors cursors, .inl ⟨rfl, ?_⟩⟩
      · rw [perform, ← same]
      · rw [perform, read_unbacked, same]
  | unsubscribe id =>
      obtain ⟨cursors, same⟩ := unsubscribe_cursors log id
      refine ⟨.unsubscribed (log.unsubscribe id).1, journal, ledger, { log with cursors }, disk,
        ?_, h.cursors cursors, .inl ⟨rfl, ?_⟩⟩
      · rw [perform, ← same]
      · rw [perform, unsubscribe_unbacked, same]
  | close => exact ⟨_, journal, ledger, log.close, disk, rfl, close_live h, .inl ⟨rfl, rfl⟩⟩
  | get offset =>
      exact ⟨_, journal, ledger, log, disk, rfl, h, .inl ⟨get_not_tooLarge log offset, rfl⟩⟩
  | _ => exact ⟨_, journal, ledger, log, disk, rfl, h, .inl ⟨rfl, rfl⟩⟩

/-- One turn: both are in step behind it, and a restart leaves the disk as it was. -/
theorem take_unbacked (h : Live directory journal ledger log disk)
    (numbered : log.events.events.length < UInt64.size) (turn : Turn) (other : Disk) :
    ∃ reply grown raised final later,
      take (fromDirectory directory) log disk turn = (reply, final, later) ∧
      Live directory grown raised final later ∧ final.maxBatch = log.maxBatch ∧
      final.events.events.length ≤ log.events.events.length + (if turn.appends then 1 else 0) ∧
      (∀ result, reply = .restarted result → result = .ok ()) ∧
      ((reply.isTooLarge = false ∧
          take fromMemory log.unbacked other turn = (reply, final.unbacked, other)) ∨
        (reply.isTooLarge = true ∧ final = log ∧ turn.Oversized)) := by
  cases turn with
  | restart =>
      refine ⟨.restarted (.ok ()), journal, ledger, log.restarted, disk, ?_, h.restarted, rfl,
        Nat.le_refl _, ?_, .inl ⟨rfl, rfl⟩⟩
      · rw [take, fromDirectory, h.openIn_eq numbered]
      · intro result same
        cases same
        rfl
  | call call =>
      obtain ⟨answer, grown, raised, final, later, performed, live, outcome⟩ :=
        perform_unbacked h call other
      obtain ⟨events, maxBatch⟩ := perform_keeps log disk call
      rw [performed] at events maxBatch
      refine ⟨.answer answer, grown, raised, final, later, ?_, live, maxBatch, ?_, nofun, ?_⟩
      · rw [take, performed]
      · rcases events with same | ⟨appends, e, more⟩
        · dsimp only at same
          rw [same]
          exact Nat.le_add_right _ _
        · dsimp only at more
          rw [more, List.length_append, Turn.appends, if_pos appends]
          exact Nat.le_refl _
      · rcases outcome with ⟨small, inMemory⟩ | refused
        · left
          refine ⟨small, ?_⟩
          rw [take, inMemory]
        · exact .inr refused

/-- Any turns: both are in step behind them. -/
theorem takeAll_unbacked (h : Live directory journal ledger log disk) {turns : List Turn}
    (few : log.events.events.length + turns.countP Turn.appends < UInt64.size) (other : Disk) :
    ∃ replies grown raised final later,
      takeAll (fromDirectory directory) log disk turns = (replies, final, later) ∧
      Live directory grown raised final later ∧ final.maxBatch = log.maxBatch ∧
      final.events.events.length < UInt64.size ∧ replies.length = turns.length ∧
      takeAll fromMemory log.unbacked other ((shared (turns.zip replies)).map Prod.fst) =
        ((shared (turns.zip replies)).map Prod.snd, final.unbacked, other) ∧
      (∀ result, .restarted result ∈ replies → result = .ok ()) ∧
      ∀ turn reply, (turn, reply) ∈ turns.zip replies → reply.isTooLarge = true →
        turn.Oversized := by
  induction turns generalizing log journal ledger disk with
  | nil =>
      rw [List.countP_nil, Nat.add_zero] at few
      refine ⟨[], journal, ledger, log, disk, rfl, h, rfl, few, rfl, rfl, nofun, ?_⟩
      intro turn reply mem
      cases mem
  | cons turn turns ih =>
      rw [List.countP_cons] at few
      obtain ⟨reply, between, partly, middle, halfway, first, live, bound, length, reopened,
        outcome⟩ := take_unbacked h (by omega) turn other
      obtain ⟨replies, grown, raised, final, later, others, live', bound', numbered, lengths,
        inMemory, reopened', large⟩ := ih live (by omega)
      refine ⟨reply :: replies, grown, raised, final, later, ?_, live', bound'.trans bound,
        numbered, ?_, ?_, ?_, ?_⟩
      · rw [takeAll, first]
        dsimp only
        rw [others]
      · rw [List.length_cons, List.length_cons, lengths]
      · rw [List.zip_cons_cons]
        rcases outcome with ⟨small, first'⟩ | ⟨refused, rfl, -⟩
        · have kept : shared ((turn, reply) :: turns.zip replies) =
              (turn, reply) :: shared (turns.zip replies) :=
            List.filter_cons_of_pos (by rw [small]; rfl)
          rw [kept, List.map_cons, List.map_cons, takeAll, first']
          dsimp only
          rw [inMemory]
        · -- A refused event changes nothing, and the log in memory is not asked.
          have skipped : shared ((turn, reply) :: turns.zip replies) =
              shared (turns.zip replies) :=
            List.filter_cons_of_neg (by rw [refused]; decide)
          rw [skipped, inMemory]
      · intro result mem
        rcases List.mem_cons.mp mem with here | later
        · exact reopened result here.symm
        · exact reopened' result later
      · intro asked given mem tooLarge
        rw [List.zip_cons_cons] at mem
        rcases List.mem_cons.mp mem with here | later
        · cases here
          rcases outcome with ⟨small, -⟩ | ⟨-, -, oversized⟩
          · rw [small] at tooLarge
            cases tooLarge
          · exact oversized
        · exact large asked given later tooLarge

/-- Where every event can be recorded, a log in a directory is behind any turns the one in memory,
but for its journals. -/
theorem takeAll_eq_unbacked (h : Live directory journal ledger log disk) {turns : List Turn}
    (few : log.events.events.length + turns.countP Turn.appends < UInt64.size)
    (small : ∀ turn ∈ turns, ¬ turn.Oversized) (other : Disk) :
    ∃ replies grown raised final later,
      takeAll (fromDirectory directory) log disk turns = (replies, final, later) ∧
      Live directory grown raised final later ∧
      takeAll fromMemory log.unbacked other turns = (replies, final.unbacked, other) := by
  obtain ⟨replies, grown, raised, final, later, ran, live, -, -, lengths, inMemory, -, large⟩ :=
    takeAll_unbacked h few other
  have all : shared (turns.zip replies) = turns.zip replies := by
    refine List.filter_eq_self.mpr ?_
    rintro ⟨turn, reply⟩ there
    dsimp only
    cases tooLarge : reply.isTooLarge with
    | false => rfl
    | true => exact absurd (large turn reply there tooLarge) (small turn (List.of_mem_zip there).1)
  rw [all, List.map_fst_zip (Nat.le_of_eq lengths.symm),
    List.map_snd_zip (Nat.le_of_eq lengths)] at inMemory
  exact ⟨replies, grown, raised, final, later, ran, live, inMemory⟩

/-- A log that is first opened in a directory without its files answers any turns that append no
event of 4 GiB or more like one log in memory that is asked the same under the same clock, whatever
identifiers of cursors the two hand out. Over any turns at all, every answer but the refusals of
such events is that of the log in memory, which then is not asked to append these. No restart is
refused: behind any turns, opening the directory again succeeds and changes nothing on the disk.
(There must be no more events than offsets.) -/
theorem restarts_transparent (fresh : Fresh directory disk) (maxBatch : UInt64) :
    ∃ log start, openIn disk directory maxBatch = (.ok log, start) ∧
      ∀ turns : List Turn, turns.countP Turn.appends < UInt64.size →
        ∃ replies final later,
          takeAll (fromDirectory directory) log start turns = (replies, final, later) ∧
          replies.length = turns.length ∧
          ((∀ turn ∈ turns, ¬ turn.Oversized) →
            ∀ σ : CursorId → CursorId, Function.Injective σ →
              (takeAll fromMemory (inMemory maxBatch) {} (turns.map (Turn.rename σ))).1 =
                replies.map (Reply.rename σ)) ∧
          (∀ σ : CursorId → CursorId, Function.Injective σ →
            (takeAll fromMemory (inMemory maxBatch) {}
                ((shared (turns.zip replies)).map fun exchange => exchange.1.rename σ)).1 =
              (shared (turns.zip replies)).map fun exchange => exchange.2.rename σ) ∧
          (∀ turn reply, (turn, reply) ∈ turns.zip replies → reply.isTooLarge = true →
            turn.Oversized) ∧
          (∀ result, .restarted result ∈ replies → result = .ok ()) ∧
          ∃ again, openIn later directory maxBatch = (.ok again, later) := by
  obtain ⟨journal, ledger, start, opened, live⟩ := openIn_of_fresh fresh maxBatch
  refine ⟨_, start, opened, ?_⟩
  intro turns few
  have none_yet : (overJournals journal ledger maxBatch).events.events.length = 0 := rfl
  have room : (overJournals journal ledger maxBatch).events.events.length +
      turns.countP Turn.appends < UInt64.size := by
    rw [none_yet, Nat.zero_add]
    exact few
  obtain ⟨replies, grown, raised, final, later, ran, live', bound, numbered, lengths, inMemory,
    reopened, large⟩ := takeAll_unbacked live room {}
  refine ⟨replies, final, later, ran, lengths, ?_, ?_, large, reopened, ?_⟩
  · intro small σ injective
    obtain ⟨replies', -, -, final', later', again, -, inMemory'⟩ :=
      takeAll_eq_unbacked live room small {}
    obtain ⟨rfl, rfl, rfl⟩ : replies' = replies ∧ final' = final ∧ later' = later := by
      simpa only [Prod.mk.injEq] using again.symm.trans ran
    exact answers_rename injective inMemory'
  · intro σ injective
    have renamed := answers_rename injective inMemory
    rw [List.map_map, List.map_map] at renamed
    exact renamed
  · have reopened := live'.openIn_eq numbered
    rw [bound] at reopened
    exact ⟨_, reopened⟩

/-- An event is read and acknowledged; the log is closed and opened again, refuses the cursor of
before, and has the event and the progress. -/
def closedTurns : List Turn :=
  [.call (.append ⟨7, 0, by decide⟩ { type := "put" }), .call (.subscribe ⟨1⟩ 0 none),
    .call (.read ⟨1⟩ 9), .call (.acknowledge ⟨"c", rfl⟩ 0), .call .close, .restart,
    .call (.read ⟨1⟩ 9), .call (.resumeOffset ⟨"c", rfl⟩), .call (.get 0)]

/-- The next identifier. -/
def nextId (id : CursorId) : CursorId := ⟨id.value + 1⟩

/-- On a disk with nothing on it, and against a log in memory with other identifiers. -/
theorem restart_on_empty_disk :
    ∃ log start replies final later put, openIn {} "" 2 = (.ok log, start) ∧
      takeAll (fromDirectory "") log start closedTurns = (replies, final, later) ∧
      (takeAll fromMemory (inMemory 2) {} (closedTurns.map (Turn.rename nextId))).1 =
        replies.map (Reply.rename nextId) ∧
      (∃ again, openIn later "" 2 = (.ok again, later)) ∧
      put.offset = 0 ∧ put.type = "put" ∧ put.time.seconds = 7 ∧
      replies =
        [.answer (.event (.ok put)), .answer (.cursor (.ok ⟨1⟩)),
          .answer (.batch (.ok { events := [put], position := 1 })), .answer (.progress (.ok 0)),
          .answer .closed, .restarted (.ok ()), .answer (.batch (.error (.cursorNotFound ⟨1⟩))),
          .answer (.progress (.ok 1)), .answer (.event (.ok put))] := by
  have injective : Function.Injective nextId := by
    intro a b same
    obtain ⟨a⟩ := a
    obtain ⟨b⟩ := b
    simpa [nextId] using same
  have small : ∀ turn ∈ closedTurns, ¬ turn.Oversized := by
    rintro turn mem ⟨now, draft, rfl, oversized⟩
    have only : now = ⟨7, 0, by decide⟩ ∧ draft = { type := "put" } := by
      simpa [closedTurns] using mem
    obtain ⟨rfl, rfl⟩ := only
    refine oversized ?_
    change (Wire.write (Event.stamp _ 0 _)).length < UInt32.size
    rw [Event.length_write]
    decide +kernel
  obtain ⟨log, start, opened, transparent⟩ := restarts_transparent fresh_empty 2
  obtain ⟨replies, final, later, ran, -, renamed, -, -, -, again⟩ :=
    transparent closedTurns (by decide)
  obtain ⟨replies', -, -, final', later', ran', -, inMemory⟩ :=
    takeAll_eq_unbacked (live_blank 2) (by decide) small {}
  have replies_eq : replies = replies' := by
    have blank := openIn_blank_eq 2
    rw [opened] at blank
    cases blank
    exact congrArg Prod.fst (ran.symm.trans ran')
  refine ⟨log, start, replies, final, later, Event.stamp { type := "put" } 0 ⟨7, 0, by decide⟩,
    opened, ran, renamed small nextId injective, again, rfl, rfl, rfl, ?_⟩
  rw [replies_eq]
  exact (congrArg Prod.fst inMemory).symm

/-! ## Records that no journal holds -/

/-- A submission of so many zero bytes. -/
def zeros (n : Nat) : Draft := { type := "put", after := List.replicate n 0 }

/-- It is appended. -/
def zerosTurns (now : Time.Instant) (n : Nat) : List Turn := [.call (.append now (zeros n))]

theorem not_fits_zeros {n : Nat} (large : UInt32.size ≤ n) (offset : UInt64)
    (now : Time.Instant) : ¬ Journal.Fits (Event.stamp (zeros n) offset now) := by
  have length : (Event.stamp (zeros n) offset now).after.length = n := List.length_replicate
  unfold Journal.Fits
  rw [Event.length_write, length]
  omega

/-- A log in a directory refuses an event that its journal cannot hold. -/
theorem append_tooLarge (h : Live directory journal ledger log disk)
    (isOpen : log.events.isClosed = false) {now : Time.Instant} {draft : Draft}
    (typed : Text.allBlank draft.type = false)
    (large : ¬ Journal.Fits (Event.stamp draft log.events.nextOffset now)) :
    log.append disk now draft = (.error (.store .recordTooLarge), log, disk) := by
  rw [append, typed, if_neg Bool.false_ne_true, isOpen, if_neg Bool.false_ne_true,
    EventStore.append_tooLarge h.events isOpen large]
  rfl

/-- A log in memory takes an event of any size. -/
theorem append_inMemory {draft : Draft} (typed : Text.allBlank draft.type = false)
    (maxBatch : UInt64) (disk : Disk) (now : Time.Instant) :
    ((inMemory maxBatch).append disk now draft).1 = .ok (Event.stamp draft 0 now) := by
  rw [append, typed]
  rfl

/-- From 4 GiB of payload on, the two logs answer differently. -/
theorem zeros_told_apart {n : Nat} (large : UInt32.size ≤ n) (now : Time.Instant)
    (maxBatch : UInt64) :
    ∃ log start, openIn {} "" maxBatch = (.ok log, start) ∧
      takeAll (fromDirectory "") log start (zerosTurns now n) =
        ([.answer (.event (.error (.store .recordTooLarge)))], log, start) ∧
      ∀ σ : CursorId → CursorId,
        (takeAll fromMemory (inMemory maxBatch) {} ((zerosTurns now n).map (Turn.rename σ))).1 =
          [.answer (.event (.ok (Event.stamp (zeros n) 0 now)))] := by
  have typed : Text.allBlank (zeros n).type = false := by
    change Text.allBlank "put" = false
    decide
  refine ⟨_, blankFiles, openIn_blank_eq maxBatch, ?_, ?_⟩
  · rw [zerosTurns, takeAll, take, perform,
      append_tooLarge (live_blank maxBatch) rfl typed (not_fits_zeros large _ now)]
    rfl
  · intro σ
    have given := append_inMemory typed maxBatch {} now
    change [Reply.answer (.event ((inMemory maxBatch).append {} now (zeros n)).1)] = _
    rw [given]

/-- A payload of 4 GiB is refused by the log in a directory and taken by the one in memory, so that
their answers differ whatever identifiers of cursors there are. -/
theorem four_gib_event_told_apart :
    ∃ log start replies final later, openIn {} "" 2 = (.ok log, start) ∧
      takeAll (fromDirectory "") log start (zerosTurns ⟨17, 0, by decide⟩ UInt32.size) =
        (replies, final, later) ∧
      replies = [.answer (.event (.error (.store .recordTooLarge)))] ∧
      ∀ σ : CursorId → CursorId,
        (takeAll fromMemory (inMemory 2) {}
            ((zerosTurns ⟨17, 0, by decide⟩ UInt32.size).map (Turn.rename σ))).1 ≠
          replies.map (Reply.rename σ) := by
  obtain ⟨log, start, opened, refused, taken⟩ :=
    zeros_told_apart (Nat.le_refl UInt32.size) ⟨17, 0, by decide⟩ 2
  refine ⟨log, start, _, log, start, opened, refused, rfl, ?_⟩
  intro σ same
  rw [taken σ] at same
  cases same

end ChangeLog.Log
