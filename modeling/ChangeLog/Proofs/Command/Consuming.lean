/-
  Consumers at the command line. A command leaves nothing behind but files; the next one opens them
  and finds the log as it was left (`Finds`). A consumer that consumes and acknowledges is shown the
  part of the log from where it resumed before to where it resumes after, and no command but these
  moves that place (`carryOut_finds`). The parts meet, so that over any run of commands they make up
  the log from its start, each event once (`consumed_exactly_once`). What is shown is what is
  printed, in either format.
-/
import ChangeLog.Proofs.Command.Printing
import ChangeLog.Proofs.Log.Bounds
import ChangeLog.Proofs.Log
import ChangeLog.Proofs.Run

namespace ChangeLog

/-! ## Where consumers resume -/

/-- The last event of a part of the log stands right in front of the end of the part. -/
theorem EventStore.Numbered.getLast?_between {events : List Event} (numbered : Numbered events)
    {first stop : UInt64} {e : Event} (inside : stop.toNat ≤ events.length)
    (last : (between events first stop).getLast? = some e) :
    first ≤ e.offset ∧ e.offset.toNat + 1 = stop.toNat := by
  have length : (between events first stop).length = stop.toNat - first.toNat :=
    length_between inside
  have some_left : 0 < (between events first stop).length := by
    refine List.length_pos_iff.mpr ?_
    intro nothing
    rw [nothing] at last
    cases last
  have ordered : first.toNat < stop.toNat := by omega
  have stop_lt : stop.toNat < UInt64.size := stop.toNat_lt
  rw [List.getLast?_eq_getElem?, length, between, List.getElem?_take, if_pos (by omega),
    List.getElem?_drop] at last
  have offset := congrArg UInt64.toNat (numbered _ e last)
  rw [UInt64.toNat_ofNat_of_lt' (by omega)] at offset
  exact ⟨UInt64.le_iff_toNat_le.mpr (by omega), by omega⟩

namespace Log

variable {directory : String} {disk : Disk} {log : Log} {journal : Journal Event}
  {ledger : Journal ProgressRecord} {c : Consumer} {offset : UInt64}

theorem Live.inside (h : Live directory journal ledger log disk) : Inside log := by
  intro c
  rw [Acks.slot, h.slots]
  cases found : log.progress.progress.get? c with
  | none => exact Nat.zero_le _
  | some offset =>
      obtain ⟨inside, below⟩ := h.bound c offset found
      change (offset + 1).toNat ≤ _
      rw [Acks.toNat_add_one below]
      exact inside

/-- An offset of the log that is not in front of where a consumer resumes is acknowledged, and the
consumer resumes behind it. -/
theorem acknowledge_ahead (isOpen : log.events.isClosed = false)
    (inside : offset < log.events.nextOffset) (ahead : log.acks.slot c ≤ offset) (disk : Disk) :
    ∃ after later, log.acknowledge disk c offset = (.ok offset, after, later) ∧
      ∀ k, after.acks.slot k = if k = c then offset + 1 else log.acks.slot k := by
  unfold acknowledge
  rw [isOpen, if_neg Bool.false_ne_true]
  rcases Acks.acknowledge_cases log.acks (log.progress, disk) c offset log.events.nextOffset with
    ⟨outside, -⟩ | ⟨-, current, shown, low, -⟩ | ⟨-, -, outcome⟩
  · exact absurd inside (UInt64.not_lt.mpr outside)
  · rw [Acks.progress_eq_some_iff] at shown
    rw [UInt64.le_iff_toNat_le] at ahead low
    omega
  · rcases outcome with ⟨cause, failed, tried, -⟩ | ⟨⟨kept, later⟩, -, raised⟩
    · exact absurd tried (log.progress.record_ne_error disk c offset)
    · rw [raised]
      exact ⟨_, later, rfl, fun k => Acks.slot_insert log.acks c k (offset + 1)⟩

/-- An acknowledgement leaves the slots of others alone. -/
theorem slot_acknowledge_of_ne {other : Consumer} (ne : c ≠ other) (log : Log) (disk : Disk)
    (offset : UInt64) :
    (log.acknowledge disk other offset).2.1.acks.slot c = log.acks.slot c := by
  unfold acknowledge
  split
  · rfl
  · rcases Acks.acknowledge_cases log.acks (log.progress, disk) other offset
        log.events.nextOffset with
      ⟨-, outside⟩ | ⟨-, current, -, -, stale⟩ | ⟨-, -, outcome⟩
    · rw [outside]
    · rw [stale]
    · rcases outcome with ⟨cause, failed, -, refused⟩ | ⟨recorded, -, raised⟩
      · rw [refused]
        exact Acks.slot_reserve log.acks other c
      · rw [raised]
        dsimp only
        rw [Acks.slot_insert, if_neg ne]

end Log

namespace Command

/-! ## What commands do -/

/-- Whether a command was carried out to its end. -/
def Outcome.isDone (o : Outcome) : Bool :=
  match o.ending with
  | .done => true
  | .failed _ | .serving _ => false

/-- The commands that can add an event. -/
def appends : Command → Bool
  | .append _ => true
  | _ => false

/-- A consumer's commands that consume and acknowledge. -/
def processes (c : Consumer) : Command → Bool
  | .consume name _ acknowledges => name = c.name && acknowledges
  | _ => false

/-- All commands but starting a server and acknowledging offsets of a consumer's by hand. -/
def respects (c : Consumer) : Command → Bool
  | .acknowledge name _ => name ≠ c.name
  | .serve _ => false
  | _ => true

/-- Carries out what a command line asks for. -/
def carryOut (disk : Disk) (line : Invocation × Ambient) : Outcome × Disk :=
  line.1.run disk line.2

/-- What a consumer was shown and acknowledged in one exchange. -/
def credited (c : Consumer) (exchange : (Invocation × Ambient) × Outcome) : List Event :=
  if exchange.1.1.command.processes c && exchange.2.isDone then exchange.2.shown else []

/-- The same of all exchanges, one behind the other. -/
def processed (c : Consumer) (exchanges : List ((Invocation × Ambient) × Outcome)) : List Event :=
  exchanges.flatMap (credited c)

/-- Opening the log in a directory finds this log, just opened and live. -/
structure Finds (directory : String) (log : Log) (disk : Disk) : Prop where
  opens : ∃ opened journal ledger,
    Log.openIn disk directory Log.defaultMaxBatch = (.ok log, opened) ∧
      Log.Live directory journal ledger log opened
  isOpen : log.events.isClosed = false
  maxBatch : log.maxBatch = Log.defaultMaxBatch

/-- What a command does to the log, as far as a consumer is concerned: the log grows at most by the
event that the command appends, consuming shows and prints what the consumer has left or as much of
it as it may, and only where that is acknowledged the consumer resumes somewhere else. -/
structure Advances (c : Consumer) (format : Format) (command : Command) (log : Log)
    (outcome : Outcome) (after : Log) : Prop where
  grows : log.events.events <+: after.events.events
  few : after.events.events.length ≤
    log.events.events.length + if command.appends then 1 else 0
  stays : command.processes c = false → after.acks.slot c = log.acks.slot c
  consumes : ∀ max acknowledges, command = .consume c.name max acknowledges →
    outcome.isDone = true ∧ Prints c acknowledges format outcome ∧ ∃ stop,
      stop.toNat = (log.acks.slot c).toNat + min (min max.toNat Log.defaultMaxBatch.toNat)
        (log.nextOffset.toNat - (log.acks.slot c).toNat) ∧
      outcome.shown = between log.events.events (log.acks.slot c) stop ∧
      after.acks.slot c = if acknowledges then stop else log.acks.slot c

variable {directory : String} {disk later : Disk} {log : Log} {journal : Journal Event}
  {ledger : Journal ProgressRecord} {c : Consumer} {format : Format}

theorem exists_of_processes {command : Command} (passes : command.processes c = true) :
    ∃ max, command = .consume c.name max true := by
  unfold processes at passes
  split at passes
  · rename_i name max acknowledges
    rw [Bool.and_eq_true, decide_eq_true_eq] at passes
    obtain ⟨rfl, rfl⟩ := passes
    exact ⟨max, rfl⟩
  · cases passes

/-! ## Opening -/

theorem finds_of_fresh (h : Log.Fresh directory disk) :
    ∃ log, Finds directory log disk ∧ log.events.events = [] ∧ ∀ c, log.acks.slot c = 0 := by
  obtain ⟨journal, ledger, opened, opening, live⟩ :=
    Log.openIn_of_fresh h Log.defaultMaxBatch
  exact ⟨_, ⟨⟨opened, journal, ledger, opening, live⟩, rfl, rfl⟩, rfl, fun _ => rfl⟩

/-- The log as a command leaves it is what the next command finds, without its cursors. -/
theorem finds_of_live (h : Log.Live directory journal ledger log disk)
    (numbered : log.events.events.length < UInt64.size)
    (maxBatch : log.maxBatch = Log.defaultMaxBatch) : Finds directory log.restarted disk := by
  refine ⟨⟨disk, journal, ledger, ?_, h.restarted⟩, rfl, maxBatch⟩
  rw [← maxBatch]
  exact h.openIn_eq numbered

/-! ## One command -/

namespace Session

theorem consumerOf_cases (name : String) :
    (∃ cause, consumerOf name = .error cause) ∨
      ∃ d : Consumer, d.name = name ∧ consumerOf name = .ok d := by
  unfold consumerOf
  cases named : Consumer.ofText name with
  | error fault => exact .inl ⟨_, rfl⟩
  | ok d =>
      refine .inr ⟨d, ?_, rfl⟩
      unfold Consumer.ofText at named
      split at named
      · cases named
        rfl
      · cases named

/-- What a consumer has left is shown from where it resumes, and the cursor for it is gone again. -/
theorem unread_eq (isOpen : log.events.isClosed = false)
    (inside : log.acks.slot c ≤ log.events.nextOffset) (s : Session) (max : UInt64) :
    ∃ stop cursors,
      s.unread log c max =
        .ok (between log.events.events (log.acks.slot c) stop, { log with cursors }) ∧
      stop.toNat = (log.acks.slot c).toNat + min (min max.toNat log.maxBatch.toNat)
        (log.nextOffset.toNat - (log.acks.slot c).toNat) := by
  let cursor : Cursor := ⟨some c.name, log.acks.slot c, log.acks.slot c⟩
  let opened : Cursors :=
    ⟨(log.cursors.erase s.ambient.fresh).entries ++ [(s.ambient.fresh, cursor)]⟩
  have subscribed : log.subscribe s.ambient.fresh (log.acks.slot c) (some c.name) =
      (.ok s.ambient.fresh, { log with cursors := opened }) := by
    rw [Log.subscribe, isOpen, if_neg Bool.false_ne_true, Cursors.subscribe,
      if_neg (UInt64.not_lt.mpr inside)]
  have found : opened.find? s.ambient.fresh = some cursor := by
    rw [Cursors.find?_insert, if_pos rfl]
  obtain ⟨stop, handed, stop_eq⟩ := Cursors.read_eq found isOpen (min max log.maxBatch)
  rw [Cursors.toNat_min] at stop_eq
  have there : (opened.move s.ambient.fresh stop).find? s.ambient.fresh =
      some { cursor with position := stop } := by
    rw [Cursors.find?_move, if_pos rfl, found]
    rfl
  refine ⟨stop, (opened.move s.ambient.fresh stop).erase s.ambient.fresh, ?_, stop_eq⟩
  have resume : log.resumeOffset c = .ok (log.acks.slot c) := by
    rw [Log.resumeOffset, Log.whenOpen, isOpen, Acks.resumeOffset_eq]
    rfl
  have read : Log.read { log with cursors := opened } s.ambient.fresh max =
      (.ok { events := between log.events.events (log.acks.slot c) stop, position := stop },
        { log with cursors := opened.move s.ambient.fresh stop }) := by
    rw [Log.read, isOpen, if_neg Bool.false_ne_true]
    dsimp only
    rw [handed]
  have closed : Log.unsubscribe { log with cursors := opened.move s.ambient.fresh stop }
      s.ambient.fresh = (.ok (), { log with cursors :=
        (opened.move s.ambient.fresh stop).erase s.ambient.fresh }) := by
    rw [Log.unsubscribe, isOpen, if_neg Bool.false_ne_true]
    dsimp only
    rw [Cursors.unsubscribe, there]
  rw [unread, resume]
  dsimp only [bind, Except.bind]
  rw [subscribed]
  dsimp only
  rw [read]
  dsimp only
  rw [closed]
  rfl

/-- Consuming shows what a consumer has left, or as much of it as is asked for, and prints it; where
it is acknowledged, the consumer resumes behind it. It is never refused. -/
theorem consume_live (h : Log.Live directory journal ledger log disk)
    (isOpen : log.events.isClosed = false) (numbered : log.events.events.length < UInt64.size)
    (s : Session) (d : Consumer) (max : UInt64) (acknowledges : Bool) :
    ∃ outcome grown after later,
      s.consume log disk d.name max acknowledges = (outcome, later) ∧
      Log.Live directory journal grown after later ∧ after.events = log.events ∧
      after.maxBatch = log.maxBatch ∧ outcome.isDone = true ∧
      Prints d acknowledges s.format outcome ∧ ∃ stop,
        stop.toNat = (log.acks.slot d).toNat + min (min max.toNat log.maxBatch.toNat)
          (log.nextOffset.toNat - (log.acks.slot d).toNat) ∧
        outcome.shown = between log.events.events (log.acks.slot d) stop ∧
        ∀ k, after.acks.slot k =
          if acknowledges = true ∧ k = d then stop else log.acks.slot k := by
  have next_eq : log.events.nextOffset.toNat = log.events.events.length :=
    UInt64.toNat_ofNat_of_lt' numbered
  have inside := h.inside d
  have near : log.acks.slot d ≤ log.events.nextOffset := by
    rw [UInt64.le_iff_toNat_le, next_eq]
    exact inside
  obtain ⟨stop, cursors, left, stop_eq⟩ := unread_eq isOpen near s max
  have within : stop.toNat ≤ log.events.events.length := by
    have next_eq : log.nextOffset.toNat = log.events.events.length := next_eq
    omega
  have consumer : consumerOf d.name = .ok d := by
    rw [consumerOf, d.ofText_name]
    rfl
  unfold consume
  rw [consumer]
  dsimp only
  rw [left]
  dsimp only
  cases last : (between log.events.events (log.acks.slot d) stop).getLast? with
  | none =>
      -- Nothing is left, so that resuming behind it is resuming where it was.
      have length : (between log.events.events (log.acks.slot d) stop).length =
          stop.toNat - (log.acks.slot d).toNat := length_between within
      rw [List.getLast?_eq_none_iff.mp last, List.length_nil] at length
      have same : stop = log.acks.slot d := UInt64.toNat_inj.mp (by omega)
      have silent : (Notice.caughtUp d).shown = [] := rfl
      refine ⟨.ofNotices (.events _ :: s.inText (.caughtUp d)), ledger, _, disk,
        by cases acknowledges <;> rfl, h.cursors cursors, rfl, rfl, rfl,
        s.prints_caughtUp acknowledges (List.getLast?_eq_none_iff.mp last), stop, stop_eq,
        shown_events_cons _ _ (s.shown_inText silent), fun k => ?_⟩
      rw [same]
      split
      · rename_i here
        rw [here.2]
      · rfl
  | some e =>
      obtain ⟨ahead, behind⟩ := h.events.numbered.getLast?_between within last
      cases acknowledges with
      | false =>
          refine ⟨_, ledger, _, disk, rfl, h.cursors cursors, rfl, rfl, rfl,
            s.prints_events last, stop, stop_eq, shown_events_cons _ _ rfl, fun k => ?_⟩
          rw [if_neg (fun here => Bool.false_ne_true here.1)]
      | true =>
          have inside : e.offset < log.events.nextOffset := by
            rw [UInt64.lt_iff_toNat_lt]
            omega
          obtain ⟨result, grown, final, left, tried, live, -, events, -⟩ :=
            Log.acknowledge_live (h.cursors cursors) d e.offset
          obtain ⟨after, later, acknowledged, slots⟩ :=
            @Log.acknowledge_ahead { log with cursors } d e.offset isOpen inside ahead disk
          have maxBatch := (Log.acknowledge_keeps { log with cursors } disk d e.offset).2.1
          rw [acknowledged] at tried maxBatch
          cases tried
          have silent : (Notice.acknowledged d e.offset).shown = [] := rfl
          dsimp only
          rw [acknowledged]
          refine ⟨_, grown, _, _, rfl, live, events, maxBatch, rfl,
            s.prints_acknowledged last, stop, stop_eq,
            shown_events_cons _ _ (s.shown_inText silent), fun k => ?_⟩
          have behind : e.offset + 1 = stop := by
            rw [← UInt64.toNat_inj, Acks.toNat_add_one_of_lt inside, behind]
          rw [slots, behind]
          simp only [true_and]

/-- A command that leaves events alone and does not consume for the consumer. -/
theorem advances_of_same {command : Command} {outcome : Outcome} {after : Log}
    (events : after.events = log.events) (slot : after.acks.slot c = log.acks.slot c)
    (others : ∀ max acknowledges, command ≠ .consume c.name max acknowledges) :
    Advances c format command log outcome after :=
  ⟨events ▸ List.prefix_refl _, events ▸ Nat.le_add_right _ _, fun _ => slot,
    fun max acknowledges same => absurd same (others max acknowledges)⟩

/-- Appending grows the log by one event at most. -/
theorem append_live (h : Log.Live directory journal ledger log disk) (s : Session)
    (event : Submission) :
    ∃ outcome grown after later, s.append log disk event = (outcome, later) ∧
      Log.Live directory grown ledger after later ∧ after.maxBatch = log.maxBatch ∧
      Advances c s.format (.append event) log outcome after := by
  have untouched : ∀ outcome, Advances c s.format (.append event) log outcome log :=
    fun outcome => advances_of_same rfl rfl nofun
  unfold append
  cases draftOf event with
  | error cause => exact ⟨_, journal, log, disk, rfl, h, rfl, untouched _⟩
  | ok draft =>
      obtain ⟨result, grown, after, later, appended, live, -, grows, -⟩ :=
        Log.append_live h s.ambient.now draft
      obtain ⟨events, maxBatch, -⟩ := Log.append_keeps log disk s.ambient.now draft
      have acks := Log.append_acks log disk s.ambient.now draft
      rw [appended] at events maxBatch acks
      have advances : ∀ outcome, Advances c s.format (.append event) log outcome after := by
        refine fun outcome => ⟨grows, ?_, fun _ => by rw [acks], nofun⟩
        rcases events with same | ⟨e, more⟩
        · rw [same]
          exact Nat.le_add_right _ _
        · rw [more, List.length_append]
          exact Nat.le_refl _
      dsimp only
      rw [appended]
      cases result with
      | error cause => exact ⟨_, grown, after, later, rfl, live, maxBatch, advances _⟩
      | ok e => exact ⟨_, grown, after, later, rfl, live, maxBatch, advances _⟩

/-- Acknowledging by hand moves nobody else. -/
theorem acknowledge_live (h : Log.Live directory journal ledger log disk) {name : String}
    (ne : name ≠ c.name) (offset : UInt64) :
    ∃ outcome grown after later, acknowledge log disk name offset = (outcome, later) ∧
      Log.Live directory journal grown after later ∧ after.maxBatch = log.maxBatch ∧
      Advances c format (.acknowledge name offset) log outcome after := by
  unfold acknowledge
  rcases consumerOf_cases name with ⟨cause, refused⟩ | ⟨d, rfl, named⟩
  · rw [refused]
    exact ⟨_, ledger, log, disk, rfl, h, rfl, advances_of_same rfl rfl nofun⟩
  · rw [named]
    have apart : c ≠ d := fun same => ne (congrArg Consumer.name same.symm)
    obtain ⟨result, grown, after, later, acknowledged, live, -, events, -⟩ :=
      Log.acknowledge_live h d offset
    have maxBatch := (Log.acknowledge_keeps log disk d offset).2.1
    have slot := Log.slot_acknowledge_of_ne apart log disk offset
    rw [acknowledged] at maxBatch slot
    dsimp only
    rw [acknowledged]
    cases result with
    | error cause =>
        exact ⟨_, grown, after, later, rfl, live, maxBatch, advances_of_same events slot nofun⟩
    | ok progress =>
        exact ⟨_, grown, after, later, rfl, live, maxBatch, advances_of_same events slot nofun⟩

/-- Consuming moves its own consumer, if it acknowledges, and nobody else. -/
theorem consume_advances (h : Log.Live directory journal ledger log disk)
    (isOpen : log.events.isClosed = false) (numbered : log.events.events.length < UInt64.size)
    (bound : log.maxBatch = Log.defaultMaxBatch) (s : Session) (name : String) (max : UInt64)
    (acknowledges : Bool) :
    ∃ outcome grown after later, s.consume log disk name max acknowledges = (outcome, later) ∧
      Log.Live directory journal grown after later ∧ after.maxBatch = log.maxBatch ∧
      Advances c s.format (.consume name max acknowledges) log outcome after := by
  rcases consumerOf_cases name with ⟨cause, refused⟩ | ⟨d, rfl, named⟩
  · have other : name ≠ c.name := by
      rintro rfl
      rw [consumerOf, c.ofText_name] at refused
      cases refused
    unfold consume
    rw [refused]
    refine ⟨_, ledger, log, disk, rfl, h, rfl, advances_of_same rfl rfl ?_⟩
    rintro max' acknowledges' same
    cases same
    exact other rfl
  · obtain ⟨outcome, grown, after, later, consumed, live, events, maxBatch, done, prints, stop,
      stop_eq, shown, slots⟩ := consume_live h isOpen numbered s d max acknowledges
    refine ⟨outcome, grown, after, later, consumed, live, maxBatch, ?_⟩
    refine ⟨events ▸ List.prefix_refl _, events ▸ Nat.le_add_right _ _, ?_, ?_⟩
    · intro passes
      rw [slots, if_neg]
      rintro ⟨rfl, rfl⟩
      simp [processes] at passes
    · rintro max' acknowledges' same
      obtain ⟨own, rfl, rfl⟩ := Command.consume.inj same
      obtain rfl : d = c := Roster.eq_of_name_eq own
      rw [bound] at stop_eq
      refine ⟨done, prints, stop, stop_eq, shown, ?_⟩
      rw [slots]
      simp only [and_true]

/-- Any command on a log that was just opened. -/
theorem run_live (opening : Log.openIn disk directory Log.defaultMaxBatch = (.ok log, later))
    (h : Log.Live directory journal ledger log later) (isOpen : log.events.isClosed = false)
    (numbered : log.events.events.length < UInt64.size)
    (bound : log.maxBatch = Log.defaultMaxBatch) (s : Session) (here : s.directory = directory)
    {command : Command} (respectful : command.respects c = true) :
    ∃ outcome grown raised after final, s.run disk command = (outcome, final) ∧
      Log.Live directory grown raised after final ∧ after.maxBatch = log.maxBatch ∧
      Advances c s.format command log outcome after := by
  have opens : ∀ go, s.withLog disk go = go log later := by
    intro go
    unfold withLog
    rw [here, opening]
  unfold run
  cases command with
  | append event =>
      obtain ⟨outcome, grown, after, final, ran, live, maxBatch, advances⟩ :=
        append_live h s event
      dsimp only
      rw [opens]
      exact ⟨outcome, grown, ledger, after, final, ran, live, maxBatch, advances⟩
  | consume name max acknowledges =>
      obtain ⟨outcome, raised, after, final, ran, live, maxBatch, advances⟩ :=
        consume_advances h isOpen numbered bound s name max acknowledges
      dsimp only
      rw [opens]
      exact ⟨outcome, journal, raised, after, final, ran, live, maxBatch, advances⟩
  | acknowledge name offset =>
      obtain ⟨outcome, raised, after, final, ran, live, maxBatch, advances⟩ :=
        acknowledge_live h (of_decide_eq_true respectful) offset
      dsimp only
      rw [opens]
      exact ⟨outcome, journal, raised, after, final, ran, live, maxBatch, advances⟩
  | progress name =>
      cases name with
      | some name =>
          dsimp only
          rw [opens]
          exact ⟨_, journal, ledger, log, later, rfl, h, rfl, advances_of_same rfl rfl nofun⟩
      | none =>
          dsimp only
          rw [opens]
          exact ⟨_, journal, ledger, log, later, rfl, h, rfl, advances_of_same rfl rfl nofun⟩
  | serve wish => cases respectful
  | _ =>
      dsimp only
      rw [opens]
      exact ⟨_, journal, ledger, log, later, rfl, h, rfl, advances_of_same rfl rfl nofun⟩

end Session

/-- One command line: the next one finds what it left. -/
theorem carryOut_finds (h : Finds directory log disk) {line : Invocation × Ambient}
    (here : line.1.directory = directory) (respectful : line.1.command.respects c = true)
    (room : log.events.events.length + (if line.1.command.appends then 1 else 0) < UInt64.size) :
    ∃ outcome later after, carryOut disk line = (outcome, later) ∧ Finds directory after later ∧
      Advances c line.1.format line.1.command log outcome after := by
  obtain ⟨opened, journal, ledger, opening, live⟩ := h.opens
  have numbered : log.events.events.length < UInt64.size :=
    Nat.lt_of_le_of_lt (Nat.le_add_right _ _) room
  obtain ⟨outcome, grown, raised, after, later, ran, live, maxBatch, advances⟩ :=
    Session.run_live opening live h.isOpen numbered h.maxBatch
      ⟨line.1.directory, line.1.format, line.2⟩ here respectful
  have numbered : after.events.events.length < UInt64.size :=
    Nat.lt_of_le_of_lt advances.few room
  exact ⟨outcome, later, after.restarted, ran,
    finds_of_live live numbered (maxBatch.trans h.maxBatch),
    ⟨advances.grows, advances.few, advances.stays, advances.consumes⟩⟩

/-! ## Any run of commands -/

theorem Finds.inside (h : Finds directory log disk) : Log.Inside log := by
  obtain ⟨opened, journal, ledger, -, live⟩ := h.opens
  exact live.inside

/-- What one exchange credits a consumer with is the part of the log that it moved over. -/
theorem Advances.credited_eq {line : Invocation × Ambient} {outcome : Outcome} {after : Log}
    (h : Advances c line.1.format line.1.command log outcome after) (inside : Log.Inside log) :
    log.acks.slot c ≤ after.acks.slot c ∧
      credited c (line, outcome) =
        between after.events.events (log.acks.slot c) (after.acks.slot c) := by
  unfold credited
  cases passes : line.1.command.processes c with
  | false =>
      rw [h.stays passes, between_self]
      exact ⟨UInt64.le_refl _, rfl⟩
  | true =>
      obtain ⟨max, asked⟩ := exists_of_processes passes
      obtain ⟨done, -, stop, stop_eq, shown, moved⟩ := h.consumes max true asked
      rw [if_pos rfl] at moved
      have inside := inside c
      have next_le : log.nextOffset.toNat ≤ log.events.events.length :=
        log.events.toNat_nextOffset_le
      rw [moved, between_of_grows h.grows (by omega), done, ← shown]
      exact ⟨UInt64.le_iff_toNat_le.mpr (by omega), rfl⟩

/-- A consumer's command was carried out to its end and printed what it shows. -/
def Reports (c : Consumer) (exchange : (Invocation × Ambient) × Outcome) : Prop :=
  ∀ max acknowledges, exchange.1.1.command = .consume c.name max acknowledges →
    exchange.2.isDone = true ∧ Prints c acknowledges exchange.1.1.format exchange.2

/-- Any command lines: what they credit a consumer with is the part of the log that it moved over
from the first to the last of them, and is printed. -/
theorem runAll_finds (h : Finds directory log disk) {lines : List (Invocation × Ambient)}
    (here : ∀ line ∈ lines, line.1.directory = directory)
    (respectful : ∀ line ∈ lines, line.1.command.respects c = true)
    (room : log.events.events.length + lines.countP (·.1.command.appends) < UInt64.size) :
    ∃ outcomes later after, runAll carryOut disk lines = (outcomes, later) ∧
      Finds directory after later ∧ log.events.events <+: after.events.events ∧
      after.events.events.length ≤
        log.events.events.length + lines.countP (·.1.command.appends) ∧
      log.acks.slot c ≤ after.acks.slot c ∧
      processed c (lines.zip outcomes) =
        between after.events.events (log.acks.slot c) (after.acks.slot c) ∧
      ∀ exchange ∈ lines.zip outcomes, Reports c exchange := by
  induction lines generalizing log disk with
  | nil =>
      refine ⟨[], disk, log, rfl, h, List.prefix_refl _, Nat.le_refl _, UInt64.le_refl _, ?_,
        fun _ none => nomatch none⟩
      rw [between_self]
      rfl
  | cons line lines ih =>
      rw [List.countP_cons] at room ⊢
      obtain ⟨outcome, middle, found, ran, finds, advances⟩ :=
        carryOut_finds h (here line List.mem_cons_self) (respectful line List.mem_cons_self)
          (by omega)
      have few := advances.few
      obtain ⟨outcomes, later, after, others, finds', grows, fewer, moved, credited, reports⟩ :=
        ih finds (fun line mem => here line (List.mem_cons_of_mem _ mem))
          (fun line mem => respectful line (List.mem_cons_of_mem _ mem)) (by omega)
      obtain ⟨moved₁, credited₁⟩ := advances.credited_eq h.inside
      refine ⟨outcome :: outcomes, later, after, ?_, finds', advances.grows.trans grows, by omega,
        UInt64.le_trans moved₁ moved, ?_, ?_⟩
      · rw [runAll_cons, ran, others]
      · rw [List.zip_cons_cons, processed, List.flatMap_cons, credited₁, ← processed, credited,
          ← between_of_grows grows (finds.inside c)]
        exact between_append (UInt64.le_iff_toNat_le.mp moved₁) (UInt64.le_iff_toNat_le.mp moved)
      · rw [List.zip_cons_cons]
        intro exchange mem
        rcases List.mem_cons.mp mem with rfl | later
        · intro max acknowledges asked
          obtain ⟨done, prints, -⟩ := advances.consumes max acknowledges asked
          exact ⟨done, prints⟩
        · exact reports exchange later

/-- Take any run of command lines on a directory without the files of a log: appending whatever,
consuming by whomever, acknowledging by hand for other consumers, or looking. What the consumer's
commands that consume and acknowledge have shown is the log up to where the consumer resumes, each
event once and in order; each of them has printed the events that it shows in its format, and at
most a remark behind them. Whatever comes next: consuming shows and prints the events from there on,
as many as are asked for, 100 or all that are left, and is never refused; with acknowledgement the
consumer resumes behind them, and nothing else moves it. (Offsets have to be able to count the
events.) -/
theorem consumed_exactly_once (fresh : Log.Fresh directory disk) (c : Consumer)
    {lines : List (Invocation × Ambient)}
    (here : ∀ line ∈ lines, line.1.directory = directory)
    (respectful : ∀ line ∈ lines, line.1.command.respects c = true)
    (few : lines.countP (·.1.command.appends) + 1 < UInt64.size) :
    ∃ outcomes later log opened,
      runAll carryOut disk lines = (outcomes, later) ∧
      Log.openIn later directory Log.defaultMaxBatch = (.ok log, opened) ∧
      EventStore.Numbered log.events.events ∧
      (log.acks.resumeOffset c).toNat ≤ log.events.events.length ∧
      processed c (lines.zip outcomes) =
        log.events.events.take (log.acks.resumeOffset c).toNat ∧
      (∀ exchange ∈ lines.zip outcomes, Reports c exchange) ∧
      ∀ line : Invocation × Ambient, line.1.directory = directory →
        line.1.command.respects c = true →
        ∃ outcome next after reopened,
          carryOut later line = (outcome, next) ∧
          Log.openIn next directory Log.defaultMaxBatch = (.ok after, reopened) ∧
          (∀ max acknowledges, line.1.command = .consume c.name max acknowledges →
            outcome.isDone = true ∧ Prints c acknowledges line.1.format outcome ∧ ∃ stop,
              outcome.shown = between log.events.events (log.acks.resumeOffset c) stop ∧
              outcome.shown.length = min (min max.toNat 100)
                (log.nextOffset.toNat - (log.acks.resumeOffset c).toNat) ∧
              stop.toNat = (log.acks.resumeOffset c).toNat + outcome.shown.length ∧
              after.acks.resumeOffset c =
                if acknowledges then stop else log.acks.resumeOffset c) ∧
          ((∀ max, line.1.command ≠ .consume c.name max true) →
            after.acks.resumeOffset c = log.acks.resumeOffset c) := by
  obtain ⟨start, finds, empty, nobody⟩ := finds_of_fresh fresh
  have start_length : start.events.events.length = 0 := by rw [empty, List.length_nil]
  obtain ⟨outcomes, later, log, ran, finds, -, fewer, -, credited, reports⟩ :=
    runAll_finds finds here respectful (by omega)
  obtain ⟨opened, journal, ledger, opening, live⟩ := finds.opens
  have inside := finds.inside c
  have next_le : log.nextOffset.toNat ≤ log.events.events.length :=
    log.events.toNat_nextOffset_le
  simp only [Acks.resumeOffset_eq]
  refine ⟨outcomes, later, log, opened, ran, opening, live.events.numbered, inside, ?_, reports,
    ?_⟩
  · rw [credited, nobody, between]
    rfl
  · intro line here respectful
    obtain ⟨outcome, next, after, carried, left, advances⟩ :=
      carryOut_finds finds here respectful (by split <;> omega)
    obtain ⟨reopened, -, -, reopening, -⟩ := left.opens
    refine ⟨outcome, next, after, reopened, carried, reopening, ?_, ?_⟩
    · intro max acknowledges asked
      obtain ⟨done, prints, stop, stop_eq, shown, moved⟩ :=
        advances.consumes max acknowledges asked
      have hundred : Log.defaultMaxBatch.toNat = 100 := rfl
      rw [hundred] at stop_eq
      have length : outcome.shown.length = stop.toNat - (log.acks.slot c).toNat := by
        rw [shown]
        exact length_between (by omega)
      exact ⟨done, prints, stop, shown, by omega, by omega, moved⟩
    · intro others
      refine advances.stays (Bool.eq_false_iff.mpr fun passes => ?_)
      obtain ⟨max, asked⟩ := exists_of_processes passes
      exact others max asked

/-- A consumer of two events that come one by one, the second of them as JSON. -/
def oneByOne : List (Invocation × Ambient) :=
  let ambient : Ambient := ⟨⟨9, 0, by decide⟩, ⟨1⟩⟩
  [{ command := .append { type := "put" }, directory := "" },
    { command := .consume "c" 9 true, directory := "" },
    { command := .append { type := "cut", after := "x" }, directory := "" },
    { command := .consume "c" 9 true, directory := "", format := .json }].map (·, ambient)

set_option maxRecDepth 4000 in
/-- Both events are processed once; this is what each command shows and prints. -/
theorem one_by_one_consumed_once :
    ∃ outcomes later log opened,
      runAll carryOut {} oneByOne = (outcomes, later) ∧
      Log.openIn later "" Log.defaultMaxBatch = (.ok log, opened) ∧
      processed ⟨"c", rfl⟩ (oneByOne.zip outcomes) =
        log.events.events.take (log.acks.resumeOffset ⟨"c", rfl⟩).toNat ∧
      (oneByOne.zip outcomes).map (fun exchange =>
          (exchange.2.shown.map (·.type), exchange.2.printed exchange.1.1.format false)) =
        [([], "✓ Appended put at offset 0\n"),
          (["put"], "#0  15e910b5  put  clog-cli  1970-01-01T00:00:09+00:00\n" ++
            "✓ c acknowledged through 0\n"),
          ([], "✓ Appended cut at offset 1\n"),
          (["cut"], "[\n  \x7b\n    \"offset\": 1,\n    \"event_id\": " ++
            "\"5c09f4daec10cab6086cf61823cd82e02a36afd7da2745b2544c6909005d3b8a\",\n" ++
            "    \"event_type\": \"cut\",\n    \"before\": \"\",\n    \"after\": \"78\",\n" ++
            "    \"source\": \"clog-cli\",\n    \"timestamp\": \"1970-01-01T00:00:09+00:00\"\n" ++
            "  \x7d\n]\n")] := by
  have here : ∀ line ∈ oneByOne, line.1.directory = "" := by decide
  obtain ⟨outcomes, later, log, opened, ran, opening, -, -, credited, -⟩ :=
    consumed_exactly_once Log.fresh_empty ⟨"c", rfl⟩ here (by decide) (by decide)
  have outcomes_eq : (runAll carryOut {} oneByOne).1 = outcomes := congrArg Prod.fst ran
  refine ⟨outcomes, later, log, opened, ran, opening, credited, ?_⟩
  subst outcomes_eq
  decide +kernel

end Command
end ChangeLog
