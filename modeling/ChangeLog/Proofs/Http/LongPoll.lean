/-
  A read that waits, among other requests. Its steps, the steps of appends, which publish an event
  and only then notify, and whatever else the log is asked come in any order (`Poll.play`). Until
  the read is answered its cursor has not moved, and what it holds is empty; its answer is the part
  of the log from where the cursor was (`Faithful`). As soon as an append of something that the read
  is yet to see has notified, the read cannot go on waiting and cannot come back empty (`Promised`).
  Both are kept by every step, and so over any order of them.
-/
import ChangeLog.Proofs.Http.Requests

namespace ChangeLog.Http.Poll

/-- What can happen while a read waits: it takes its next step or runs out of time, or another
request takes a step. An append takes two: it publishes its event, which is a call, and announces
it. -/
inductive Move where
  | advance
  | timeOut
  | call (call : Log.Call)
  | announce (offset : UInt64)
deriving DecidableEq, Repr

/-- A read that waits, the log and the disk that it shares with others, and the offsets of events
that are published and not yet announced. -/
structure Scene where
  stage : Stage
  log : Log
  disk : Disk
  unannounced : List UInt64

/-- The offset that is to be announced after a call: an append that was accepted has one. -/
def published : Log.Call → Log.Answer → List UInt64
  | .append _ _, .event (.ok e) => [e.offset]
  | _, _ => []

/-- One move. Only what is published can be announced. -/
def step (p : Poll) (scene : Scene) : Move → Scene
  | .advance =>
    let (stage, log) := p.advance scene.stage scene.log
    { scene with stage, log }
  | .timeOut => { scene with stage := scene.stage.timeOut }
  | .call call =>
    let (answer, log, disk) := scene.log.perform scene.disk call
    { scene with log, disk, unannounced := scene.unannounced ++ published call answer }
  | .announce offset =>
    if offset ∈ scene.unannounced then
      { scene with
        stage := scene.stage.notify, unannounced := scene.unannounced.erase offset }
    else scene

/-- Moves in their order. -/
def play (p : Poll) (scene : Scene) (moves : List Move) : Scene := moves.foldl p.step scene

theorem play_append (p : Poll) (scene : Scene) (first others : List Move) :
    p.play scene (first ++ others) = p.play (p.play scene first) others := List.foldl_append

/-- The calls of others while the read waits: none on its cursor, and the log stays open. -/
def Apart (p : Poll) (moves : List Move) : Prop :=
  ∀ call, .call call ∈ moves → ¬ call.Touches p.cursor ∧ call ≠ .close

variable {p : Poll} {cursor : Cursor} {log later : Log} {stage : Stage} {scene : Scene}
  {offset : UInt64} {move : Move} {moves : List Move}

/-! ## The steps of a server -/

/-- A read that comes while nothing else happens takes three steps. -/
theorem begin_eq_play (p : Poll) (log : Log) (disk : Disk) (pending : List UInt64) :
    p.begin log = ((p.play ⟨.start, log, disk, pending⟩ [.advance, .advance, .advance]).stage,
      (p.play ⟨.start, log, disk, pending⟩ [.advance, .advance, .advance]).log) := rfl

/-- A server that wakes a read announces an event and lets the read take its step. -/
theorem wake_eq_play (s : Server) (w : Waiting) (disk : Disk) (offset : UInt64) :
    s.wake w =
      let scene := w.poll.play ⟨w.stage, s.log, disk, [offset]⟩ [.announce offset, .advance]
      (Server.outcomeOf { w with stage := scene.stage }, { s with log := scene.log }) := by
  have announced : w.poll.step ⟨w.stage, s.log, disk, [offset]⟩ (.announce offset) =
      ⟨w.stage.notify, s.log, disk, [offset].erase offset⟩ := if_pos List.mem_cons_self
  rw [play, List.foldl_cons, announced]
  rfl

/-- Running out of time is a move of its own. -/
theorem expire_eq_play (w : Waiting) (log : Log) (disk : Disk) (pending : List UInt64) :
    Server.expire w = Server.outcomeOf
      { w with stage := (w.poll.play ⟨w.stage, log, disk, pending⟩ [.timeOut]).stage } := rfl

/-- A request that submits an event appends it as a call does. -/
theorem append_eq_play {req : Request} {draft : Draft} (submits : Server.submitted req = .ok draft)
    (p : Poll) (stage : Stage) (s : Server) (disk : Disk) (now : Time.Instant)
    (pending : List UInt64) :
    let scene := p.play ⟨stage, s.log, disk, pending⟩ [.call (.append now draft)]
    (s.append disk now req).2 = ({ s with log := scene.log }, scene.disk) := by
  rw [Server.append, submits]
  rfl

/-! ## What moves leave alone -/

/-- A step of the read moves cursors at most. -/
theorem advance_cursors (p : Poll) (stage : Stage) (log : Log) :
    ∃ cursors, (p.advance stage log).2 = { log with cursors } := by
  obtain ⟨cursors, same⟩ := Log.read_cursors log p.cursor p.max
  have attempted : ∀ next, (p.attempt log next).2 = { log with cursors } := by
    intro next
    rw [← same, attempt]
    rcases log.read p.cursor p.max with ⟨_ | batch, read⟩
    · rfl
    · dsimp only
      split <;> rfl
  cases stage with
  | start => exact ⟨cursors, attempted _⟩
  | registered isNotified => exact ⟨cursors, attempted _⟩
  | unregistered => exact ⟨log.cursors, rfl⟩
  | done answer => exact ⟨log.cursors, rfl⟩
  | waiting found isNotified =>
      cases isNotified with
      | true => exact ⟨cursors, same⟩
      | false => exact ⟨log.cursors, rfl⟩

/-- Moves take no events away and leave the bound on reads alone. -/
theorem step_keeps (p : Poll) (scene : Scene) (move : Move) :
    scene.log.events.events <+: (p.step scene move).log.events.events ∧
      (p.step scene move).log.maxBatch = scene.log.maxBatch := by
  cases move with
  | advance =>
      obtain ⟨cursors, same⟩ := advance_cursors p scene.stage scene.log
      change _ <+: (p.advance scene.stage scene.log).2.events.events ∧
        (p.advance scene.stage scene.log).2.maxBatch = _
      rw [same]
      exact ⟨List.prefix_refl _, rfl⟩
  | timeOut => exact ⟨List.prefix_refl _, rfl⟩
  | call call =>
      exact ⟨Log.isPrefix_events_perform scene.log scene.disk call,
        (Log.perform_keeps scene.log scene.disk call).2⟩
  | announce offset =>
      rw [step]
      split <;> exact ⟨List.prefix_refl _, rfl⟩

theorem play_keeps (p : Poll) (scene : Scene) (moves : List Move) :
    scene.log.events.events <+: (p.play scene moves).log.events.events ∧
      (p.play scene moves).log.maxBatch = scene.log.maxBatch := by
  induction moves generalizing scene with
  | nil => exact ⟨List.prefix_refl _, rfl⟩
  | cons move moves ih =>
      have first := step_keeps p scene move
      have others := ih (p.step scene move)
      exact ⟨first.1.trans others.1, others.2.trans first.2⟩

/-! ## No event is lost -/

/-- What a stage of the read says of the log: the cursor is where it was and nothing was found, or
the answer is the part of the log that the cursor has moved over. -/
def Faithful (p : Poll) (cursor : Cursor) (log : Log) : Stage → Prop
  | .done (.ok batch) =>
    log.cursors.find? p.cursor = some { cursor with position := batch.position } ∧
      batch.events = between log.events.events cursor.position batch.position ∧
      cursor.position ≤ batch.position ∧
      (batch.position = cursor.position ∨ batch.position.toNat ≤ log.events.events.length)
  | .done (.error _) => False
  | .waiting found _ =>
    log.cursors.find? p.cursor = some cursor ∧ found = ⟨[], cursor.position⟩
  | .start | .unregistered | .registered _ => log.cursors.find? p.cursor = some cursor

/-- What was found stays right while the log grows and the cursor is left alone. -/
theorem Faithful.grows (h : Faithful p cursor log stage)
    (events : log.events.events <+: later.events.events)
    (same : later.cursors.find? p.cursor = log.cursors.find? p.cursor) :
    Faithful p cursor later stage := by
  cases stage with
  | start => exact same.trans h
  | unregistered => exact same.trans h
  | registered isNotified => exact same.trans h
  | waiting found isNotified => exact ⟨same.trans h.1, h.2⟩
  | done answer =>
      cases answer with
      | error fault => exact h
      | ok batch =>
          obtain ⟨moved, events_eq, le, inside⟩ := h
          refine ⟨same.trans moved, ?_, le, ?_⟩
          · rcases inside with still | inside
            · rw [events_eq, still, between_self, between_self]
            · rw [events_eq, between_of_grows events inside]
          · exact inside.imp_right (Nat.le_trans · events.length_le)

theorem Faithful.notify (h : Faithful p cursor log stage) :
    Faithful p cursor log stage.notify := by
  cases stage with
  | _ => exact h

/-- Running out of time answers with what was found: nothing, and the cursor has not moved. -/
theorem Faithful.timeOut (h : Faithful p cursor log stage) :
    Faithful p cursor log stage.timeOut := by
  cases stage with
  | waiting found isNotified =>
      cases isNotified with
      | true => exact h
      | false =>
          obtain ⟨there, rfl⟩ := h
          exact ⟨there, (between_self _ _).symm, UInt64.le_refl _, .inl rfl⟩
  | _ => exact h

/-- A read of the log gives a right answer. -/
theorem faithful_read (found : log.cursors.find? p.cursor = some cursor) {stop : UInt64}
    (stop_eq : stop.toNat = cursor.position.toNat + min (min p.max.toNat log.maxBatch.toNat)
      (log.nextOffset.toNat - cursor.position.toNat)) :
    Faithful p cursor { log with cursors := log.cursors.move p.cursor stop }
      (.done (.ok ⟨between log.events.events cursor.position stop, stop⟩)) := by
  have next_le : log.nextOffset.toNat ≤ log.events.events.length := log.events.toNat_nextOffset_le
  have onward : cursor.position.toNat ≤ stop.toNat := by omega
  have inside : stop.toNat = cursor.position.toNat ∨ stop.toNat ≤ log.events.events.length := by
    omega
  refine ⟨?_, rfl, UInt64.le_iff_toNat_le.mpr onward, inside.imp_left UInt64.toNat_inj.mp⟩
  dsimp only
  rw [Cursors.find?_move, if_pos rfl, found]
  rfl

/-- An attempt gives a right answer, or it has found nothing and leaves the cursor where it was. -/
theorem faithful_attempt (found : log.cursors.find? p.cursor = some cursor)
    (isOpen : log.isClosed = false) {next : Batch → Stage}
    (onward : ∀ later : Log, later.cursors.find? p.cursor = some cursor →
      Faithful p cursor later (next ⟨[], cursor.position⟩)) :
    Faithful p cursor (p.attempt log next).2 (p.attempt log next).1 := by
  obtain ⟨_, _, gave⟩ := Log.exists_read_eq_ok found isOpen p.max
  rcases attempt_cases p log next with
    ⟨fault, refused, -⟩ | ⟨same, stop, there, -, stop_eq, given | ⟨rfl, waits⟩⟩
  · rw [refused] at gave
    cases gave
  · cases found.symm.trans there
    rw [given]
    exact faithful_read found stop_eq
  · cases found.symm.trans there
    rw [waits, between_self]
    refine onward _ ?_
    dsimp only
    rw [Cursors.find?_move, if_pos rfl, found]
    rfl

theorem Faithful.advance (h : Faithful p cursor log stage) (isOpen : log.isClosed = false) :
    Faithful p cursor (p.advance stage log).2 (p.advance stage log).1 := by
  cases stage with
  | start => exact faithful_attempt h isOpen fun _ there => there
  | unregistered => exact h
  | registered isNotified => exact faithful_attempt h isOpen fun _ there => ⟨there, rfl⟩
  | done answer => exact h
  | waiting found isNotified =>
      cases isNotified with
      | false => exact h
      | true =>
          obtain ⟨stop, gave, stop_eq⟩ := Log.read_eq_ok h.1 isOpen p.max
          rw [Poll.advance, gave]
          exact faithful_read h.1 stop_eq

/-- The invariant: the log is open, only what is in it is yet to be announced, and the stage of the
read is right. -/
structure Sound (p : Poll) (cursor : Cursor) (scene : Scene) : Prop where
  isOpen : scene.log.isClosed = false
  stored : ∀ offset ∈ scene.unannounced, offset.toNat < scene.log.events.events.length
  faithful : Faithful p cursor scene.log scene.stage

/-- What a call publishes is in the log behind it. -/
theorem stored_of_published {call : Log.Call} {disk : Disk}
    (listed : offset ∈ published call (log.perform disk call).1) :
    offset.toNat < (log.perform disk call).2.1.events.events.length := by
  cases call with
  | append now draft =>
      rw [Log.perform] at listed ⊢
      rcases appended : log.append disk now draft with ⟨_ | e, grown, after⟩
      · rw [appended] at listed
        cases listed
      · rw [appended] at listed
        obtain ⟨rfl, more⟩ := Log.append_stamps appended
        cases List.mem_singleton.mp listed
        dsimp only
        rw [more, List.length_append]
        exact Nat.lt_succ_of_le log.events.toNat_nextOffset_le
  | _ => cases listed

theorem Sound.step (h : Sound p cursor scene) (apart : Apart p [move]) :
    Sound p cursor (p.step scene move) := by
  have grows := (step_keeps p scene move).1
  cases move with
  | advance =>
      obtain ⟨cursors, same⟩ := advance_cursors p scene.stage scene.log
      refine ⟨?_, fun offset listed => ?_, h.faithful.advance h.isOpen⟩
      · change (p.advance scene.stage scene.log).2.isClosed = false
        rw [same]
        exact h.isOpen
      · exact Nat.lt_of_lt_of_le (h.stored offset listed) grows.length_le
  | timeOut => exact ⟨h.isOpen, h.stored, h.faithful.timeOut⟩
  | call call =>
      obtain ⟨untouched, stays⟩ := apart call List.mem_cons_self
      refine ⟨(Log.isClosed_perform stays _ _).trans h.isOpen, fun offset listed => ?_,
        h.faithful.grows grows (Log.find?_perform untouched _ _)⟩
      rcases List.mem_append.mp listed with before | added
      · exact Nat.lt_of_lt_of_le (h.stored offset before) grows.length_le
      · exact stored_of_published added
  | announce offset =>
      rw [Poll.step]
      split
      · exact ⟨h.isOpen, fun other listed => h.stored other (List.mem_of_mem_erase listed),
          h.faithful.notify⟩
      · exact h

theorem apart_cons : Apart p (move :: moves) ↔ Apart p [move] ∧ Apart p moves := by
  constructor
  · intro apart
    refine ⟨fun call listed => ?_, fun call listed => apart call (List.mem_cons_of_mem _ listed)⟩
    rw [List.mem_singleton] at listed
    exact apart call (listed ▸ List.mem_cons_self)
  · rintro ⟨first, others⟩ call listed
    rcases List.mem_cons.mp listed with here | there
    · exact first call (here ▸ List.mem_cons_self)
    · exact others call there

theorem Sound.play (h : Sound p cursor scene) (apart : Apart p moves) :
    Sound p cursor (p.play scene moves) := by
  induction moves generalizing scene with
  | nil => exact h
  | cons move moves ih =>
      obtain ⟨first, others⟩ := apart_cons.mp apart
      exact ih (h.step first) others

/-! ## No notification is lost -/

/-- What a stage of the read is when it has been notified: it does not wait any longer, and an
answer is not empty. -/
def Told : Stage → Prop
  | .waiting _ isNotified => isNotified = true
  | .done (.ok batch) => batch.events ≠ []
  | .start | .unregistered | .registered _ | .done (.error _) => True

/-- Behind the notification for an event at `offset`: the event is in the log, and the read has been
told. -/
structure Promised (offset : UInt64) (scene : Scene) : Prop where
  stored : offset.toNat < scene.log.events.events.length
  told : Told scene.stage

/-- The most steps that the read still takes when it has been told. -/
def remaining : Stage → Nat
  | .done _ => 0
  | .unregistered => 2
  | .start | .registered _ | .waiting _ _ => 1

/-- A read of a log that has something behind the cursor's position is not empty. -/
theorem read_of_stored (found : log.cursors.find? p.cursor = some cursor)
    (isOpen : log.isClosed = false) (max_ne : p.max ≠ 0) (bound_ne : log.maxBatch ≠ 0)
    (numbered : log.events.events.length < UInt64.size)
    (stored : offset.toNat < log.events.events.length) (ahead : cursor.position ≤ offset) :
    ∃ batch later, log.read p.cursor p.max = (.ok batch, later) ∧ batch.events ≠ [] := by
  obtain ⟨stop, gave, stop_eq⟩ := Log.read_eq_ok found isOpen p.max
  refine ⟨_, _, gave, fun nothing => ?_⟩
  have next_eq : log.nextOffset.toNat = log.events.events.length :=
    UInt64.toNat_ofNat_of_lt' numbered
  have max_pos : 0 < p.max.toNat := UInt64.lt_iff_toNat_lt.mp (UInt64.pos_iff_ne_zero.mpr max_ne)
  have bound_pos : 0 < log.maxBatch.toNat :=
    UInt64.lt_iff_toNat_lt.mp (UInt64.pos_iff_ne_zero.mpr bound_ne)
  have ahead := UInt64.le_iff_toNat_le.mp ahead
  have length : (between log.events.events cursor.position stop).length =
      stop.toNat - cursor.position.toNat := length_between (by omega)
  rw [show between log.events.events cursor.position stop = [] from nothing,
    List.length_nil] at length
  omega

/-- So is an attempt. -/
theorem attempt_of_stored (found : log.cursors.find? p.cursor = some cursor)
    (isOpen : log.isClosed = false) (max_ne : p.max ≠ 0) (bound_ne : log.maxBatch ≠ 0)
    (numbered : log.events.events.length < UInt64.size)
    (stored : offset.toNat < log.events.events.length) (ahead : cursor.position ≤ offset)
    (next : Batch → Stage) :
    ∃ batch, (p.attempt log next).1 = .done (.ok batch) ∧ batch.events ≠ [] := by
  obtain ⟨batch, later, gave, nonempty⟩ :=
    read_of_stored found isOpen max_ne bound_ne numbered stored ahead
  refine ⟨batch, ?_, nonempty⟩
  rw [attempt, gave]
  dsimp only
  rw [if_neg fun nothing => nonempty (List.isEmpty_iff.mp nothing.1)]

/-- When it has been told, each step of the read takes it closer to an answer that is not empty. -/
theorem Told.advance (h : Told stage) (faithful : Faithful p cursor log stage)
    (isOpen : log.isClosed = false) (max_ne : p.max ≠ 0) (bound_ne : log.maxBatch ≠ 0)
    (numbered : log.events.events.length < UInt64.size)
    (stored : offset.toNat < log.events.events.length) (ahead : cursor.position ≤ offset) :
    Told (p.advance stage log).1 ∧ remaining (p.advance stage log).1 ≤ remaining stage - 1 := by
  have ends : ∀ {after : Stage} {batch : Batch}, after = .done (.ok batch) → batch.events ≠ [] →
      Told after ∧ remaining after ≤ remaining stage - 1 := by
    rintro _ batch rfl nonempty
    exact ⟨nonempty, Nat.zero_le _⟩
  cases stage with
  | start =>
      obtain ⟨batch, answered, nonempty⟩ := attempt_of_stored faithful isOpen max_ne bound_ne
        numbered stored ahead fun _ => .unregistered
      exact ends answered nonempty
  | unregistered => exact ⟨trivial, Nat.le_refl 1⟩
  | registered isNotified =>
      obtain ⟨batch, answered, nonempty⟩ := attempt_of_stored faithful isOpen max_ne bound_ne
        numbered stored ahead fun batch => .waiting batch isNotified
      exact ends answered nonempty
  | waiting found isNotified =>
      cases h
      obtain ⟨batch, later, gave, nonempty⟩ :=
        read_of_stored faithful.1 isOpen max_ne bound_ne numbered stored ahead
      refine ends ?_ nonempty
      rw [Poll.advance, gave]
  | done answer => exact ⟨h, Nat.le_refl 0⟩

theorem Told.notify (h : Told stage) :
    Told stage.notify ∧ remaining stage.notify = remaining stage := by
  cases stage with
  | waiting found isNotified => exact ⟨rfl, rfl⟩
  | _ => exact ⟨h, rfl⟩

/-- A read that has been told does not run out of time any more. -/
theorem Told.timeOut_eq (h : Told stage) : stage.timeOut = stage := by
  cases stage with
  | waiting found isNotified =>
      cases h
      rfl
  | _ => rfl

theorem Promised.step (h : Promised offset scene) (sound : Sound p cursor scene)
    (max_ne : p.max ≠ 0) (bound_ne : scene.log.maxBatch ≠ 0)
    (numbered : scene.log.events.events.length < UInt64.size) (ahead : cursor.position ≤ offset)
    (move : Move) :
    Promised offset (p.step scene move) ∧
      remaining (p.step scene move).stage ≤ remaining scene.stage - [move].count .advance := by
  have stored := Nat.lt_of_lt_of_le h.stored (step_keeps p scene move).1.length_le
  cases move with
  | advance =>
      obtain ⟨told, closer⟩ := h.told.advance sound.faithful sound.isOpen max_ne bound_ne numbered
        h.stored ahead
      exact ⟨⟨stored, told⟩, closer⟩
  | timeOut =>
      have same : (p.step scene .timeOut).stage = scene.stage := h.told.timeOut_eq
      refine ⟨⟨stored, ?_⟩, ?_⟩
      · rw [same]
        exact h.told
      · rw [same]
        exact Nat.le_refl _
  | call call => exact ⟨⟨stored, h.told⟩, Nat.le_refl _⟩
  | announce announced =>
      obtain ⟨told, same⟩ := h.told.notify
      rw [Poll.step] at stored ⊢
      split
      · rename_i listed
        rw [if_pos listed] at stored
        exact ⟨⟨stored, told⟩, Nat.le_of_eq same⟩
      · exact ⟨h, Nat.le_refl _⟩

theorem Promised.play (h : Promised offset scene) (sound : Sound p cursor scene)
    (apart : Apart p moves) (max_ne : p.max ≠ 0) (bound_ne : scene.log.maxBatch ≠ 0)
    (numbered : (p.play scene moves).log.events.events.length < UInt64.size)
    (ahead : cursor.position ≤ offset) :
    Promised offset (p.play scene moves) ∧
      remaining (p.play scene moves).stage ≤ remaining scene.stage - moves.count .advance := by
  induction moves generalizing scene with
  | nil => exact ⟨h, Nat.le_refl _⟩
  | cons move moves ih =>
      obtain ⟨first, others⟩ := apart_cons.mp apart
      have numbered_here : scene.log.events.events.length < UInt64.size :=
        Nat.lt_of_le_of_lt (play_keeps p scene (move :: moves)).1.length_le numbered
      have bound : (p.step scene move).log.maxBatch ≠ 0 := by
        rw [(step_keeps p scene move).2]
        exact bound_ne
      obtain ⟨kept, fewer⟩ := h.step sound max_ne bound_ne numbered_here ahead move
      obtain ⟨final, left⟩ := ih kept (sound.step first) others bound numbered
      refine ⟨final, Nat.le_trans left ?_⟩
      rw [← List.singleton_append, List.count_append]
      omega

/-- Whatever the read was doing: it is told when an append announces what it has published. -/
theorem promised_of_announced (sound : Sound p cursor scene)
    (listed : offset ∈ scene.unannounced) (waits : ∀ answer, scene.stage ≠ .done answer) :
    Promised offset (p.step scene (.announce offset)) := by
  rw [step, if_pos listed]
  refine ⟨sound.stored offset listed, ?_⟩
  dsimp only
  cases stage : scene.stage with
  | done answer => exact absurd stage (waits answer)
  | waiting found isNotified => exact rfl
  | start | unregistered | registered => exact trivial

theorem remaining_le (stage : Stage) : remaining stage ≤ 2 := by
  cases stage with
  | start | registered | waiting => exact Nat.le_succ 1
  | unregistered => exact Nat.le_refl 2
  | done => exact Nat.zero_le 2

/-- A read that takes no more steps has an answer. -/
theorem Sound.exists_answer (h : Sound p cursor scene) (none_left : remaining scene.stage = 0) :
    ∃ batch, scene.stage = .done (.ok batch) := by
  have faithful := h.faithful
  cases stage : scene.stage with
  | done answer =>
      rw [stage] at faithful
      cases answer with
      | error fault => exact absurd faithful not_false
      | ok batch => exact ⟨batch, rfl⟩
  | _ =>
      rw [stage] at none_left
      cases none_left

/-- The answer is not empty, and it is given where the read takes this many steps. -/
def Served (steps : Nat) (moves : List Move) (final : Scene) : Prop :=
  (∀ batch, final.stage = .done (.ok batch) → batch.events ≠ []) ∧
    (steps ≤ moves.count .advance → ∃ batch, final.stage = .done (.ok batch))

theorem Promised.served (h : Promised offset scene) (sound : Sound p cursor scene)
    (apart : Apart p moves) (max_ne : p.max ≠ 0) (bound_ne : scene.log.maxBatch ≠ 0)
    (numbered : (p.play scene moves).log.events.events.length < UInt64.size)
    (ahead : cursor.position ≤ offset) {steps : Nat} (most : remaining scene.stage ≤ steps) :
    Served steps moves (p.play scene moves) := by
  obtain ⟨kept, left⟩ := h.play sound apart max_ne bound_ne numbered ahead
  refine ⟨fun batch answered => ?_, fun enough => (sound.play apart).exists_answer (by omega)⟩
  have told := kept.told
  rw [answered] at told
  exact told

/-- A read that waits, in any order of its steps and those of other requests that leave its cursor
alone and the log open. Its answer is never a refusal: it is exactly the part of the log from the
cursor's position before the read to the position that it reports, which is where the cursor is
behind it. When there is something at the position before the read starts, or an append of an event
at or behind the position has published and announced it before the read is answered, the answer is
not empty, and the read takes one step, or two more steps, at most to give it. (The last needs that
offsets can count the events.) -/
theorem waiting_read_misses_nothing (found : log.cursors.find? p.cursor = some cursor)
    (isOpen : log.isClosed = false) {pending : List UInt64}
    (stored : ∀ offset ∈ pending, offset.toNat < log.events.events.length)
    (apart : Apart p moves) (disk : Disk) :
    ∃ final, p.play ⟨.start, log, disk, pending⟩ moves = final ∧
      (∀ answer, final.stage = .done answer → ∃ batch, answer = .ok batch ∧
        final.log.cursors.find? p.cursor = some { cursor with position := batch.position } ∧
        batch.events = between final.log.events.events cursor.position batch.position ∧
        batch.position.toNat = cursor.position.toNat + batch.events.length) ∧
      (p.max ≠ 0 → log.maxBatch ≠ 0 → final.log.events.events.length < UInt64.size →
        (cursor.position.toNat < log.events.events.length → Served 1 moves final) ∧
        ∀ first offset others, moves = first ++ .announce offset :: others →
          offset ∈ (p.play ⟨.start, log, disk, pending⟩ first).unannounced →
          cursor.position ≤ offset →
          (∀ answer, (p.play ⟨.start, log, disk, pending⟩ first).stage ≠ .done answer) →
          Served 2 others final) := by
  have start : Sound p cursor ⟨.start, log, disk, pending⟩ := ⟨isOpen, stored, found⟩
  refine ⟨_, rfl, ?_, fun max_ne bound_ne numbered => ⟨fun there => ?_, ?_⟩⟩
  · intro answer answered
    have faithful := (start.play apart).faithful
    rw [answered] at faithful
    cases answer with
    | error fault => exact absurd faithful not_false
    | ok batch =>
        obtain ⟨moved, events_eq, le, inside⟩ := faithful
        refine ⟨batch, rfl, moved, events_eq, ?_⟩
        rcases inside with still | inside
        · rw [events_eq, still, between_self]
          rfl
        · rw [events_eq, length_between inside, Nat.add_sub_of_le (UInt64.le_iff_toNat_le.mp le)]
  · have told : Promised cursor.position ⟨.start, log, disk, pending⟩ := ⟨there, trivial⟩
    exact told.served start apart max_ne bound_ne numbered (UInt64.le_refl _) (Nat.le_refl 1)
  · rintro first offset others rfl listed ahead waits
    have before : Apart p first := fun call called => apart call (List.mem_append_left _ called)
    obtain ⟨announces, behind⟩ := apart_cons.mp fun call called =>
      apart call (List.mem_append_right _ called)
    have sound := start.play before
    have told := promised_of_announced sound listed waits
    have bound : (p.step (p.play ⟨.start, log, disk, pending⟩ first)
        (.announce offset)).log.maxBatch ≠ 0 := by
      rw [(step_keeps p _ _).2, (play_keeps p _ first).2]
      exact bound_ne
    rw [play_append] at numbered ⊢
    exact told.served (sound.step announces) behind max_ne bound numbered ahead (remaining_le _)

/-- A log without events, and a cursor. -/
def blankLog : Log := ((Log.inMemory 10).subscribe ⟨1⟩ 0 none).2

/-- A read waits while three events are published. Only the second one is announced in time, when
the last one is still to come; then time runs out. -/
def crossing : List Move :=
  [.advance, .advance, .advance, .call (.append ⟨13, 0, by decide⟩ { type := "put" }),
    .call (.append ⟨13, 0, by decide⟩ { type := "put" }), .announce 1, .timeOut,
    .call (.append ⟨14, 0, by decide⟩ { type := "drop" }), .advance, .announce 0, .advance]

/-- The read is answered with all three. -/
theorem crossing_read_misses_nothing :
    ∃ final batch, play ⟨⟨1⟩, 5, true⟩ ⟨.start, blankLog, {}, []⟩ crossing = final ∧
      final.stage = .done (.ok batch) ∧ batch.events ≠ [] ∧
      batch.events = between final.log.events.events 0 3 ∧
      final.log.cursors.find? ⟨1⟩ = some { owner := none, start := 0, position := 3 } := by
  have found : blankLog.cursors.find? ⟨1⟩ = some { owner := none, start := 0, position := 0 } := rfl
  have apart : Apart ⟨⟨1⟩, 5, true⟩ crossing := by
    intro call listed
    have appends : ∃ now draft, call = .append now draft := by
      simp only [crossing, List.mem_cons, reduceCtorEq, Move.call.injEq, List.not_mem_nil,
        false_or, or_false] at listed
      rcases listed with rfl | rfl | rfl
      all_goals exact ⟨_, _, rfl⟩
    obtain ⟨now, draft, rfl⟩ := appends
    refine ⟨not_false, fun same => ?_⟩
    cases same
  have none_pending : ∀ offset ∈ ([] : List UInt64),
      offset.toNat < blankLog.events.events.length := List.forall_mem_nil _
  obtain ⟨final, played, faithful, told⟩ :=
    waiting_read_misses_nothing (p := ⟨⟨1⟩, 5, true⟩) found rfl none_pending apart {}
  have final_eq : final = play ⟨⟨1⟩, 5, true⟩ ⟨.start, blankLog, {}, []⟩ crossing := played.symm
  have few : final.log.events.events.length < UInt64.size := by
    rw [final_eq]
    decide
  have waits : ∀ answer, (play ⟨⟨1⟩, 5, true⟩ ⟨.start, blankLog, {}, []⟩
      (crossing.take 5)).stage ≠ .done answer := by
    intro answer same
    cases same
  obtain ⟨nonempty, ends⟩ := (told (by decide) (by decide) few).2 (crossing.take 5) 1
    (crossing.drop 6) rfl (by decide) (by decide) waits
  obtain ⟨batch, answered⟩ := ends (by decide)
  obtain ⟨_, ⟨⟩, moved, events_eq, -⟩ := faithful _ answered
  have position : batch.position = 3 := by
    rw [final_eq] at answered
    cases answered
    rfl
  rw [position] at moved events_eq
  exact ⟨final, batch, played, answered, nonempty batch answered, events_eq, moved⟩

end ChangeLog.Http.Poll
