/-
  What comes of a request while no other comes. Every request is answered, also a read that waits in
  vain (`begin_cases`), and `Effect` says all that an answer can stand for: a refusal, after which
  the server and the disk are as before; a look, which moves cursors at most; an acknowledgement; or
  an event that was posted. One lemma says so of all routes (`respond_effect`), and what a request
  was refused for need not be known to leave it out.
-/
import ChangeLog.Http.Server
import ChangeLog.Proofs.Log.Refusal

namespace ChangeLog.Http

variable {log : Log} {disk : Disk}

/-! ## Reads that wait -/

namespace Poll

/-- One attempt is refused, or hands out what there is; nothing but waiting for more comes of it
only where there is nothing. -/
theorem attempt_cases (p : Poll) (log : Log) (next : Batch → Stage) :
    (∃ fault, log.read p.cursor p.max = (.error fault, log) ∧
      p.attempt log next = (.done (.error fault), log)) ∨
    ∃ cursor stop, log.cursors.find? p.cursor = some cursor ∧ log.isClosed = false ∧
      stop.toNat = cursor.position.toNat + min (min p.max.toNat log.maxBatch.toNat)
        (log.nextOffset.toNat - cursor.position.toNat) ∧
      (p.attempt log next =
          (.done (.ok ⟨between log.events.events cursor.position stop, stop⟩),
            { log with cursors := log.cursors.move p.cursor stop }) ∨
        (stop = cursor.position ∧ p.attempt log next =
          (next ⟨between log.events.events cursor.position stop, stop⟩,
            { log with cursors := log.cursors.move p.cursor stop }))) := by
  unfold attempt
  rcases Log.read_cases log p.cursor p.max with
    ⟨fault, refused⟩ | ⟨cursor, stop, found, gave, stop_eq⟩
  · rw [refused]
    exact .inl ⟨fault, rfl, rfl⟩
  · have isOpen : log.isClosed = false := by
      cases closed : log.isClosed with
      | false => rfl
      | true =>
          have closed : log.events.isClosed = true := closed
          rw [Log.read, if_pos closed] at gave
          cases gave
    refine .inr ⟨cursor, stop, found, isOpen, stop_eq, ?_⟩
    rw [gave]
    dsimp only
    split
    · rename_i nothing
      refine .inr ⟨UInt64.toNat_inj.mp ?_, rfl⟩
      have nothing : between log.events.events cursor.position stop = [] :=
        List.isEmpty_iff.mp nothing.1
      have next_le : log.nextOffset.toNat ≤ log.events.events.length :=
        log.events.toNat_nextOffset_le
      rcases Nat.le_total log.nextOffset.toNat cursor.position.toNat with behind | ahead
      · omega
      · have length : (between log.events.events cursor.position stop).length =
            stop.toNat - cursor.position.toNat := length_between (by omega)
        rw [nothing, List.length_nil] at length
        omega
    · exact .inl rfl

/-- A read is refused and changes nothing; or it hands out what there is, at the latest when its
time runs out, and moves its cursor behind that. -/
theorem begin_cases (p : Poll) (log : Log) :
    (∃ fault, p.begin log = (.done (.error fault), log)) ∨
    ∃ cursor stop stage cursors, log.cursors.find? p.cursor = some cursor ∧
      stop.toNat = cursor.position.toNat + min (min p.max.toNat log.maxBatch.toNat)
        (log.nextOffset.toNat - cursor.position.toNat) ∧
      p.begin log = (stage, { log with cursors }) ∧
      stage.timeOut = .done (.ok ⟨between log.events.events cursor.position stop, stop⟩) := by
  unfold begin
  rw [advance]
  rcases attempt_cases p log fun _ => .unregistered with
    ⟨fault, -, refused⟩ | ⟨cursor, stop, found, isOpen, stop_eq, given | ⟨nothing, waits⟩⟩
  · rw [refused]
    exact .inl ⟨fault, rfl⟩
  · rw [given]
    exact .inr ⟨cursor, stop, _, _, found, stop_eq, rfl, rfl⟩
  · rw [waits]
    dsimp only [advance]
    -- The cursor has not moved, so that the second attempt finds what the first one found.
    have there : (log.cursors.move p.cursor stop).find? p.cursor =
        some { cursor with position := stop } := by
      rw [Cursors.find?_move, if_pos rfl, found]
      rfl
    rcases attempt_cases p { log with cursors := log.cursors.move p.cursor stop }
        fun batch => .waiting batch false with
      ⟨fault, refused, -⟩ | ⟨again, stop', found', -, stop_eq', outcome⟩
    · obtain ⟨batch, later, gave⟩ :=
        @Log.exists_read_eq_ok { log with cursors := log.cursors.move p.cursor stop } p.cursor _
          there isOpen p.max
      rw [refused] at gave
      cases gave
    · rw [there] at found'
      cases found'
      have same : stop' = stop := by
        refine UInt64.toNat_inj.mp ?_
        rw [nothing] at stop_eq
        change stop'.toNat = stop.toNat + min (min p.max.toNat log.maxBatch.toNat)
          (log.nextOffset.toNat - stop.toNat) at stop_eq'
        rw [nothing] at stop_eq' ⊢
        omega
      rw [same] at outcome
      rw [nothing] at stop_eq outcome there ⊢
      dsimp only at outcome
      rcases outcome with given | ⟨-, waits⟩
      · rw [given]
        exact .inr ⟨cursor, _, _, _, found, stop_eq, rfl, rfl⟩
      · rw [waits]
        exact .inr ⟨cursor, _, _, _, found, stop_eq, rfl, rfl⟩

end Poll

/-! ## What an answer stands for -/

theorem ServerError.status_le (e : ServerError) : 400 ≤ e.status := by
  unfold status
  cases e.kind with
  | _ => decide

/-- Every refusal has a status of an error. -/
theorem Refusal.status_le (refusal : Refusal) : 400 ≤ refusal.reply.status := by
  cases refusal with
  | failed cause => exact cause.status_le
  | body fault =>
      cases fault with
      | malformed => exact Nat.le_refl 400
      | mismatch => exact Nat.le_add_right 400 22
  | mediaType => exact Nat.le_add_right 400 15
  | _ => exact Nat.le_refl 400

/-- Whether a request posts an event. -/
def Request.posts (req : Request) : Bool :=
  req.method = "POST" && Route.ofPath? (Server.splitTarget req.target).1 = some .events

theorem Request.posts_eq_false {req : Request} {route : Route}
    (found : Route.ofPath? (Server.splitTarget req.target).1 = some route)
    (other : route ≠ .events) : req.posts = false := by
  have different : ¬ Route.ofPath? (Server.splitTarget req.target).1 = some .events := by
    rw [found, Option.some.injEq]
    exact other
  rw [posts, decide_eq_false different, Bool.and_false]

/-- What comes of a request while nothing else happens: a read that waits runs out of time. -/
def Outcome.settled : Outcome → Outcome
  | .answered reply => .answered reply
  | .waits w => Server.expire w

/-- A sequence of steps succeeds where each of them does. -/
theorem bind_eq_ok {ε α β : Type} {x : Except ε α} {f : α → Except ε β} {b : β} :
    x >>= f = .ok b ↔ ∃ a, x = .ok a ∧ f a = .ok b := by
  cases x with
  | error e => simp [bind, Except.bind]
  | ok a => simp [bind, Except.bind]

theorem mapError_eq_ok {ε ε' α : Type} {x : Except ε α} {f : ε → ε'} {a : α} :
    x.mapError f = .ok a ↔ x = .ok a := by
  cases x with
  | error e => exact ⟨nofun, nofun⟩
  | ok b =>
      constructor
      · rintro ⟨⟩
        rfl
      · rintro ⟨⟩
        rfl

namespace Server

theorem respond_eq (s : Server) (disk : Disk) (ambient : Ambient) (req : Request) :
    s.respond disk ambient req =
      ((s.handle disk ambient req).1.settled, (s.handle disk ambient req).2) := by
  unfold respond
  rcases s.handle disk ambient req with ⟨outcome, later, after⟩
  cases outcome with
  | answered reply => rfl
  | waits w => rfl

/-- What a reply to a request stands for, and the server and the disk behind it. -/
inductive Effect (s : Server) (disk : Disk) (now : Time.Instant) (req : Request) (reply : Reply) :
    Server → Disk → Prop where
  /-- A refusal changes nothing. -/
  | refused (status : 400 ≤ reply.status) : Effect s disk now req reply s disk
  /-- A look may move cursors, open one or close one. -/
  | looked (cursors : Cursors) (status : reply.status < 400) (apart : req.posts = false) :
    Effect s disk now req reply { s with log := { s.log with cursors } } disk
  /-- An offset was acknowledged. -/
  | acknowledged {consumer : Consumer} {offset last : UInt64} {log : Log} {after : Disk}
    (done : s.log.acknowledge disk consumer offset = (.ok last, log, after))
    (status : reply.status < 400) (apart : req.posts = false) :
    Effect s disk now req reply { s with log } after
  /-- An event was posted. -/
  | appended {draft : Draft} {e : Event} {log : Log} {after : Disk}
    (submits : submitted req = .ok draft)
    (done : s.log.append disk now draft = (.ok e, log, after))
    (status : reply.status = 201) (content : reply.content = .json (appendedView e))
    (posts : req.posts = true) :
    Effect s disk now req reply { s with log } after

variable {s : Server} {now : Time.Instant} {req : Request}

theorem effect_refused (isBare : Bool) (refusal : Refusal) :
    Effect s disk now req (settle isBare (.error refusal)) s disk := .refused refusal.status_le

/-- An answer that comes of looking at the server alone. -/
theorem effect_shown (apart : req.posts = false) (isBare : Bool) (answer : Except Refusal Reply) :
    Effect s disk now req (settle isBare answer) s disk := by
  cases answer with
  | error refusal => exact effect_refused isBare refusal
  | ok reply =>
      by_cases small : reply.status < 400
      · exact .looked s.log.cursors small apart
      · exact .refused (Nat.le_of_not_lt small)

theorem append_effect (posts : req.posts = true) (s : Server) (disk : Disk)
    (now : Time.Instant) (isBare : Bool) :
    ∃ answer later after, s.append disk now req = (answer, later, after) ∧
      Effect s disk now req (settle isBare answer) later after := by
  unfold append
  cases submits : submitted req with
  | error refusal => exact ⟨_, s, disk, rfl, effect_refused isBare refusal⟩
  | ok draft =>
      rcases appended : s.log.append disk now draft with ⟨result, log, after⟩
      dsimp only
      rw [appended]
      cases result with
      | error cause =>
          have same : (s.log.append disk now draft).2 = (s.log, disk) := by
            refine Log.append_refused (?_ : _ = some cause)
            rw [appended]
            rfl
          rw [appended] at same
          cases same
          exact ⟨_, s, disk, rfl, effect_refused isBare _⟩
      | ok e => exact ⟨_, _, after, rfl, .appended submits appended rfl rfl posts⟩

theorem subscribe_effect (apart : req.posts = false) (s : Server) (disk : Disk)
    (now : Time.Instant) (fresh : CursorId) (query : List Char) (isBare : Bool) :
    ∃ answer later, s.subscribe fresh query = (answer, later) ∧
      Effect s disk now req (settle isBare answer) later disk := by
  unfold subscribe
  dsimp only
  split
  · exact ⟨_, s, rfl, effect_refused isBare _⟩
  · rename_i first owner asked
    rcases Log.subscribe_cases s.log fresh first owner with ⟨fault, refused⟩ | ⟨-, made⟩
    · rw [refused]
      exact ⟨_, s, rfl, effect_refused isBare _⟩
    · rw [made]
      exact ⟨_, _, rfl, .looked _ (show 201 < 400 by decide) apart⟩

theorem unsubscribe_effect (apart : req.posts = false) (s : Server) (disk : Disk)
    (now : Time.Instant) (raw : List Char) (isBare : Bool) :
    ∃ answer later, s.unsubscribe raw = (answer, later) ∧
      Effect s disk now req (settle isBare answer) later disk := by
  unfold unsubscribe
  split
  · exact ⟨_, s, rfl, effect_refused isBare _⟩
  · rename_i id asked
    rcases Log.unsubscribe_cases s.log id with ⟨fault, refused⟩ | gone
    · rw [refused]
      exact ⟨_, s, rfl, effect_refused isBare _⟩
    · rw [gone]
      exact ⟨_, _, rfl, .looked _ (show 204 < 400 by decide) apart⟩

theorem acknowledge_effect (apart : req.posts = false) (s : Server) (disk : Disk)
    (now : Time.Instant) (raw query : List Char) (isBare : Bool) :
    ∃ answer later after, s.acknowledge disk raw query = (answer, later, after) ∧
      Effect s disk now req (settle isBare answer) later after := by
  unfold acknowledge
  dsimp only
  split
  · exact ⟨_, s, disk, rfl, effect_refused isBare _⟩
  · rename_i consumer last asked
    rcases done : s.log.acknowledge disk consumer last with ⟨result, log, after⟩
    cases result with
    | error cause =>
        have same : (s.log.acknowledge disk consumer last).2 = (s.log, disk) := by
          refine Log.acknowledge_refused (?_ : _ = some cause)
          rw [done]
          rfl
        rw [done] at same
        cases same
        exact ⟨_, s, disk, rfl, effect_refused isBare _⟩
    | ok progress =>
        -- What was acknowledged can be shown, since the log was open for it.
        have isOpen : s.log.events.isClosed = false := by
          cases closed : s.log.events.isClosed with
          | false => rfl
          | true =>
              rw [Log.acknowledge, if_pos closed] at done
              cases done
        have events := (Log.acknowledge_keeps s.log disk consumer last).1
        rw [done] at events
        have isOpen : log.events.isClosed = false := by
          rw [show log.events = s.log.events from events, isOpen]
        refine ⟨_, _, after, rfl, .acknowledged done ?_ apart⟩
        rw [showProgress, Log.progressOf, Log.whenOpen, isOpen]
        exact (show 200 < 400 by decide)

/-! ## Reads -/

/-- A read that has an answer, at once or when its time runs out, is answered with it. -/
theorem settled_outcomeOf {w : Waiting} {answer : Except LogError Batch}
    (found : w.stage.timeOut = .done answer) :
    (outcomeOf w).settled = .answered (settle w.isBare (batchReply answer)) := by
  obtain ⟨poll, stage, limit, isBare⟩ := w
  cases stage with
  | done given =>
      cases found
      rfl
  | waiting batch isNotified =>
      rw [outcomeOf, Outcome.settled, expire, found]
      rfl
  | _ => cases found

/-- A read is refused and changes nothing, or it shows what is there from its cursor's position on
and moves the cursor behind that. -/
theorem read_cases (s : Server) (raw query : List Char) (isBare : Bool) :
    (∃ refusal, (s.read raw query isBare).1.settled = .answered (settle isBare (.error refusal)) ∧
      (s.read raw query isBare).2 = s) ∨
    ∃ id cursor stop cursors, (segment "id" raw).bind cursorOf = .ok id ∧
      s.log.cursors.find? id = some cursor ∧
      (s.read raw query isBare).1.settled = .answered (settle isBare (.ok (.ofJson 200
        (batchView ⟨between s.log.events.events cursor.position stop, stop⟩)))) ∧
      (s.read raw query isBare).2 = { s with log := { s.log with cursors } } := by
  unfold read
  dsimp only
  split
  · exact .inl ⟨_, rfl, rfl⟩
  · rename_i id max wait asked
    rcases Poll.begin_cases { cursor := id, max, isPatient := wait ≠ 0 } s.log with
      ⟨fault, refused⟩ | ⟨cursor, stop, stage, cursors, found, -, begun, timedOut⟩
    · rw [refused]
      exact .inl ⟨_, rfl, rfl⟩
    · obtain ⟨text, named, asked⟩ := bind_eq_ok.mp asked
      obtain ⟨ps, -, asked⟩ := bind_eq_ok.mp asked
      obtain ⟨id', known, asked⟩ := bind_eq_ok.mp asked
      cases asked
      rw [begun]
      refine .inr ⟨id, cursor, stop, cursors, ?_, found,
        @settled_outcomeOf ⟨_, stage, _, isBare⟩ _ timedOut, rfl⟩
      rw [named]
      exact known

theorem read_effect (apart : req.posts = false) (s : Server) (disk : Disk) (now : Time.Instant)
    (raw query : List Char) (isBare : Bool) :
    ∃ reply, (s.read raw query isBare).1.settled = .answered reply ∧
      Effect s disk now req reply (s.read raw query isBare).2 disk := by
  rcases read_cases s raw query isBare with
    ⟨refusal, answered, same⟩ | ⟨id, cursor, stop, cursors, -, -, answered, moved⟩
  · rw [same]
    exact ⟨_, answered, effect_refused isBare refusal⟩
  · rw [moved]
    exact ⟨_, answered, .looked cursors (show 200 < 400 by decide) apart⟩

/-! ## All requests -/

/-- Only posting creates an event. -/
theorem posts_iff_of_events (found : Route.ofPath? (splitTarget req.target).1 = some .events)
    {action : Action} (does : Route.events.action? req.method = some action) :
    req.posts = true ↔ action = .create := by
  rw [Request.posts, found, decide_eq_true rfl, Bool.and_true, decide_eq_true_iff]
  unfold Route.action? at does
  dsimp only at does
  split at does
  · rename_i reads
    cases does
    constructor
    · intro posts
      rw [posts] at reads
      exact absurd reads (by decide)
    · exact nofun
  · split at does
    · rename_i posts
      cases does
      exact ⟨fun _ => rfl, fun _ => posts⟩
    · cases does

/-- Every request is answered, and what the answer stands for is all that happens. -/
theorem respond_effect (s : Server) (disk : Disk) (ambient : Ambient) (req : Request) :
    ∃ reply later after, s.respond disk ambient req = (.answered reply, later, after) ∧
      Effect s disk ambient.now req reply later after := by
  rw [respond_eq]
  unfold handle
  cases found : Route.ofPath? (splitTarget req.target).1 with
  | none =>
      simp only [found]
      exact ⟨_, s, disk, rfl, .refused (show 400 ≤ 404 by decide)⟩
  | some route =>
      cases does : route.action? req.method with
      | none =>
          simp only [found, does]
          exact ⟨_, s, disk, rfl, .refused (show 400 ≤ 405 by decide)⟩
      | some action =>
          by_cases posting : route = .events
          · cases posting
            have posts := posts_iff_of_events found does
            cases action with
            | create =>
                obtain ⟨answer, later, after, appended, effect⟩ :=
                  append_effect (posts.mpr rfl) s disk ambient.now (req.method = "HEAD")
                simp only [found, does, appended]
                exact ⟨_, later, after, rfl, effect⟩
            | _ =>
                have apart : req.posts = false := Bool.eq_false_iff.mpr (nofun ∘ posts.mp)
                simp only [found, does]
                exact ⟨_, s, disk, rfl, effect_shown apart _ _⟩
          · have apart := Request.posts_eq_false found posting
            cases route with
            | events => exact absurd rfl posting
            | subscriptions =>
                obtain ⟨answer, later, subscribed, effect⟩ :=
                  subscribe_effect apart s disk ambient.now ambient.fresh
                    (splitTarget req.target).2 (req.method = "HEAD")
                simp only [found, does, subscribed]
                exact ⟨_, later, disk, rfl, effect⟩
            | acknowledgement id =>
                obtain ⟨answer, later, after, acknowledged, effect⟩ :=
                  acknowledge_effect apart s disk ambient.now id (splitTarget req.target).2
                    (req.method = "HEAD")
                simp only [found, does, acknowledged]
                exact ⟨_, later, after, rfl, effect⟩
            | subscription id =>
                cases action with
                | remove =>
                    obtain ⟨answer, later, unsubscribed, effect⟩ :=
                      unsubscribe_effect apart s disk ambient.now id (req.method = "HEAD")
                    simp only [found, does, unsubscribed]
                    exact ⟨_, later, disk, rfl, effect⟩
                | _ =>
                    obtain ⟨reply, answered, effect⟩ :=
                      read_effect apart s disk ambient.now id (splitTarget req.target).2
                        (req.method = "HEAD")
                    simp only [found, does, answered]
                    exact ⟨reply, _, disk, rfl, effect⟩
            | _ =>
                simp only [found, does]
                exact ⟨_, s, disk, rfl, effect_shown apart _ _⟩

/-- A request that is answered with the status of an error changes nothing. -/
theorem respond_refused {reply : Reply} {later : Server} {after : Disk} {ambient : Ambient}
    (answered : s.respond disk ambient req = (.answered reply, later, after))
    (status : 400 ≤ reply.status) : later = s ∧ after = disk := by
  obtain ⟨reply', later', after', answered', effect⟩ := respond_effect s disk ambient req
  rw [answered] at answered'
  cases answered'
  cases effect with
  | refused => exact ⟨rfl, rfl⟩
  | looked cursors small => exact absurd small (Nat.not_lt.mpr status)
  | acknowledged done small => exact absurd small (Nat.not_lt.mpr status)
  | appended submits done created =>
      rw [created] at status
      exact absurd status (by decide)

end Server
end ChangeLog.Http
