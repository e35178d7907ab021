/-
  What was posted, and what is shown of it. Neither other requests nor restarts change the log where
  an event is (`runAll_holds`), and all ways to an event end there (`shows_of_covers`). So an event
  that was accepted is shown as it was posted from then on, on every way to it; and requests that
  were refused might as well not have been sent (`posted_shown_everywhere`).
-/
import ChangeLog.Proofs.Bytes.Hex
import ChangeLog.Proofs.Http.Showing

namespace ChangeLog

namespace Http

open Json (Value)

/-- Members of an object give what a producer submits: the type, which has to be there, the source,
and the payloads in hexadecimal. -/
structure Carries (members : List (String × String)) (draft : Draft) : Prop where
  type : members.lookup "event_type" = some draft.type
  source : (members.lookup "source").getD "" = draft.source
  before : Hex.decode ((members.lookup "before").getD "") = .ok draft.before
  after : Hex.decode ((members.lookup "after").getD "") = .ok draft.after

/-- A body that submits an event has the members for it. -/
theorem Server.carries_of_submitted {req : Request} {draft : Draft}
    (submits : submitted req = .ok draft) :
    ∃ members, Json.texts ["event_type", "before", "after", "source"] req.body.toList =
      .ok members ∧ Carries members draft := by
  unfold submitted at submits
  dsimp only at submits
  split at submits
  · split at submits
    · obtain ⟨members, read, submits⟩ := bind_eq_ok.mp submits
      cases type : members.lookup "event_type" with
      | none =>
          rw [type] at submits
          cases submits
      | some _ =>
          rw [type] at submits
          obtain ⟨before, read_before, submits⟩ := bind_eq_ok.mp submits
          obtain ⟨after, read_after, submits⟩ := bind_eq_ok.mp submits
          cases submits
          exact ⟨members, mapError_eq_ok.mp read, type, rfl, mapError_eq_ok.mp read_before,
            mapError_eq_ok.mp read_after⟩
    · cases submits
  · cases submits

namespace Server

/-! ## Turns -/

/-- What happens to a server: a request comes while no other does, the log behind it is closed, or
it is started again. -/
inductive Turn where
  | request (ambient : Ambient) (req : Request)
  | close
  | restart (settings : Config)

/-- What comes of it. -/
inductive Reaction where
  | replied (outcome : Outcome)
  | closed
  | restarted (result : Except ServerError Unit)

/-- Takes a turn. Where starting again fails, what was there before stays. -/
def take (state : Server × Disk) : Turn → Reaction × (Server × Disk)
  | .request ambient req =>
    let (outcome, after) := state.1.respond state.2 ambient req
    (.replied outcome, after)
  | .close => (.closed, state.1.close, state.2)
  | .restart settings =>
    match start state.2 settings with
    | (.error cause, disk) => (.restarted (.error cause), state.1, disk)
    | (.ok s, disk) => (.restarted (.ok ()), s, disk)

/-- Whether the turn posts an event. -/
def Turn.posts : Turn → Bool
  | .request _ req => req.posts
  | _ => false

/-- A restart finds the directory of before, and its settings are valid. -/
def Turn.Finds (directory : Option String) : Turn → Prop
  | .restart settings =>
    settings.maxBatch ≠ 0 ∧ settings.directory.isSome ∧ settings.directory = directory
  | _ => True

/-- A request is answered, and a restart succeeds. -/
def Reaction.Succeeds : Reaction → Prop
  | .replied outcome => ∃ reply, outcome = .answered reply
  | .closed => True
  | .restarted result => result = .ok ()

/-- The status of the reply, if it is one. -/
def Reaction.status? : Reaction → Option Nat
  | .replied (.answered reply) => some reply.status
  | _ => none

/-- The status is that of an error. -/
def Reaction.isRefusal (reaction : Reaction) : Bool := 400 ≤ reaction.status?.getD 0

/-- An event was posted and accepted. -/
def isAccepted (exchange : Turn × Reaction) : Bool :=
  exchange.1.posts && exchange.2.status? = some 201

variable {state later : Server × Disk} {turn : Turn} {directory : Option String}
  {events : List Event}

theorem take_refused (state : Server × Disk) (turn : Turn)
    (refused : (take state turn).1.isRefusal = true) : (take state turn).2 = state := by
  cases turn with
  | request ambient req =>
      obtain ⟨reply, s, disk, answered, -⟩ := respond_effect state.1 state.2 ambient req
      rw [take, answered] at refused ⊢
      obtain ⟨rfl, rfl⟩ := respond_refused answered (of_decide_eq_true refused)
      rfl
  | close => cases refused
  | restart settings =>
      rw [take] at refused
      split at refused
      · cases refused
      · cases refused

theorem isAccepted_iff {ambient : Ambient} {req : Request} {reply : Reply} :
    isAccepted (.request ambient req, .replied (.answered reply)) = true ↔
      req.posts = true ∧ reply.status = 201 := by
  rw [isAccepted, Bool.and_eq_true_iff, decide_eq_true_iff]
  exact and_congr_right fun _ => Option.some_inj

/-! ## What turns leave alone -/

/-- The log holds events, each at its own offset, and so does the disk if there is a directory. -/
structure Holds (directory : Option String) (events : List Event) (state : Server × Disk) :
    Prop where
  events_eq : state.1.log.events.events = events
  numbered : EventStore.Numbered events
  live : ∀ d, directory = some d → ∃ journal ledger, Log.Live d journal ledger state.1.log state.2

/-- A change carries the events over where it does so for every log that is live. -/
theorem Holds.carry (h : Holds directory events state) {events' : List Event}
    (events_eq : later.1.log.events.events = events') (numbered : EventStore.Numbered events')
    (keeps : ∀ {d journal ledger}, Log.Live d journal ledger state.1.log state.2 →
      ∃ grown raised, Log.Live d grown raised later.1.log later.2) :
    Holds directory events' later := by
  refine ⟨events_eq, numbered, ?_⟩
  intro d same
  obtain ⟨journal, ledger, live⟩ := h.live d same
  exact keeps live

/-- What an answer stands for: the events stay, or the one that was posted comes at the end. -/
theorem Holds.effect {s s' : Server} {disk disk' : Disk} {now : Time.Instant} {req : Request}
    {reply : Reply} (h : Holds directory events (s, disk))
    (effect : Effect s disk now req reply s' disk') :
    (Holds directory events (s', disk') ∧ ¬ (req.posts = true ∧ reply.status = 201)) ∨
    ∃ draft, submitted req = .ok draft ∧ req.posts = true ∧ reply.status = 201 ∧
      reply.content =
        .json (appendedView (Event.stamp draft (UInt64.ofNat events.length) now)) ∧
      Holds directory (events ++ [Event.stamp draft (UInt64.ofNat events.length) now])
        (s', disk') := by
  cases effect with
  | refused status => exact .inl ⟨h, by omega⟩
  | looked cursors status apart =>
      refine .inl ⟨h.carry h.events_eq h.numbered ?_, ?_⟩
      · exact fun live => ⟨_, _, live.cursors cursors⟩
      · exact fun accepted => Bool.eq_false_iff.mp apart accepted.1
  | @acknowledged consumer offset last log _ done status apart =>
      have same := (Log.acknowledge_keeps s.log disk consumer offset).1
      rw [done] at same
      refine .inl ⟨h.carry ((congrArg EventStore.events same).trans h.events_eq) h.numbered ?_, ?_⟩
      · intro d journal ledger live
        obtain ⟨_, raised, _, _, done', live, -⟩ := Log.acknowledge_live live consumer offset
        rw [done] at done'
        cases done'
        exact ⟨journal, raised, live⟩
      · exact fun accepted => Bool.eq_false_iff.mp apart accepted.1
  | @appended draft e log _ submits done status content posts =>
      obtain ⟨rfl, more⟩ := Log.append_stamps done
      have next_eq : s.log.nextOffset = UInt64.ofNat events.length := by
        rw [← h.events_eq]
        rfl
      rw [next_eq] at content more
      refine .inr ⟨draft, submits, posts, status, content,
        h.carry (more.trans (by rw [h.events_eq])) (h.numbered.append rfl) ?_⟩
      intro d journal ledger live
      obtain ⟨_, grown, _, _, done', live, -⟩ := Log.append_live live now draft
      rw [done] at done'
      cases done'
      exact ⟨grown, ledger, live⟩

/-- A restart in the directory of before finds the events of before. -/
theorem Holds.start (h : Holds directory events state) (few : events.length < UInt64.size)
    {settings : Config} (finds : (Turn.restart settings).Finds directory) :
    ∃ s, start state.2 settings = (.ok s, state.2) ∧ Holds directory events (s, state.2) := by
  obtain ⟨rfl, numbered, live⟩ := h
  obtain ⟨batches, given, rfl⟩ := finds
  obtain ⟨d, given⟩ := Option.isSome_iff_exists.mp given
  obtain ⟨journal, ledger, live⟩ := live d given
  -- The bound on reads may be another one.
  have live : Log.Live d journal ledger { state.1.log with maxBatch := settings.maxBatch }
      state.2 := ⟨live.events, live.progress, live.apart, live.slots, live.bound⟩
  refine ⟨⟨{ state.1.log with maxBatch := settings.maxBatch }.restarted, settings.longPollMax⟩,
    ?_, rfl, numbered, ?_⟩
  · rw [Server.start, Config.validate, if_neg batches]
    dsimp only
    rw [given]
    dsimp only
    rw [live.openIn_eq few]
  · intro d' same
    rw [given] at same
    cases same
    exact ⟨journal, ledger, live.restarted⟩

/-- A server that was started holds the events that it found. -/
theorem holds_of_start {config : Config} {disk opened : Disk} {server : Server}
    (stored : disk.Stored) (unshared : disk.Unshared)
    (started : Server.start disk config = (.ok server, opened)) :
    Holds config.directory server.log.events.events (server, opened) := by
  unfold Server.start Config.validate at started
  split at started
  · cases started
  · rename_i valid
    split at valid
    · cases valid
    · cases valid
      split at started
      · rename_i given
        cases started
        rw [given]
        exact ⟨rfl, EventStore.numbered_iff.mpr rfl, nofun⟩
      · rename_i d given
        split at started
        · cases started
        · rename_i openedIn
          cases started
          obtain ⟨journal, ledger, live⟩ := Log.live_of_openIn stored unshared openedIn
          refine ⟨rfl, live.events.numbered, ?_⟩
          intro d' same
          rw [given] at same
          cases same
          exact ⟨journal, ledger, live⟩

/-- A turn succeeds, and adds the event that was accepted. -/
theorem take_holds (h : Holds directory events state) (few : events.length < UInt64.size)
    (finds : turn.Finds directory) :
    ∃ reaction later more, take state turn = (reaction, later) ∧ reaction.Succeeds ∧
      Holds directory (events ++ more) later ∧
      more.length = if isAccepted (turn, reaction) then 1 else 0 := by
  cases turn with
  | request ambient req =>
      obtain ⟨reply, s, disk, answered, effect⟩ := respond_effect state.1 state.2 ambient req
      rw [take, answered]
      rcases h.effect effect with ⟨same, nothing⟩ | ⟨draft, -, posts, status, -, grown⟩
      · refine ⟨_, _, [], rfl, ⟨reply, rfl⟩, by rwa [List.append_nil], ?_⟩
        rw [if_neg (nothing ∘ isAccepted_iff.mp), List.length_nil]
      · refine ⟨_, _, _, rfl, ⟨reply, rfl⟩, grown, ?_⟩
        rw [if_pos (isAccepted_iff.mpr ⟨posts, status⟩), List.length_singleton]
  | close =>
      refine ⟨_, _, [], rfl, trivial, ?_, rfl⟩
      rw [List.append_nil]
      exact h.carry h.events_eq h.numbered fun live => ⟨_, _, Log.close_live live⟩
  | restart settings =>
      obtain ⟨s, started, same⟩ := h.start few finds
      rw [take, started]
      exact ⟨_, _, [], rfl, rfl, by rwa [List.append_nil], rfl⟩

/-- All turns succeed, and the events that were accepted come at the end, one after the other. -/
theorem runAll_holds {turns : List Turn} (h : Holds directory events state)
    (finds : ∀ turn ∈ turns, turn.Finds directory)
    (few : events.length + turns.countP Turn.posts < UInt64.size) :
    ∃ reactions later more, runAll take state turns = (reactions, later) ∧
      (∀ reaction ∈ reactions, reaction.Succeeds) ∧ Holds directory (events ++ more) later ∧
      more.length = (turns.zip reactions).countP isAccepted ∧
      more.length ≤ turns.countP Turn.posts := by
  induction turns generalizing events state with
  | nil => exact ⟨[], state, [], rfl, nofun, by rwa [List.append_nil], rfl, Nat.le_refl _⟩
  | cons turn turns ih =>
      rw [List.countP_cons] at few
      obtain ⟨reaction, middle, more, taken, succeeds, held, length⟩ :=
        take_holds h (by omega) (finds turn List.mem_cons_self)
      have accepts : more.length ≤ if turn.posts then 1 else 0 := by
        rw [length]
        split
        · rename_i accepted
          rw [show turn.posts = true from (Bool.and_eq_true_iff.mp accepted).1]
          exact Nat.le_refl _
        · exact Nat.zero_le _
      obtain ⟨reactions, later, rest, ran, succeed, holds, lengths, le⟩ :=
        ih held (fun turn mem => finds turn (List.mem_cons_of_mem _ mem))
          (by rw [List.length_append]; omega)
      refine ⟨reaction :: reactions, later, more ++ rest, ?_, ?_, ?_, ?_, ?_⟩
      · rw [runAll_cons, taken, ran]
      · exact List.forall_mem_cons.mpr ⟨succeeds, succeed⟩
      · rwa [← List.append_assoc]
      · rw [List.length_append, List.zip_cons_cons, List.countP_cons, length, lengths,
          Nat.add_comm]
      · rw [List.length_append, List.countP_cons]
        omega

/-- An event that was posted and accepted in the middle of a run: it stands behind those that were
accepted earlier, and in front of all others. -/
theorem holds_of_accepted {turns : List Turn} {reactions : List Reaction}
    {earlier others : List (Turn × Reaction)} {ambient : Ambient} {post : Request} {reply : Reply}
    (h : Holds directory events state) (finds : ∀ turn ∈ turns, turn.Finds directory)
    (few : events.length + turns.countP Turn.posts < UInt64.size)
    (ran : runAll take state turns = (reactions, later))
    (parts : turns.zip reactions =
      earlier ++ (.request ambient post, .replied (.answered reply)) :: others)
    (posts : post.posts = true) (status : reply.status = 201) :
    ∃ front back draft, front.length = events.length + earlier.countP isAccepted ∧
      front.length + (back.length + 1) < UInt64.size ∧ submitted post = .ok draft ∧
      reply.content =
        .json (appendedView (Event.stamp draft (UInt64.ofNat front.length) ambient.now)) ∧
      Holds directory
        (front ++ Event.stamp draft (UInt64.ofNat front.length) ambient.now :: back) later := by
  have parts : turns.zip (runAll take state turns).1 =
      earlier ++ (.request ambient post, .replied (.answered reply)) :: others := by
    rwa [ran]
  obtain ⟨turns_eq, earlier_eq, taken⟩ := runAll_of_zip_eq parts
  rw [turns_eq] at finds
  rw [turns_eq, List.countP_append, List.countP_cons,
    if_pos (show (Turn.request ambient post).posts = true from posts)] at few
  obtain ⟨before, ⟨s, disk⟩, found, ran_before, -, held, length, le⟩ :=
    runAll_holds h (fun turn mem => finds turn (List.mem_append_left _ mem)) (by omega)
  rw [ran_before] at earlier_eq taken
  rw [← earlier_eq] at length
  obtain ⟨reply', s', disk', answered, effect⟩ := respond_effect s disk ambient post
  rw [take, answered] at taken
  cases taken
  rcases held.effect effect with ⟨-, nothing⟩ | ⟨draft, submits, -, -, content, held⟩
  · exact absurd ⟨posts, status⟩ nothing
  · have place : (events ++ found).length = events.length + earlier.countP isAccepted := by
      rw [List.length_append, length]
    obtain ⟨behind, final, more, ran_behind, -, held, -, le'⟩ :=
      runAll_holds held
        (fun turn mem => finds turn (List.mem_append_right _ (List.mem_cons_of_mem _ mem)))
        (by rw [List.length_append, List.length_singleton]; omega)
    have final_eq : final = later := by
      have ran := congrArg Prod.snd ran
      rw [turns_eq, runAll_append, ran_before, runAll_cons, take, answered] at ran
      dsimp only at ran
      rw [ran_behind] at ran
      exact ran
    rw [final_eq, List.append_assoc _ [_], List.singleton_append] at held
    exact ⟨_, more, draft, place, by omega, submits, content, held⟩

/-! ## What is shown of what was posted -/

/-- An event that was posted, at an offset and under an identifier, as it is shown. -/
def postedView (offset : Nat) (id : EventId) (draft : Draft) (now : Time.Instant) : Value :=
  .object [("offset", .number offset), ("event_id", .text id.text),
    ("event_type", .text draft.type), ("before", .text (Hex.encode draft.before)),
    ("after", .text (Hex.encode draft.after)), ("source", .text draft.source),
    ("timestamp", .text (Time.Rfc3339.shown now))]

theorem eventView_stamp {n : Nat} (small : n < UInt64.size) (draft : Draft) (now : Time.Instant) :
    eventView (Event.stamp draft (UInt64.ofNat n) now) =
      postedView n (Event.stamp draft (UInt64.ofNat n) now).id draft now := by
  have same : (UInt64.ofNat n).toNat = n := UInt64.toNat_ofNat_of_lt' small
  rw [eventView, postedView, Event.stamp, Json.word, same]

theorem appendedView_stamp {n : Nat} (small : n < UInt64.size) (draft : Draft)
    (now : Time.Instant) :
    appendedView (Event.stamp draft (UInt64.ofNat n) now) = .object [("offset", .number n),
      ("event_id", .text (Event.stamp draft (UInt64.ofNat n) now).id.text)] := by
  have same : (UInt64.ofNat n).toNat = n := UInt64.toNat_ofNat_of_lt' small
  rw [appendedView, Event.stamp, Json.word, same]

/-- What is shown of an event that was posted: its place has stayed, whatever came after it. -/
theorem Holds.shows {front back : List Event} {draft : Draft} {now : Time.Instant}
    (h : Holds directory (front ++ Event.stamp draft (UInt64.ofNat front.length) now :: back) state)
    (few : front.length + (back.length + 1) < UInt64.size) {ambient : Ambient} {look : Request}
    {shown : Reply} (replied : (take state (.request ambient look)).1 = .replied (.answered shown))
    (covers : state.1.Covers front.length look shown) :
    shown.Shows front.length (postedView front.length
      (Event.stamp draft (UInt64.ofNat front.length) now).id draft now) := by
  obtain ⟨events_eq, numbered, -⟩ := h
  have small : front.length < UInt64.size := by omega
  rw [← eventView_stamp small]
  rcases answered : state.1.respond state.2 ambient look with ⟨outcome, s, disk⟩
  rw [take, answered] at replied
  cases replied
  refine shows_of_covers (events_eq ▸ numbered) ?_ ?_ answered covers
  · rwa [events_eq, List.length_append, List.length_cons]
  · rw [events_eq, List.getElem?_append_right (Nat.le_refl _), Nat.sub_self]
    rfl

/-- A server is started, in memory or in a directory whatever is in it, and takes turns: requests
that come one at a time, and restarts in the same directory. Every request is answered and every
restart succeeds. Any of the requests that are answered with the status of an error can be left out,
and everything else is answered as before and ends in the same state. An event that is posted and
accepted gets the next offset, counted on from the events that the server found, and an identifier;
and every later reply to a request for that offset, for a range that holds it, or for what a cursor
at or before it reads past it shows it there in one way: the type and the source that were posted,
the payloads in lower-case hexadecimal, and the time of then. -/
theorem posted_shown_everywhere {config : Config} {disk opened : Disk} {server : Server}
    {turns : List Turn} (stored : disk.Stored) (unshared : disk.Unshared)
    (started : start disk config = (.ok server, opened))
    (finds : ∀ turn ∈ turns, turn.Finds config.directory)
    (few : server.log.events.events.length + turns.countP Turn.posts < UInt64.size) :
    ∃ reactions final, runAll take (server, opened) turns = (reactions, final) ∧
      (∀ reaction ∈ reactions, reaction.Succeeds) ∧
      (∀ kept, OmitsOnly Reaction.isRefusal kept (turns.zip reactions) →
        runAll take (server, opened) (kept.map Prod.fst) = (kept.map Prod.snd, final)) ∧
      ∀ earlier ambient post reply others,
        turns.zip reactions =
          earlier ++ (.request ambient post, .replied (.answered reply)) :: others →
        post.posts = true → reply.status = 201 →
        ∃ members draft offset id,
          Json.texts ["event_type", "before", "after", "source"] post.body.toList = .ok members ∧
          Carries members draft ∧
          Hex.encode draft.before = Text.lowered ((members.lookup "before").getD "") ∧
          Hex.encode draft.after = Text.lowered ((members.lookup "after").getD "") ∧
          offset = server.log.events.events.length + earlier.countP isAccepted ∧
          reply.content =
            .json (.object [("offset", .number offset), ("event_id", .text (EventId.text id))]) ∧
          ∀ later look shown, (take final (.request later look)).1 = .replied (.answered shown) →
            final.1.Covers offset look shown →
            shown.Shows offset (postedView offset id draft ambient.now) := by
  have held := holds_of_start stored unshared started
  obtain ⟨reactions, final, -, ran, succeed, -⟩ := runAll_holds held finds few
  refine ⟨reactions, final, ran, succeed, ?_, ?_⟩
  · intro kept omits
    have omits : OmitsOnly Reaction.isRefusal kept
        (turns.zip (runAll take (server, opened) turns).1) := by
      rwa [ran]
    rw [runAll_of_omitsOnly take_refused omits, ran]
  intro earlier ambient post reply others parts posts status
  obtain ⟨front, back, draft, place, room, submits, content, holds⟩ :=
    holds_of_accepted held finds few ran parts posts status
  obtain ⟨members, read, carries⟩ := carries_of_submitted submits
  rw [appendedView_stamp (by omega)] at content
  exact ⟨members, draft, _, _, read, carries, Hex.encode_of_decode carries.before,
    Hex.encode_of_decode carries.after, place, content,
    fun _ _ _ replied covers => holds.shows room replied covers⟩

/-- A moment, and an identifier. -/
def dayOne : Ambient := { now := ⟨11, 0, by decide⟩, fresh := ⟨1⟩ }

/-- A request that posts a payload in hexadecimal. -/
def posting (payload : String) : Request :=
  { method := "POST", target := "/events", contentType := some "application/json",
    body := "\x7b\"event_type\":\"put\",\"after\":\"" ++ payload ++ "\"\x7d" }

/-- An event between requests that are refused, and a restart. -/
def spoiledPosts : List Turn :=
  [.request dayOne (posting "A"), .request dayOne (posting "AB"),
    .restart { directory := some "" }, .request dayOne { method := "GET", target := "/events/-1" }]

/-- A server over two empty files. -/
def blankServer : Server := ⟨Log.overJournals Journal.blank Log.blankLedger 100, 30000⟩

theorem start_blank :
    start {} { directory := some "" } = (.ok blankServer, Log.blankFiles) := by
  rw [start, Config.validate, if_neg (show ¬ (100 : UInt64) = 0 by decide)]
  dsimp only
  rw [Log.openIn_blank_eq]
  rfl

set_option maxRecDepth 4000 in
/-- The event is the first one, whatever was refused before it, and is shown after the restart. -/
theorem put_shown_after_restart :
    ∃ reactions final id shown,
      start {} { directory := some "" } = (.ok blankServer, Log.blankFiles) ∧
      runAll take (blankServer, Log.blankFiles) spoiledPosts = (reactions, final) ∧
      reactions.map Reaction.isRefusal = [true, false, false, true] ∧
      (take final (.request dayOne { method := "GET", target := "/events/0" })).1 =
        .replied (.answered shown) ∧
      shown.Shows 0 (postedView 0 id { type := "put", after := [171] } dayOne.now) := by
  have finds : ∀ turn ∈ spoiledPosts, turn.Finds (some "") := by
    simp [spoiledPosts, Turn.Finds]
  obtain ⟨reactions, final, ran, -, -, shows⟩ :=
    posted_shown_everywhere Disk.stored_empty Disk.unshared_empty start_blank finds
      (by decide +kernel)
  have reactions_eq : reactions = (runAll take (blankServer, Log.blankFiles) spoiledPosts).1 := by
    rw [ran]
  have final_eq : final = (runAll take (blankServer, Log.blankFiles) spoiledPosts).2 := by
    rw [ran]
  -- The event is accepted behind a refusal.
  rcases refused : take (blankServer, Log.blankFiles) (.request dayOne (posting "A")) with
    ⟨first, s⟩
  have first_eq := congrArg Prod.fst refused
  have s_eq := congrArg Prod.snd refused
  dsimp only at first_eq s_eq
  obtain ⟨reply, _, _, answered, -⟩ := respond_effect s.1 s.2 dayOne (posting "AB")
  have accepted : (take s (.request dayOne (posting "AB"))).1 = .replied (.answered reply) := by
    rw [take, answered]
  have created :
      isAccepted (.request dayOne (posting "AB"), .replied (.answered reply)) = true := by
    rw [← accepted, ← s_eq]
    decide +kernel
  obtain ⟨others, parts⟩ : ∃ others, spoiledPosts.zip reactions =
      [(.request dayOne (posting "A"), first)] ++
        (.request dayOne (posting "AB"), .replied (.answered reply)) :: others := by
    rw [reactions_eq, spoiledPosts, zip_runAll_cons, zip_runAll_cons, refused, accepted]
    exact ⟨_, rfl⟩
  rw [isAccepted_iff] at created
  obtain ⟨members, draft, offset, id, read, carries, -, -, offset_eq, -, shows⟩ :=
    shows _ _ _ _ _ parts created.1 created.2
  have read_eq : (Json.texts ["event_type", "before", "after", "source"]
      (posting "AB").body.toList).toOption = some [("after", "AB"), ("event_type", "put")] := by
    decide +kernel
  rw [read] at read_eq
  cases read_eq
  have draft_eq : draft = { type := "put", after := [171] } := by
    obtain ⟨type, source, before, after⟩ := draft
    have type_eq : type = "put" := (Option.some.inj carries.type).symm
    have source_eq : source = "" := carries.source.symm
    have before_eq : before = [] := (Except.ok.inj carries.before).symm
    have after_eq : after = [171] := (Except.ok.inj carries.after).symm
    rw [type_eq, source_eq, before_eq, after_eq]
  have offset_eq : offset = 0 := by
    rw [offset_eq, ← first_eq]
    decide +kernel
  obtain ⟨shown, _, _, looked, -⟩ :=
    respond_effect final.1 final.2 dayOne { method := "GET", target := "/events/0" }
  have replied : (take final (.request dayOne { method := "GET", target := "/events/0" })).1 =
      .replied (.answered shown) := by
    rw [take, looked]
  have status : Reaction.status? (.replied (.answered shown)) = some 200 := by
    rw [← replied, final_eq]
    decide +kernel
  have routed : Route.ofPath? (splitTarget "/events/0").1 = some (.event ['0']) := by
    decide +kernel
  refine ⟨reactions, final, id, shown, start_blank, ran, ?_, replied, ?_⟩
  · rw [reactions_eq]
    decide +kernel
  · rw [offset_eq, draft_eq] at shows
    refine shows _ _ _ replied ⟨rfl, Option.some.inj status, ?_⟩
    dsimp only
    rw [routed]
    exact ⟨"0", rfl, rfl⟩

end Server
end Http
end ChangeLog
