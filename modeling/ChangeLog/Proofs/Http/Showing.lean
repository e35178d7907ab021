/-
  Ways to an event. It is asked for by its offset, in a range, or by a read from a cursor; each way
  has a form of its own for the numbers that it takes, and all of them end in a part of the same log
  (`between`). `Covers` says when a reply has to show an offset, `Shows` that a reply gives one view
  of it and no other, and what is covered is shown as it is in the log (`shows_of_covers`).
-/
import ChangeLog.Proofs.Http.Requests

namespace ChangeLog

/-! ## Numbers in requests -/

theorem Text.addDigits_le {high n m : Nat} {cs : List Char} (start : n ≤ high)
    (read : addDigits high n cs = .ok m) : m ≤ high := by
  induction cs generalizing n with
  | nil =>
      cases read
      exact start
  | cons c cs ih =>
      unfold addDigits at read
      split at read
      · cases read
      · split at read
        · cases read
        · rename_i small
          exact ih (Nat.le_of_not_lt small) read

theorem Text.unsigned_le {high m : Nat} {cs : List Char} (read : unsigned high cs = .ok m) :
    m ≤ high := by
  unfold unsigned at read
  split at read
  · cases read
  · exact addDigits_le (Nat.zero_le _) read

/-- A number with a sign takes 63 bits beside its sign. -/
theorem Text.parseSigned_lt {cs : List Char} {n : Int} (read : parseSigned cs = .ok n) :
    n.toNat < UInt64.size := by
  have positive : ∀ {cs : List Char},
      (unsigned 9223372036854775807 cs).map Int.ofNat = .ok n → n.toNat < UInt64.size := by
    intro cs read
    cases digits : unsigned 9223372036854775807 cs with
    | error fault =>
        rw [digits] at read
        cases read
    | ok m =>
        rw [digits] at read
        cases read
        exact Nat.lt_of_le_of_lt (unsigned_le digits) (by decide)
  unfold parseSigned at read
  split at read
  · cases read
  · split at read
    · cases read
      rw [Int.toNat_neg_natCast]
      decide
    · cases read
    · cases read
  · exact positive read
  · exact positive read

/-! ## Answers of the log -/

namespace Log

variable {log : Log} {first last offset : UInt64} {e : Event} {es : List Event}

theorem getElem?_of_get (got : log.get offset = .ok e) :
    log.events.events[offset.toNat]? = some e := by
  unfold get EventStore.get at got
  cases closed : log.events.isClosed with
  | true =>
      rw [closed, if_pos rfl] at got
      cases got
  | false =>
      rw [closed, if_neg Bool.false_ne_true] at got
      by_cases behind : log.events.nextOffset ≤ offset
      · rw [if_pos behind] at got
        cases got
      · rw [if_neg behind] at got
        cases found : log.events.events[offset.toNat]? with
        | none =>
            rw [found] at got
            cases got
        | some d =>
            rw [found] at got
            cases got
            rfl

/-- A range that was replayed is the part of the log from its first to its last offset. -/
theorem between_of_replay (replayed : log.replay first last = .ok es) :
    ∃ stop, stop.toNat = last.toNat + 1 ∧ es = between log.events.events first stop := by
  obtain ⟨-, inside, given⟩ := (replay_eq_ok_iff (isOpen_of_replay replayed)).mp replayed
  exact ⟨last + 1, Acks.toNat_add_one_of_lt inside, given⟩

/-- What was replayed up to the end is the part of the log behind its first offset. -/
theorem between_of_replayFrom (replayed : log.replayFrom first = .ok es) :
    es = between log.events.events first log.nextOffset := by
  have same : ¬ log.events.nextOffset = 0 ∧
      log.replay first (log.events.nextOffset - 1) = .ok es := by
    unfold replayFrom whenOpen EventStore.replayFrom at replayed
    unfold replay whenOpen
    cases closed : log.events.isClosed with
    | true =>
        rw [closed, if_pos rfl] at replayed
        cases replayed
    | false =>
        rw [closed, if_neg Bool.false_ne_true] at replayed
        by_cases empty : log.events.nextOffset = 0
        · rw [if_pos empty] at replayed
          cases replayed
        · rw [if_neg empty] at replayed
          exact ⟨empty, replayed⟩
  obtain ⟨nonempty, replayed⟩ := same
  obtain ⟨stop, stop_eq, rfl⟩ := between_of_replay replayed
  rw [Acks.toNat_sub_one nonempty] at stop_eq
  rw [UInt64.toNat_inj.mp stop_eq]
  rfl

end Log

namespace Http

open Json (Value)

theorem Param.signed_lt {kind : ParamKind} {value : String} {n : Int}
    (parsed : Param.parse kind value = .ok (.signed n)) : n.toNat < UInt64.size := by
  unfold Param.parse at parsed
  split at parsed
  · cases parsed
  · split at parsed
    · rename_i number
      cases parsed
      exact Text.parseSigned_lt number
    · cases parsed
  · split at parsed
    · cases parsed
    · cases parsed

theorem collect_signed_lt {known : List (String × ParamKind)} {pairs : List (String × String)}
    {found ps : Params}
    (before : ∀ name n, found.lookup name = some (.signed n) → n.toNat < UInt64.size)
    (read : collect known pairs found = .ok ps) :
    ∀ name n, ps.lookup name = some (.signed n) → n.toNat < UInt64.size := by
  induction pairs generalizing found with
  | nil =>
      cases read
      exact before
  | cons pair pairs ih =>
      obtain ⟨name, value⟩ := pair
      unfold collect at read
      split at read
      · exact ih before read
      · split at read
        · cases read
        · split at read
          · cases read
          · rename_i param parsed
            refine ih ?_ read
            intro other n there
            rw [List.lookup_cons] at there
            split at there
            · cases there
              exact Param.signed_lt parsed
            · exact before other n there

/-- Every signed parameter of a query takes 63 bits beside its sign. -/
theorem signed?_lt {known : List (String × ParamKind)} {query : List Char} {ps : Params}
    {name : String} {n : Int} (read : params known query = .ok ps)
    (given : ps.signed? name = some n) : n.toNat < UInt64.size := by
  have none_yet : ∀ name n, ([] : Params).lookup name = some (.signed n) →
      n.toNat < UInt64.size := by
    intro name n there
    cases there
  unfold Params.signed? at given
  split at given
  · rename_i found
    cases given
    exact collect_signed_lt none_yet read name _ found
  · cases given

/-! ## Views in replies -/

/-- A member of an object. -/
def member? (name : String) : Value → Option Value
  | .object members => members.lookup name
  | _ => none

/-- The offset that a view of an event gives. -/
def offset? (view : Value) : Option Nat :=
  match member? "offset" view with
  | some (.number n) => some n
  | _ => none

/-- The views of events in a reply: those that it lists, or the one that it is. -/
def Reply.views (reply : Reply) : List Value :=
  match reply.content with
  | .json v =>
    match member? "events" v with
    | some (.array views) => views
    | _ => [v]
  | _ => []

/-- A reply shows a view, and no other for the same offset. -/
def Reply.Shows (reply : Reply) (offset : Nat) (view : Value) : Prop :=
  view ∈ reply.views ∧ ∀ other ∈ reply.views, offset? other = some offset → other = view

namespace Server

/-- The reply to a reading request covers an offset: it asks for the event there, for a range that
holds it, or reads from a cursor at or before it to a position behind it. -/
def Covers (s : Server) (offset : Nat) (req : Request) (reply : Reply) : Prop :=
  req.method = "GET" ∧ reply.status = 200 ∧
    match Route.ofPath? (splitTarget req.target).1 with
    | some (.event raw) =>
      ∃ text, segment "offset" raw = .ok text ∧ Text.parseSigned text.toList = .ok offset
    | some .events =>
      ∃ ps first, queryOf [("from", .signed), ("to", .signed)] (splitTarget req.target).2 = .ok ps ∧
        ps.signed? "from" = some first ∧ first ≤ offset ∧
        ∀ last, ps.signed? "to" = some last → offset ≤ last
    | some (.subscription raw) =>
      ∃ id cursor v stop, (segment "id" raw).bind cursorOf = .ok id ∧
        s.log.cursors.find? id = some cursor ∧ reply.content = .json v ∧
        member? "position" v = some (.number stop) ∧
        cursor.position.toNat ≤ offset ∧ offset < stop
    | _ => False

end Server

/-! ## Parts of the log in replies -/

section Parts

variable {events : List Event} {e : Event} {first stop : UInt64} {i : Nat}

theorem offset?_eventView (e : Event) : offset? (eventView e) = some e.offset.toNat := rfl

theorem views_eventView (e : Event) : (Reply.ofJson 200 (eventView e)).views = [eventView e] := rfl

theorem views_eventsView (es : List Event) :
    (Reply.ofJson 200 (eventsView es)).views = es.map eventView := rfl

theorem views_batchView (b : Batch) :
    (Reply.ofJson 200 (batchView b)).views = b.events.map eventView := rfl

theorem member?_batchView (b : Batch) :
    member? "position" (batchView b) = some (Json.word b.position) := by
  have other : ("position" == "events") = false := by decide
  rw [batchView, member?, List.lookup_cons, other]
  rfl

/-- A reply that shows a part of a numbered log shows each event of the part as it is there. -/
theorem shows_of_between (numbered : EventStore.Numbered events) (there : events[i]? = some e)
    (from_first : first.toNat ≤ i) (to_stop : i < stop.toNat) {reply : Reply}
    (views : reply.views = (between events first stop).map eventView) :
    reply.Shows i (eventView e) := by
  have stop_lt : stop.toNat < UInt64.size := stop.toNat_lt
  unfold Reply.Shows
  rw [views]
  constructor
  · refine List.mem_map_of_mem (List.mem_of_getElem? (?_ : _[i - first.toNat]? = some e))
    rw [getElem?_between, if_pos (by omega), Nat.add_sub_of_le from_first, there]
  · intro other mem same
    obtain ⟨d, inside, rfl⟩ := List.mem_map.mp mem
    obtain ⟨j, found⟩ := List.getElem?_of_mem inside
    rw [getElem?_between] at found
    split at found
    · have offset := congrArg UInt64.toNat (numbered _ d found)
      rw [UInt64.toNat_ofNat_of_lt' (by omega)] at offset
      rw [offset?_eventView, Option.some.injEq, offset] at same
      rw [same, there] at found
      cases found
      rfl
    · cases found

end Parts

/-! ## Requests that look -/

namespace Server

variable {s : Server} {disk : Disk} {ambient : Ambient} {req : Request} {reply : Reply}
  {e : Event} {i : Nat}

/-- A reply with the status of a success is no refusal. -/
theorem settle_eq {isBare : Bool} {answer : Except Refusal Reply}
    (status : (settle isBare answer).status = 200) :
    ∃ reply, answer = .ok reply ∧ (settle isBare answer).views = reply.views := by
  cases answer with
  | error refusal =>
      have refused : 400 ≤ (settle isBare (.error refusal)).status := refusal.status_le
      rw [status] at refused
      exact absurd refused (by decide)
  | ok reply => exact ⟨reply, rfl, rfl⟩

theorem offset_ofNat (i : Nat) : offset i = .ok (UInt64.ofNat i) := by
  rw [offset, if_neg (by omega)]
  rfl

/-- An offset that was taken is the number that was given. -/
theorem toNat_of_offset {n : Int} {o : UInt64} (taken : offset n = .ok o)
    (small : n.toNat < UInt64.size) : (o.toNat : Int) = n := by
  unfold offset at taken
  split at taken
  · cases taken
  · rename_i positive
    cases taken
    rw [UInt64.toNat_ofNat_of_lt' small, Int.toNat_of_nonneg (Int.not_lt.mp positive)]

/-- The event that is asked for by its offset. -/
theorem showEvent_ok {raw : List Char} {text : String}
    (named : segment "offset" raw = .ok text) (read : Text.parseSigned text.toList = .ok (i : Int))
    (shown : s.showEvent raw = .ok reply) :
    ∃ e, s.log.get (UInt64.ofNat i) = .ok e ∧ reply = .ofJson 200 (eventView e) := by
  unfold showEvent at shown
  obtain ⟨text', named', shown⟩ := bind_eq_ok.mp shown
  rw [named] at named'
  cases named'
  obtain ⟨n, parsed, shown⟩ := bind_eq_ok.mp shown
  rw [read] at parsed
  cases parsed
  obtain ⟨o, placed, shown⟩ := bind_eq_ok.mp shown
  rw [offset_ofNat] at placed
  cases placed
  obtain ⟨e, got, shown⟩ := bind_eq_ok.mp shown
  cases shown
  exact ⟨e, mapError_eq_ok.mp got, rfl⟩

/-- The events of a range, to its last one or to the end. -/
theorem showEvents_ok {query : List Char} {ps : Params} {first : Int}
    (asked : queryOf [("from", .signed), ("to", .signed)] query = .ok ps)
    (from_first : ps.signed? "from" = some first) (shown : s.showEvents query = .ok reply) :
    ∃ start es, offset first = .ok start ∧ reply = .ofJson 200 (eventsView es) ∧
      ((ps.signed? "to" = none ∧ s.log.replayFrom start = .ok es) ∨
        ∃ last stop, ps.signed? "to" = some last ∧ offset last = .ok stop ∧
          s.log.replay start stop = .ok es) := by
  unfold showEvents at shown
  obtain ⟨ps', asked', shown⟩ := bind_eq_ok.mp shown
  rw [asked] at asked'
  cases asked'
  obtain ⟨n, required, shown⟩ := bind_eq_ok.mp shown
  rw [Params.signed, from_first] at required
  cases required
  obtain ⟨start, placed, shown⟩ := bind_eq_ok.mp shown
  cases given : ps.signed? "to" with
  | none =>
      rw [given] at shown
      obtain ⟨es, replayed, shown⟩ := bind_eq_ok.mp shown
      cases shown
      exact ⟨start, es, placed, rfl, .inl ⟨rfl, mapError_eq_ok.mp replayed⟩⟩
  | some last =>
      rw [given] at shown
      obtain ⟨stop, behind, shown⟩ := bind_eq_ok.mp shown
      obtain ⟨es, replayed, shown⟩ := bind_eq_ok.mp shown
      cases shown
      exact ⟨start, es, placed, rfl, .inr ⟨last, stop, rfl, behind, mapError_eq_ok.mp replayed⟩⟩

/-- What a reading request covers is shown as it is in the log. -/
theorem shows_of_covers {later : Server} {after : Disk}
    (numbered : EventStore.Numbered s.log.events.events)
    (few : s.log.events.events.length < UInt64.size) (there : s.log.events.events[i]? = some e)
    (answered : s.respond disk ambient req = (.answered reply, later, after))
    (covers : s.Covers i req reply) : reply.Shows i (eventView e) := by
  have inside := (List.getElem?_eq_some_iff.mp there).1
  have small := Nat.lt_trans inside few
  have next_eq : s.log.nextOffset.toNat = s.log.events.events.length :=
    UInt64.toNat_ofNat_of_lt' few
  obtain ⟨gets, status, covers⟩ := covers
  rw [respond_eq] at answered
  unfold handle at answered
  cases found : Route.ofPath? (splitTarget req.target).1 with
  | none =>
      rw [found] at covers
      exact covers.elim
  | some route =>
      rw [found] at covers
      cases route with
      | event raw =>
          obtain ⟨text, named, read⟩ := covers
          have does : (Route.event raw).action? req.method = some .show := by
            rw [gets]
            rfl
          simp only [found, does] at answered
          obtain rfl := Outcome.answered.inj (Prod.mk.inj answered).1
          obtain ⟨shown, ok, views⟩ := settle_eq status
          obtain ⟨d, got, rfl⟩ := showEvent_ok named read ok
          have same := Log.getElem?_of_get got
          rw [UInt64.toNat_ofNat_of_lt' small, there] at same
          cases same
          unfold Reply.Shows
          rw [views, views_eventView]
          exact ⟨List.mem_singleton_self _, fun other mem _ => List.mem_singleton.mp mem⟩
      | events =>
          obtain ⟨ps, first, asked, from_first, first_le, to_last⟩ := covers
          have does : Route.events.action? req.method = some .show := by
            rw [gets]
            rfl
          have params := mapError_eq_ok.mp asked
          simp only [found, does] at answered
          obtain rfl := Outcome.answered.inj (Prod.mk.inj answered).1
          obtain ⟨shown, ok, views⟩ := settle_eq status
          obtain ⟨start, es, placed, rfl, parts⟩ := showEvents_ok asked from_first ok
          have start_eq := toNat_of_offset placed (signed?_lt params from_first)
          rw [views_eventsView] at views
          rcases parts with ⟨-, replayed⟩ | ⟨last, stop, to_eq, behind, replayed⟩
          · rw [Log.between_of_replayFrom replayed] at views
            exact shows_of_between numbered there (by omega) (next_eq ▸ inside) views
          · have stop_eq := toNat_of_offset behind (signed?_lt params to_eq)
            have below := to_last last to_eq
            obtain ⟨next, past, rfl⟩ := Log.between_of_replay replayed
            exact shows_of_between numbered there (by omega) (by omega) views
      | subscription raw =>
          obtain ⟨id, cursor, v, stop, known, opened, content, position, behind, before⟩ := covers
          have does : (Route.subscription raw).action? req.method = some .show := by
            rw [gets]
            rfl
          simp only [found, does] at answered
          rcases read_cases s raw (splitTarget req.target).2 (req.method = "HEAD") with
            ⟨refusal, refused, -⟩ | ⟨id', cursor', stop', cursors, known', opened', gave, -⟩
          · rw [refused] at answered
            cases answered
            obtain ⟨shown, ok, -⟩ := settle_eq status
            cases ok
          · rw [known] at known'
            cases known'
            rw [opened] at opened'
            cases opened'
            rw [gave] at answered
            cases answered
            cases content
            rw [member?_batchView] at position
            cases position
            exact shows_of_between numbered there behind before (views_batchView _)
      | _ => exact covers.elim

end Server
end Http
end ChangeLog
