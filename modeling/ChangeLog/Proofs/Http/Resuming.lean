/-
  Where consumers go on. The log says it, the view of one consumer shows it, and so does the list of
  all; each computes it anew from what was acknowledged, and they agree (`resumes`). A consumer that
  the list leaves out goes on at the start. With that, no offset that the log or a view computes
  from offsets of 64 bits wraps around (`offsets_computed_exactly`).
-/
import ChangeLog.Proofs.Exact
import ChangeLog.Proofs.Http.Showing
import ChangeLog.Store.Unreliable

namespace ChangeLog.Http

open Json (Value)

/-! ## Views of progress -/

/-- What a view of progress says of a consumer: its name, and where it goes on. -/
def Names (view : Value) (consumer : Consumer) : Prop :=
  member? "consumer" view = some (.text consumer.name)

theorem names_progressView {c k : Consumer} (shown : Option UInt64) :
    Names (progressView c shown) k ↔ c = k := by
  have first : member? "consumer" (progressView c shown) = some (.text c.name) := rfl
  rw [Names, first, Option.some.injEq, Value.text.injEq]
  exact ⟨Roster.eq_of_name_eq, congrArg Consumer.name⟩

theorem resume_progressView (c : Consumer) (shown : Option UInt64) :
    member? "resume_offset" (progressView c shown) = some (Json.word (resumeAfter shown)) := by
  rw [progressView, member?, Roster.lookup_cons_ite, if_neg (by decide), Roster.lookup_cons_ite,
    if_neg (by decide), Roster.lookup_cons_ite, if_pos rfl]

/-- What the views compute is what the log computes. -/
theorem resumeAfter_progress (acks : Acks) (c : Consumer) :
    resumeAfter (acks.progress c) = acks.resumeOffset c := by
  rw [Acks.resumeOffset]
  cases acks.progress c <;> rfl

theorem resumeOffset_eq_zero_iff {acks : Acks} {c : Consumer} :
    acks.resumeOffset c = 0 ↔ acks.progress c = none := by
  rw [Acks.resumeOffset_eq, Acks.progress_eq, Acks.acknowledged_eq_none_iff]

/-! ## Agreement -/

/-- A consumer goes on at one offset, wherever one looks. -/
structure Server.Resumes (s : Server) (c : Consumer) (offset : UInt64) : Prop where
  log : s.log.resumeOffset c = .ok offset
  shown : ∃ view, s.showProgress c = .ok (.ofJson 200 view) ∧ Names view c ∧
    member? "resume_offset" view = some (Json.word offset)
  listed : ∃ views, s.showConsumers = .ok (.ofJson 200 (.object [("consumers", .array views)])) ∧
    (∀ view ∈ views, Names view c → member? "resume_offset" view = some (Json.word offset)) ∧
    ((∃ view ∈ views, Names view c) ↔ offset ≠ 0)

namespace Server

variable {s : Server}

theorem resumes (isOpen : s.log.isClosed = false) (c : Consumer) :
    s.Resumes c (s.log.acks.resumeOffset c) := by
  have isOpen : s.log.events.isClosed = false := isOpen
  refine ⟨?_, ⟨progressView c (s.log.acks.progress c), ?_, (names_progressView _).mpr rfl, ?_⟩,
    ⟨s.log.acks.all.map fun e => progressView e.1 (some e.2), ?_, ?_, ?_⟩⟩
  · rw [Log.resumeOffset, Log.whenOpen, isOpen]
    rfl
  · rw [showProgress, Log.progressOf, Log.whenOpen, isOpen]
    rfl
  · rw [resume_progressView, resumeAfter_progress]
  · rw [showConsumers, Log.consumers, Log.whenOpen, isOpen]
    rfl
  · intro view there names
    obtain ⟨⟨k, offset⟩, entry, rfl⟩ := List.mem_map.mp there
    have same := (names_progressView _).mp names
    subst same
    have found := Roster.lookup_eq_some_of_mem s.log.acks.sorted_all entry
    rw [Acks.lookup_all] at found
    rw [resume_progressView, ← resumeAfter_progress, found]
  · rw [ne_eq, resumeOffset_eq_zero_iff, ← Acks.lookup_all]
    constructor
    · rintro ⟨view, there, names⟩ absent
      obtain ⟨⟨k, offset⟩, entry, rfl⟩ := List.mem_map.mp there
      have same := (names_progressView _).mp names
      subst same
      rw [Roster.lookup_eq_some_of_mem s.log.acks.sorted_all entry] at absent
      cases absent
    · intro present
      obtain ⟨offset, found⟩ := Option.ne_none_iff_exists'.mp present
      obtain ⟨front, behind, split, -⟩ := List.lookup_eq_some_iff.mp found
      have entry : (c, offset) ∈ s.log.acks.all := by
        rw [split]
        exact List.mem_append_right _ List.mem_cons_self
      exact ⟨_, List.mem_map_of_mem entry, (names_progressView _).mpr rfl⟩

/-! ## Numbers -/

/-- What the views compute, computed in numbers, is what they show. -/
structure ViewsCount (w : Exact.Width) (acks : Acks) : Prop where
  one : ∀ c, Exact.resumeAfter w ((acks.progress c).map UInt64.toNat) =
    some (resumeAfter (acks.progress c)).toNat
  listed : ∀ c offset, (c, offset) ∈ acks.all →
    Exact.resumeAfter w (some offset.toNat) = some (resumeAfter (some offset)).toNat

theorem viewsCount (w : Exact.Width) (acks : Acks) : ViewsCount w acks := by
  have one : ∀ c, Exact.resumeAfter w ((acks.progress c).map UInt64.toNat) =
      some (resumeAfter (acks.progress c)).toNat := by
    intro c
    rw [Exact.resumeAfter_eq, resumeAfter_progress]
  refine ⟨one, ?_⟩
  intro c offset entry
  have found := Roster.lookup_eq_some_of_mem acks.sorted_all entry
  rw [Acks.lookup_all] at found
  have counted := one c
  rwa [found] at counted

/-- Every offset that the log computes is the number that it stands for. Over natural numbers, with
room for 64 bits or without any bound, each sum, difference and part of a list that is computed for
a read, a replay, an acknowledgement, a recovery or a view is there, and each comes to the same: for
all events that offsets can count, for whatever cursors, slots and recorded progress, and for all
arguments of 64 bits. And while the log is open, the three places that say where a consumer goes on
say the same. -/
theorem offsets_computed_exactly :
    (∀ w, (∀ store, store.events.length < UInt64.size → Exact.Reads w store) ∧ Exact.Keeps w ∧
      ∀ acks, ViewsCount w acks) ∧
    ∀ (s : Server) (c : Consumer), s.log.isClosed = false →
      s.Resumes c (s.log.acks.resumeOffset c) := by
  refine ⟨fun w => ⟨?_, Exact.keeps w, viewsCount w⟩, fun s c isOpen => resumes isOpen c⟩
  exact fun store counted => Exact.reads_of_counted w counted

/-- Progress at the last offset of all, which the log has never had. -/
def recordedPast : UnreliableProgress :=
  { progress := Roster.empty.insert ⟨"far", rfl⟩ 18446744073709551615 }

/-- A cursor at the last offset of all. -/
def cursorAtLast : Cursors := ⟨[(⟨1⟩, ⟨none, 0, 18446744073709551615⟩)]⟩

/-- At the last offset of all, with any numbers and with words: recorded progress is taken over into
a log that ends there, its consumer goes on there, a cursor there reads nothing, and a replay up to
there is refused. -/
theorem computed_at_last_offset :
    ∃ acks sink, Acks.recover recordedPast 18446744073709551615 = (.ok acks, sink) ∧
      Exact.recover .unbounded recordedPast 18446744073709551615 =
        some (.ok (Exact.slotsOf acks), sink) ∧
      Exact.resumeOffset .unbounded (Exact.slotsOf acks) ⟨"far", rfl⟩ = some 18446744073709551615 ∧
      Exact.resumeOffset .word (Exact.slotsOf acks) ⟨"far", rfl⟩ = some 18446744073709551615 ∧
      (Server.mk { acks, maxBatch := 1 } 0).Resumes ⟨"far", rfl⟩ 18446744073709551615 ∧
      Exact.read .unbounded (Exact.cursors cursorAtLast) {} ⟨1⟩ 18446744073709551615 =
        some (.ok ⟨[], 18446744073709551615⟩, Exact.cursors cursorAtLast) ∧
      Exact.replay .word {} 0 18446744073709551615 =
        some (.error (.outOfRange 18446744073709551615 0)) := by
  obtain ⟨counts, resumes⟩ := offsets_computed_exactly
  obtain ⟨reads, keeps, -⟩ := counts .unbounded
  obtain ⟨reads', keeps', -⟩ := counts .word
  have few : ({} : EventStore).events.length < UInt64.size := by decide
  obtain ⟨acks, sink, recovered, resumed⟩ : ∃ acks sink,
      Acks.recover recordedPast 18446744073709551615 = (.ok acks, sink) ∧
        acks.resumeOffset ⟨"far", rfl⟩ = 18446744073709551615 := ⟨_, _, rfl, rfl⟩
  have taken := keeps.recover _ recordedPast 18446744073709551615
  rw [recovered] at taken
  have resume := keeps.resumeOffset acks ⟨"far", rfl⟩
  have resume' := keeps'.resumeOffset acks ⟨"far", rfl⟩
  have agreed := resumes (Server.mk { acks, maxBatch := 1 } 0) ⟨"far", rfl⟩ rfl
  rw [resumed] at resume resume' agreed
  exact ⟨acks, sink, recovered, taken, resume, resume', agreed,
    (reads {} few).read cursorAtLast ⟨1⟩ 18446744073709551615,
    (reads' {} few).replay 0 18446744073709551615⟩

end Server
end ChangeLog.Http
