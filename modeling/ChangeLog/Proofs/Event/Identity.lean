/-
  What the identifier of an event says about it. The bytes that are digested tell type, source, time
  and offset apart (`Description.bytes_inj`): time and offset take the last 20 of them, and the two
  texts stand after their lengths. So an identifier belongs to one description only, unless the
  digest itself gives two different inputs one value (`Blake3.Collide`), and no two events of a log
  share one, since no two have the same offset (`identifiers_bind`).
-/
import ChangeLog.Proofs.Codec
import ChangeLog.Proofs.Log.Growth

namespace ChangeLog

/-- Two different inputs with one digest. -/
def Blake3.Collide (a b : Bytes) : Prop := a ≠ b ∧ digest a = digest b

/-! ## Words -/

theorem Bytes.mod_eq_of_littleEndian {count m n : Nat}
    (h : littleEndian count m = littleEndian count n) : m % capacity count = n % capacity count := by
  rw [← fromLittleEndian_littleEndian, ← fromLittleEndian_littleEndian, h]

theorem EventId.eq_of_signedWord {m n : Int} (h : signedWord m = signedWord n)
    (low : -9223372036854775808 ≤ m) (high : m < 9223372036854775808)
    (low' : -9223372036854775808 ≤ n) (high' : n < 9223372036854775808) : m = n := by
  have digits := Bytes.mod_eq_of_littleEndian h
  rw [Bytes.capacity_eight] at digits
  omega

namespace Event

/-! ## Descriptions -/

/-- What an identifier is derived from. -/
structure Description where
  type : String
  source : String
  time : Time.Instant
  offset : UInt64
deriving DecidableEq

/-- What the identifier of an event should be derived from. -/
def description (e : Event) : Description := ⟨e.type, e.source, e.time, e.offset⟩

namespace Description

/-- The bytes that are digested. -/
def bytes (d : Description) : Bytes := EventId.preimage d.type d.source d.time d.offset

/-- The bytes of time and offset, which are the last ones. -/
def place (d : Description) : Bytes :=
  EventId.signedWord d.time.seconds ++
    (Bytes.littleEndian 4 d.time.nanos ++ Wire.write d.offset)

/-- The lengths of the texts are numbers of 64 bits. -/
structure Sized (d : Description) : Prop where
  type_lt : (Text.encode d.type).length < UInt64.size
  source_lt : (Text.encode d.source).length < UInt64.size

variable {d d' : Description}

theorem bytes_eq (d : Description) :
    d.bytes = EventId.domainTag ++ (Wire.write d.type ++ (Wire.write d.source ++ d.place)) := rfl

theorem length_place (d : Description) : d.place.length = 20 := by
  rw [place, EventId.signedWord, List.length_append, List.length_append,
    Bytes.length_littleEndian, Bytes.length_littleEndian, Wire.length_write_word64]

/-- Time and offset are in words wide enough for them. -/
theorem eq_of_place (h : d.place = d'.place) : d.time = d'.time ∧ d.offset = d'.offset := by
  obtain ⟨seconds, rest⟩ := List.append_inj h (by
    rw [EventId.signedWord, EventId.signedWord, Bytes.length_littleEndian,
      Bytes.length_littleEndian])
  obtain ⟨nanos, offset⟩ := List.append_inj rest (by
    rw [Bytes.length_littleEndian, Bytes.length_littleEndian])
  obtain ⟨low, high, short, -⟩ := d.time.inRange
  obtain ⟨low', high', short', -⟩ := d'.time.inRange
  have seconds := EventId.eq_of_signedWord seconds (by omega) (by omega) (by omega) (by omega)
  have nanos := Bytes.mod_eq_of_littleEndian nanos
  have offset := Bytes.mod_eq_of_littleEndian offset
  rw [Bytes.capacity_four, Nat.mod_eq_of_lt (by omega), Nat.mod_eq_of_lt (by omega)] at nanos
  rw [Bytes.capacity_eight, Nat.mod_eq_of_lt d.offset.toNat_lt,
    Nat.mod_eq_of_lt d'.offset.toNat_lt] at offset
  refine ⟨?_, UInt64.toNat_inj.mp offset⟩
  cases time : d.time
  cases time' : d'.time
  rw [time, time'] at seconds nanos
  congr

/-- The texts in front of the place, taken together, are those of equal bytes. -/
theorem append_inj (h : d.bytes = d'.bytes) :
    Wire.write d.type ++ Wire.write d.source = Wire.write d'.type ++ Wire.write d'.source ∧
      d.place = d'.place := by
  rw [bytes_eq, bytes_eq] at h
  have behind := List.append_cancel_left h
  rw [← List.append_assoc, ← List.append_assoc] at behind
  exact List.append_inj' behind (by rw [length_place, length_place])

/-- Whatever the texts are, equal bytes have the same time and offset. -/
theorem place_of_bytes (h : d.bytes = d'.bytes) : d.time = d'.time ∧ d.offset = d'.offset :=
  eq_of_place (append_inj h).2

/-- A length that was cut to 64 bits would leave fewer bytes for the other text than none. -/
theorem Sized.of_bytes (sized : d.Sized) (h : d.bytes = d'.bytes) : d'.Sized := by
  have texts := (append_inj h).1
  have total := congrArg List.length texts
  rw [List.length_append, List.length_append, Wire.length_write_text, Wire.length_write_text,
    Wire.length_write_text, Wire.length_write_text] at total
  have front : Bytes.littleEndian 8 (Text.encode d.type).length =
      Bytes.littleEndian 8 (Text.encode d'.type).length := by
    change (Bytes.littleEndian 8 (Text.encode d.type).length ++ _) ++ _ =
      (Bytes.littleEndian 8 (Text.encode d'.type).length ++ _) ++ _ at texts
    rw [List.append_assoc, List.append_assoc] at texts
    exact (List.append_inj texts (by
      rw [Bytes.length_littleEndian, Bytes.length_littleEndian])).1
  have front := Bytes.mod_eq_of_littleEndian front
  obtain ⟨type_lt, source_lt⟩ := sized
  rw [Bytes.capacity_eight] at front
  change _ < 18446744073709551616 at type_lt source_lt
  have same : (Text.encode d'.type).length = (Text.encode d.type).length := by omega
  exact ⟨by rw [same]; exact type_lt, by change _ < 18446744073709551616; omega⟩

/-- The bytes that are digested tell descriptions apart. The readers find the two texts again. -/
theorem bytes_inj (sized : d.Sized) : d.bytes = d'.bytes ↔ d = d' := by
  constructor
  · intro same
    have sized' := sized.of_bytes same
    have texts := (append_inj same).1
    obtain ⟨time, offset⟩ := place_of_bytes same
    have read := Wire.read_write_text sized.type_lt (Wire.write d.source)
    rw [texts, Wire.read_write_text sized'.type_lt] at read
    obtain ⟨type, sources⟩ := Prod.mk.inj (Option.some.inj read)
    have read := Wire.read_write_text sized.source_lt []
    rw [← sources, Wire.read_write_text sized'.source_lt] at read
    obtain ⟨source, -⟩ := Prod.mk.inj (Option.some.inj read)
    cases d
    cases d'
    congr
    · exact type.symm
    · exact source.symm
  · rintro rfl
    rfl

end Description

/-! ## Identifiers -/

variable {e other : Event}

theorem verifies_iff : e.verifies = true ↔ Blake3.digest e.description.bytes = e.id.bytes := by
  rw [verifies, decide_eq_true_iff, EventId.mk.injEq]
  rfl

theorem verifies_iff_of_id (verified : e.verifies = true) (sized : e.description.Sized)
    (same : other.id = e.id) :
    other.verifies = true ↔ other.description = e.description ∨
      Blake3.Collide other.description.bytes e.description.bytes := by
  rw [verifies_iff, same, ← verifies_iff.mp verified]
  constructor
  · intro digests
    by_cases bytes : e.description.bytes = other.description.bytes
    · exact .inl ((Description.bytes_inj sized).mp bytes).symm
    · exact .inr ⟨fun back => bytes back.symm, digests⟩
  · rintro (described | ⟨-, digests⟩)
    · rw [described]
    · exact digests

/-- At two offsets there are two identifiers. -/
theorem id_ne_of_offset_ne (verified : e.verifies = true) (verified' : other.verifies = true)
    (apart : e.offset ≠ other.offset) :
    e.id ≠ other.id ∨ Blake3.Collide e.description.bytes other.description.bytes := by
  by_cases ids : e.id = other.id
  · refine .inr ⟨fun bytes => apart (Description.place_of_bytes bytes).2, ?_⟩
    rw [verifies_iff.mp verified, verifies_iff.mp verified', ids]
  · exact .inl ids

/-- Two places among numbered events have two offsets. -/
theorem offset_ne_of_numbered {events : List Event} (numbered : EventStore.Numbered events)
    (counted : events.length < UInt64.size) {i j : Nat} (apart : i ≠ j)
    (first : events[i]? = some e) (second : events[j]? = some other) :
    e.offset ≠ other.offset := by
  have inside := (List.getElem?_eq_some_iff.mp first).1
  have inside' := (List.getElem?_eq_some_iff.mp second).1
  rw [numbered i e first, numbered j other second]
  intro same
  have same := congrArg UInt64.toNat same
  rw [UInt64.toNat_ofNat_of_lt' (by omega), UInt64.toNat_ofNat_of_lt' (by omega)] at same
  exact apart same

/-- What is behind the events of before was stamped. -/
theorem verifies_of_extends {events later : List Event} (grows : Log.Extends events later) {i : Nat}
    (behind : events.length ≤ i) (there : later[i]? = some e) : e.verifies = true := by
  obtain ⟨more, rfl, verified⟩ := grows
  rw [List.getElem?_append_right behind] at there
  exact verified e (List.mem_of_getElem? there)

/-- Identifiers stand for type, source, time and offset. The bytes that are digested are the same
just for the same four; a stamped event of which any of them is changed no longer verifies, and one
of which none is changed does; and over any run of calls and restarts, from wherever the log comes,
all events that are added verify, and no two that verify have one identifier. In each case this is
so unless the digests of the two inputs at hand collide. (Lengths of texts must fit in their 64
bits, and there must be no more events than offsets.) -/
theorem identifiers_bind :
    (∀ d d' : Description, d.Sized → (d.bytes = d'.bytes ↔ d = d')) ∧
    (∀ draft offset time, (stamp draft offset time).description.Sized →
      ∀ altered : Event, altered.id = (stamp draft offset time).id →
        (altered.verifies = true ↔
          altered.description = ⟨draft.type, draft.source, time, offset⟩ ∨
            Blake3.Collide altered.description.bytes
              (EventId.preimage draft.type draft.source time offset))) ∧
    ∀ reopen log disk, Log.Begins reopen log disk → ∀ turns,
      ∃ replies final later, Log.takeAll reopen log disk turns = (replies, final, later) ∧
        (∀ result, .restarted result ∈ replies → result = .ok ()) ∧
        log.events.events <+: final.events.events ∧
        (∀ (i : Nat) (e : Event), log.events.events.length ≤ i →
          final.events.events[i]? = some e → e.verifies = true) ∧
        (final.events.events.length < UInt64.size →
          ∀ (i j : Nat) (e other : Event), i ≠ j → final.events.events[i]? = some e →
            final.events.events[j]? = some other → e.verifies = true → other.verifies = true →
            e.id ≠ other.id ∨
              Blake3.Collide e.description.bytes other.description.bytes) := by
  refine ⟨fun d d' => Description.bytes_inj, ?_, ?_⟩
  · intro draft offset time sized altered same
    exact verifies_iff_of_id (verifies_stamp draft offset time) sized same
  · intro reopen log disk begins turns
    obtain ⟨standing, grows, reopened⟩ := begins.standing.takeAll turns
    refine ⟨_, _, _, rfl, reopened, grows.isPrefix, ?_, ?_⟩
    · exact fun i e behind there => verifies_of_extends grows behind there
    · intro counted i j e other apart first second verified verified'
      exact id_ne_of_offset_ne verified verified'
        (offset_ne_of_numbered standing.numbered counted apart first second)

/-- An event in a leap second, at the last offset of all. -/
def stampedInLeapSecond : Event :=
  stamp { type := "ab", source := "c", before := [1] } 18446744073709551615
    ⟨1483228799, 1999999999, by decide⟩

/-- The letter between the texts moved from one to the other. -/
def shifted : Event :=
  { stampedInLeapSecond with type := "a", source := "bc" }

/-- The image before the change replaced. -/
def reimaged : Event :=
  { stampedInLeapSecond with before := [2, 3] }

/-- The same event submitted twice in one second. -/
def resubmittedTurns : List Log.Turn :=
  [.call (.append ⟨16, 0, by decide⟩ { type := "put" }),
    .call (.append ⟨16, 0, by decide⟩ { type := "put" }), .restart]

/-- A letter that moves from source to type changes the bytes, and the event with it no longer
verifies; one with another image does. Of the same event twice in a log, at the same time, the two
identifiers differ. None of these digests collide. -/
theorem shifted_and_resubmitted_told_apart :
    shifted.description.bytes ≠ stampedInLeapSecond.description.bytes ∧
    shifted.verifies = false ∧ reimaged.verifies = true ∧
    ∃ replies final later e other,
      Log.takeAll Log.fromMemory (Log.inMemory 2) {} resubmittedTurns = (replies, final, later) ∧
      final.events.events = [e, other] ∧ e.time = other.time ∧ e.id ≠ other.id := by
  obtain ⟨bind, altered, distinct⟩ := identifiers_bind
  have sized : stampedInLeapSecond.description.Sized := ⟨by decide, by decide⟩
  have verifies_iff := altered _ _ _ sized
  have assembled : Log.assemble {} {} {} 2 = (.ok (Log.inMemory 2), {}) := rfl
  obtain ⟨replies, final, later, ran, -, -, verified, apart⟩ :=
    distinct _ _ _ (.assembled (EventStore.numbered_iff.mpr rfl) assembled) resubmittedTurns
  refine ⟨?_, ?_, ?_, replies, final, later, ?_⟩
  · intro same
    exact absurd ((bind _ _ sized).mp same.symm) (by decide)
  · rw [← Bool.not_eq_true, verifies_iff shifted rfl]
    rintro (same | ⟨-, digests⟩)
    · exact absurd same (by decide)
    · exact absurd digests (by decide +kernel)
  · exact (verifies_iff reimaged rfl).mpr (.inl rfl)
  · have final_eq : final = (Log.takeAll Log.fromMemory (Log.inMemory 2) {} resubmittedTurns).2.1 :=
      (congrArg (fun state => state.2.1) ran).symm
    obtain ⟨e, other, events, times, digests⟩ : ∃ e other, final.events.events = [e, other] ∧
        e.time = other.time ∧
        Blake3.digest e.description.bytes ≠ Blake3.digest other.description.bytes := by
      rw [final_eq]
      exact ⟨_, _, rfl, rfl, by decide +kernel⟩
    have counted : final.events.events.length < UInt64.size := by
      rw [events]
      exact (by decide : 2 < UInt64.size)
    have first : final.events.events[0]? = some e := by rw [events]; rfl
    have second : final.events.events[1]? = some other := by rw [events]; rfl
    have verified := fun i e => verified i e (Nat.zero_le i)
    refine ⟨e, other, ran, events, times, ?_⟩
    rcases apart counted 0 1 e other (by decide) first second (verified _ _ first)
        (verified _ _ second) with ids | ⟨-, same⟩
    · exact ids
    · exact absurd same digests

end Event
end ChangeLog
