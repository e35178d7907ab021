/-
  Binary forms that are read back: a value written to fewer than 2^64 bytes comes back from them
  whatever follows, and takes at least one byte. Events and changes of progress have such a form;
  of an event's time this is the round trip of its text. An event that was read from any bytes, its
  time in any form that a reader takes, is read back from what is then written for it
  (`Event.record_round_trip`).
-/
import ChangeLog.Proofs.Time.Rfc3339
import ChangeLog.Event
import ChangeLog.Store.Progress

namespace ChangeLog

/-- Values that are read back as they were written. -/
class Wire.Lawful (α : Type) [Wire α] : Prop where
  read_write : ∀ (a : α) (rest : Bytes), (Wire.write a).length < UInt64.size →
    Wire.read (Wire.write a ++ rest) = some (a, rest)
  write_ne_nil : ∀ a : α, Wire.write a ≠ []

namespace Wire

variable {α : Type} [Wire α]

theorem length_writeBlob (bytes : Bytes) : (writeBlob bytes).length = 8 + bytes.length := by
  simp [writeBlob]

theorem length_write_text (s : String) : (write s).length = 8 + (Text.encode s).length :=
  length_writeBlob _

theorem length_write_bytes (bytes : Bytes) : (write bytes).length = 8 + bytes.length :=
  length_writeBlob bytes

theorem length_write_word64 (n : UInt64) : (write n).length = 8 :=
  Bytes.length_littleEndian 8 n.toNat

theorem length_write_word32 (n : UInt32) : (write n).length = 4 :=
  Bytes.length_littleEndian 4 n.toNat

theorem length_write_eventId (id : EventId) : (write id).length = 32 := id.length_eq

theorem ofPayload_write [Lawful α] {a : α} (h : (write a).length < UInt64.size) :
    ofPayload (write a) = some a := by
  have back := Lawful.read_write a [] h
  rw [List.append_nil] at back
  rw [ofPayload, back]
  rfl

/-! ## Instances -/

instance : Lawful UInt64 where
  read_write n rest _ := read_write_word64 n rest
  write_ne_nil n h := by
    have := length_write_word64 n
    rw [h] at this
    cases this

theorem read_write_consumer (c : Consumer) (rest : Bytes)
    (h : (write c).length < UInt64.size) : read (write c ++ rest) = some (c, rest) := by
  have short : (Text.encode c.name).length < UInt64.size := by
    have := length_write_text c.name
    change (write c.name).length < _ at h
    omega
  have text := read_write_text short rest
  change (read (α := String) (write c.name ++ rest)).bind _ = _
  rw [text, Option.bind_some]
  simp only [Consumer.ofText_name]

theorem read_write_option [Lawful α] (o : Option α) (rest : Bytes)
    (h : (write o).length < UInt64.size) : read (write o ++ rest) = some (o, rest) := by
  cases o with
  | none => rfl
  | some a =>
      have short : (write a).length < UInt64.size := by
        change (1 :: write a).length < _ at h
        rw [List.length_cons] at h
        omega
      change (read (write a ++ rest)).map _ = _
      rw [Lawful.read_write a rest short]
      rfl

/-- The text of a time is always short enough. -/
theorem read_write_instant (t : Time.Instant) (rest : Bytes) :
    read (write t ++ rest) = some (t, rest) := by
  have short : (Text.encode (Time.Rfc3339.stored t)).length < UInt64.size := by
    have characters := Time.Rfc3339.length_civilText_le t
    have bytes := Text.length_encode_ofList_le (Time.Rfc3339.civilText t ++ "Z".toList)
    have room : 400 < UInt64.size := by decide
    rw [show "Z".toList = ['Z'] from rfl, List.length_append, List.length_singleton] at bytes
    unfold Time.Rfc3339.stored Time.Rfc3339.render
    rw [show "Z".toList = ['Z'] from rfl]
    omega
  have text := read_write_text short rest
  change (read (α := String) (write (Time.Rfc3339.stored t) ++ rest)).bind _ = _
  rw [text, Option.bind_some]
  simp [Time.Rfc3339.parse_stored]

end Wire

/-! ## Events -/

theorem Event.length_write (e : Event) :
    (Wire.write e).length = 72 + (Text.encode e.type).length + e.before.length + e.after.length +
      (Text.encode e.source).length + (Wire.write e.time).length := by
  change (Wire.write e.offset ++ _).length = _
  simp only [List.length_append, Wire.length_write_word64, Wire.length_write_eventId,
    Wire.length_write_text, Wire.length_write_bytes]
  omega

/-- The length of each field is a number of 64 bits. -/
structure Event.Sized (e : Event) : Prop where
  type_lt : (Text.encode e.type).length < UInt64.size
  before_lt : e.before.length < UInt64.size
  after_lt : e.after.length < UInt64.size
  source_lt : (Text.encode e.source).length < UInt64.size

theorem Event.sized_of_length (e : Event) (h : (Wire.write e).length < UInt64.size) :
    e.Sized := by
  rw [Event.length_write] at h
  exact ⟨by omega, by omega, by omega, by omega⟩

/-- What was read as an event has fields of such lengths. -/
theorem Event.sized_of_read {bytes rest : Bytes} {e : Event}
    (h : Wire.read bytes = some (e, rest)) : e.Sized := by
  unfold instWireEvent at h
  simp only [Option.bind_eq_bind, Option.bind_eq_some_iff, Option.pure_def, Option.some.injEq,
    Prod.exists, Prod.mk.injEq] at h
  obtain ⟨offset, _, -, id, _, -, type, _, readType, before, _, readBefore, after, _, readAfter,
    source, _, readSource, time, _, -, rfl, rfl⟩ := h
  exact ⟨Wire.length_of_read_text readType, Wire.length_of_readBlob readBefore,
    Wire.length_of_readBlob readAfter, Wire.length_of_read_text readSource⟩

theorem Event.Sized.read_write {e : Event} (h : e.Sized) (rest : Bytes) :
    Wire.read (Wire.write e ++ rest) = some (e, rest) := by
  unfold instWireEvent
  dsimp only
  simp only [List.append_assoc, Wire.read_write_word64, EventId.read_write,
    Wire.read_write_text h.type_lt, Wire.read_write_bytes h.before_lt,
    Wire.read_write_bytes h.after_lt, Wire.read_write_text h.source_lt,
    Wire.read_write_instant, Option.bind_eq_bind, Option.bind_some]
  rfl

theorem Event.Sized.ofPayload {e : Event} (h : e.Sized) (rest : Bytes) :
    Wire.ofPayload (Wire.write e ++ rest) = some e := by
  rw [Wire.ofPayload, h.read_write]
  rfl

theorem Event.sized_of_ofPayload {bytes : Bytes} {e : Event}
    (h : Wire.ofPayload bytes = some e) : e.Sized := by
  obtain ⟨⟨found, rest⟩, read, same⟩ := Option.map_eq_some_iff.mp h
  cases same
  exact Event.sized_of_read read

instance : Wire.Lawful Event where
  read_write e rest h := (e.sized_of_length h).read_write rest
  write_ne_nil e h := by
    have := e.length_write
    rw [h, List.length_nil] at this
    omega

/-- An event comes back from its record, whatever follows it, and with it whether its identifier is
the one that its fields give. What was read as an event, from any bytes, comes back from the record
that is then written for it; that record may differ from the bytes, which may give the time in
another form. -/
theorem Event.record_round_trip :
    (∀ e : Event, e.Sized → ∀ rest, Wire.ofPayload (Wire.write e ++ rest) = some e ∧
      (Wire.ofPayload (Wire.write e ++ rest)).map Event.verifies = some e.verifies) ∧
    ∀ (bytes : Bytes) (e : Event), Wire.ofPayload bytes = some e →
      ∀ rest, Wire.ofPayload (Wire.write e ++ rest) = some e := by
  constructor
  · intro e sized rest
    have back := sized.ofPayload rest
    exact ⟨back, by rw [back, Option.map_some]⟩
  · intro bytes e found rest
    exact (Event.sized_of_ofPayload found).ofPayload rest

/-- An event in the last leap second that there is. -/
def Event.last : Event :=
  Event.stamp { type := "µ" } 18446744073709551615 ⟨8210266876799, 1999999999, by decide⟩

/-- A record whose time is a leap second with blanks, a short fraction and an offset. -/
def Event.lenientRecord : Bytes :=
  Wire.write (0 : UInt64) ++ (List.replicate 32 0 ++ (Wire.write "put" ++
    (Wire.write ([] : Bytes) ++ (Wire.write ([] : Bytes) ++ (Wire.write "" ++
      Wire.write " 2016 -12-31 23:59:60.5 +01 : 00 ")))))

/-- The last event comes back with a byte behind its record, and the event of the lenient record
comes back from its own. -/
theorem Event.extreme_records_round_trip :
    Wire.ofPayload (Wire.write Event.last ++ [255]) = some Event.last ∧
    ∃ e : Event, Wire.ofPayload Event.lenientRecord = some e ∧
      e.time = ⟨1483225199, 1500000000, by decide⟩ ∧ Wire.ofPayload (Wire.write e) = some e := by
  have short : Event.last.Sized :=
    ⟨by decide, by decide, by decide, by decide⟩
  have found : ((Wire.ofPayload Event.lenientRecord).map Event.time) =
      some ⟨1483225199, 1500000000, by decide⟩ := by decide +kernel
  obtain ⟨e, read, time⟩ := Option.map_eq_some_iff.mp found
  have back := Event.record_round_trip.2 _ e read []
  rw [List.append_nil] at back
  exact ⟨(Event.record_round_trip.1 _ short [255]).1, e, read, time, back⟩

/-! ## Changes of progress -/

theorem ProgressRecord.read_write (r : ProgressRecord) (rest : Bytes)
    (h : (Wire.write r).length < UInt64.size) :
    Wire.read (Wire.write r ++ rest) = some (r, rest) := by
  cases r with
  | ack consumer offset =>
      change (Wire.write (0 : UInt32) ++ (Wire.write consumer ++ Wire.write offset)).length < _ at h
      simp only [List.length_append] at h
      have short : (Wire.write consumer).length < UInt64.size := by omega
      unfold instWireProgressRecord
      dsimp only
      simp only [List.append_assoc, Wire.read_write_word32,
        Wire.read_write_consumer _ _ short, Wire.read_write_word64, Option.bind_eq_bind,
        Option.bind_some]
      rfl
  | rewind consumer offset =>
      change (Wire.write (1 : UInt32) ++ (Wire.write consumer ++ Wire.write offset)).length < _ at h
      simp only [List.length_append] at h
      have short : (Wire.write consumer).length < UInt64.size := by omega
      have short' : (Wire.write offset).length < UInt64.size := by omega
      unfold instWireProgressRecord
      dsimp only
      simp only [List.append_assoc, Wire.read_write_word32,
        Wire.read_write_consumer _ _ short, Wire.read_write_option _ _ short', Option.bind_eq_bind,
        Option.bind_some]
      rfl

instance : Wire.Lawful ProgressRecord where
  read_write := ProgressRecord.read_write
  write_ne_nil r h := by
    cases r <;> exact absurd (congrArg List.length h) (by simp [Wire.write, Bytes.littleEndian])

end ChangeLog
