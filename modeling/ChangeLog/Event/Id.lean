/-
  Identifiers of events: 32 bytes, shown as 64 hexadecimal digits. An identifier is the digest of
  type, source, time and offset, each in a form whose end can be told, so that two different
  descriptions never give the same bytes to the digest.
-/
import ChangeLog.Bytes.Blake3
import ChangeLog.Bytes.Hex
import ChangeLog.Time.Instant
import ChangeLog.Wire

namespace ChangeLog

/-- An identifier of an event. -/
structure EventId where
  bytes : Bytes
  length_eq : bytes.length = 32
deriving DecidableEq, Repr

namespace EventId

/-- Why a text is no identifier. -/
inductive Fault where
  | hex (fault : Hex.Fault)
  | length (actual : Nat)
deriving DecidableEq, Repr

/-- The message for a fault. -/
def Fault.message : Fault → String
  | .hex fault => "invalid hex string: " ++ fault.message
  | .length actual => "invalid byte length: expected 32, got " ++ toString actual

/-- The identifier that a hexadecimal text names. -/
def ofText (text : String) : Except Fault EventId :=
  match Hex.decode text with
  | .error fault => .error (.hex fault)
  | .ok bytes =>
    if h : bytes.length = 32 then .ok ⟨bytes, h⟩ else .error (.length bytes.length)

/-- All 64 digits. -/
def text (id : EventId) : String := Hex.encode id.bytes

/-- The first eight digits. -/
def short (id : EventId) : String := Hex.encode (id.bytes.take 4)

/-- The form for diagnostics. -/
def debug (id : EventId) : String := "EventId(" ++ id.short ++ ")"

/-! ## Derivation -/

/-- The bytes that every description starts with. -/
def domainTag : Bytes := Text.encode "clog-event-v1:"

/-- A signed 64-bit word in two's complement. -/
def signedWord (n : Int) : Bytes := Bytes.littleEndian 8 (n % 18446744073709551616).toNat

/-- What the digest is taken of: the tag, type and source after their lengths, the time, the
offset. -/
def preimage (type source : String) (time : Time.Instant) (offset : UInt64) : Bytes :=
  domainTag ++ (Wire.write type ++ (Wire.write source ++
    (signedWord time.seconds ++ (Bytes.littleEndian 4 time.nanos ++ Wire.write offset))))

/-- The identifier of an event with the given description. -/
def derive (type source : String) (time : Time.Instant) (offset : UInt64) : EventId :=
  ⟨Blake3.digest (preimage type source time offset), Blake3.length_digest _⟩

end EventId

instance : Wire EventId where
  write id := id.bytes
  read bytes :=
    if h : 32 ≤ bytes.length then
      some (⟨bytes.take 32, by simp [Nat.min_eq_left h]⟩, bytes.drop 32)
    else none

theorem EventId.read_write (id : EventId) (rest : Bytes) :
    Wire.read (Wire.write id ++ rest) = some (id, rest) := by
  obtain ⟨bytes, length_eq⟩ := id
  have front : (bytes ++ rest).take 32 = bytes := by rw [← length_eq, List.take_left]
  have back : (bytes ++ rest).drop 32 = rest := by rw [← length_eq, List.drop_left]
  have enough : 32 ≤ (bytes ++ rest).length := by simp; omega
  simp only [Wire.read, Wire.write, enough, dite_true, front, back]

end ChangeLog
