/-
  Frames: the length of a payload, its checksum, and the payload. A frame whose checksum agrees is
  intact. A header that is incomplete, gives length 0, or asks for more bytes than there are is no
  frame.
-/
import ChangeLog.Bytes.Crc32
import ChangeLog.Wire

namespace ChangeLog

/-- A payload and the checksum that its header gives. -/
structure Frame where
  checksum : UInt32
  payload : Bytes
deriving DecidableEq, Repr

namespace Frame

/-- The bytes of a header. -/
def headerSize : Nat := 8

/-- How many bytes a frame takes. -/
def size (f : Frame) : Nat := headerSize + f.payload.length

/-- The frame of a payload. -/
def ofPayload (payload : Bytes) : Frame := ⟨Crc32.checksum payload, payload⟩

/-- The bytes of a frame. -/
def write (f : Frame) : Bytes :=
  Bytes.littleEndian 4 f.payload.length ++ (Wire.write f.checksum ++ f.payload)

/-- The frame at the front of a byte string, and what follows it. -/
def read? (bytes : Bytes) : Option (Frame × Bytes) := do
  let (length, rest) ← Wire.readWord 4 bytes
  let (checksum, rest) ← Wire.read (α := UInt32) rest
  if length = 0 then none
  else
    let (payload, rest) ← Bytes.splitExact length rest
    return (⟨checksum, payload⟩, rest)

/-- Whether the checksum agrees with the payload. -/
def isIntact (f : Frame) : Bool := Crc32.checksum f.payload = f.checksum

/-- The record in a frame: none if the checksum disagrees or the payload holds no record. -/
def record? {α : Type} [Wire α] (f : Frame) : Option α :=
  if f.isIntact then Wire.ofPayload f.payload else none

/-- Whether an intact frame starts at the front of a byte string. -/
def startsIntact (bytes : Bytes) : Bool :=
  match read? bytes with
  | some (f, _) => f.isIntact
  | none => false

/-- Whether the length at the front of a byte string, of which `size` bytes are left, is one that a
frame can have. -/
def fits (size : Nat) (bytes : Bytes) : Bool :=
  match Wire.readWord 4 bytes with
  | some (length, _) => 0 < length && headerSize + length ≤ size
  | none => false

/-- Whether an intact frame starts anywhere in a byte string of `size` bytes. A length that cannot
be is told from the header alone, without a look at the rest. -/
def holdsIntactWithin : Nat → Bytes → Bool
  | _, [] => false
  | size, b :: rest =>
    (fits size (b :: rest) && startsIntact (b :: rest)) || holdsIntactWithin (size - 1) rest

/-- Whether an intact frame starts anywhere in a byte string. -/
def holdsIntact (bytes : Bytes) : Bool := holdsIntactWithin bytes.length bytes

/-! ## Laws -/

@[simp] theorem isIntact_ofPayload (payload : Bytes) : (ofPayload payload).isIntact = true := by
  simp [isIntact, ofPayload]

theorem length_write (f : Frame) : f.write.length = f.size := by
  simp [write, size, headerSize, Wire.write]
  omega

theorem read?_write_append {f : Frame} (nonempty : f.payload ≠ [])
    (fits : f.payload.length < UInt32.size) (rest : Bytes) :
    read? (f.write ++ rest) = some (f, rest) := by
  have pos : f.payload.length ≠ 0 := fun h => nonempty (List.eq_nil_of_length_eq_zero h)
  unfold read? write
  rw [List.append_assoc, Wire.readWord_append (Bytes.length_littleEndian 4 _),
    Bytes.fromLittleEndian_littleEndian, Nat.mod_eq_of_lt (by rw [Bytes.capacity_four]; exact fits),
    List.append_assoc]
  simp [pos, Bytes.splitExact_append]

theorem length_of_read? {bytes rest : Bytes} {f : Frame} (h : read? bytes = some (f, rest)) :
    bytes.length = f.size + rest.length := by
  unfold read? Wire.readWord at h
  simp only [Wire.read, Wire.readWord, Option.bind_eq_bind, Option.bind_eq_some_iff,
    Option.map_eq_some_iff, Prod.exists] at h
  obtain ⟨length, rest₁, ⟨front₁, back₁, split₁, e₁⟩, checksum, rest₂,
    ⟨word, back₂, ⟨front₂, back₃, split₂, e₂⟩, e₃⟩, h⟩ := h
  split at h
  · cases h
  · simp only [Option.pure_def, Option.bind_eq_some_iff, Option.some.injEq, Prod.exists] at h
    obtain ⟨payload, rest₃, split₃, h⟩ := h
    have s₁ := Bytes.append_of_splitExact split₁
    have s₂ := Bytes.append_of_splitExact split₂
    have s₃ := Bytes.append_of_splitExact split₃
    simp only [Prod.mk.injEq] at e₁ e₂ e₃ h
    obtain ⟨rfl, rfl⟩ := h
    have l₁ := congrArg List.length s₁.2
    have l₂ := congrArg List.length s₂.2
    have l₃ := congrArg List.length s₃.2
    rw [e₁.2] at l₁
    rw [e₂.2, e₃.2] at l₂
    simp only [List.length_append] at l₁ l₂ l₃
    simp only [size, headerSize]
    omega

theorem fits_of_read? {bytes rest : Bytes} {f : Frame} (h : read? bytes = some (f, rest)) :
    fits bytes.length bytes = true := by
  have size_eq := length_of_read? h
  unfold read? at h
  unfold fits
  cases front : Wire.readWord 4 bytes with
  | none => simp [front] at h
  | some found =>
    obtain ⟨length, rest₁⟩ := found
    simp only [front, Option.bind_eq_bind, Option.bind_some, Option.bind_eq_some_iff,
      Prod.exists] at h
    obtain ⟨checksum, rest₂, -, h⟩ := h
    split at h
    · cases h
    · rename_i positive
      simp only [Option.pure_def, Option.bind_eq_some_iff, Option.some.injEq, Prod.mk.injEq,
        Prod.exists] at h
      obtain ⟨payload, rest₃, split₃, rfl, rfl⟩ := h
      have payload_length := (Bytes.append_of_splitExact split₃).1
      simp only [size] at size_eq
      simp only [Bool.and_eq_true, decide_eq_true_eq]
      omega

theorem holdsIntact_cons (b : UInt8) (rest : Bytes) :
    holdsIntact (b :: rest) = (startsIntact (b :: rest) || holdsIntact rest) := by
  have needless : (fits (b :: rest).length (b :: rest) && startsIntact (b :: rest)) =
      startsIntact (b :: rest) := by
    cases starts : startsIntact (b :: rest) with
    | false => simp
    | true =>
      unfold startsIntact at starts
      split at starts
      · rename_i found
        rw [fits_of_read? found, Bool.true_and]
      · cases starts
  simp only [holdsIntact, holdsIntactWithin, needless]
  simp

end Frame
end ChangeLog
