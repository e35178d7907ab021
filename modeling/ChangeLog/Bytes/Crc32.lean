/-
  The CRC-32 of IEEE 802.3: reflected polynomial 0xEDB88320, all ones at the start, inverted at the
  end. One shift per bit; every step is a bijection of the remainder, so that a change in one byte
  is never lost.
-/
import ChangeLog.Bytes

namespace ChangeLog.Crc32

/-- The generator polynomial, lowest power in the highest bit. -/
def polynomial : UInt32 := 0xedb88320

/-- Moves the remainder by one bit. -/
def shift (remainder : UInt32) : UInt32 :=
  if remainder &&& 1 = 1 then (remainder >>> 1) ^^^ polynomial else remainder >>> 1

/-- Moves the remainder by `count` bits. -/
def shifts : Nat → UInt32 → UInt32
  | 0, remainder => remainder
  | count + 1, remainder => shifts count (shift remainder)

/-- Takes one byte into the remainder. -/
def feed (remainder : UInt32) (byte : UInt8) : UInt32 := shifts 8 (remainder ^^^ byte.toUInt32)

/-- The checksum of a byte string. -/
def checksum (bytes : Bytes) : UInt32 := ~~~ bytes.foldl feed 0xffffffff

example : checksum [0x31, 0x32, 0x33, 0x34, 0x35, 0x36, 0x37, 0x38, 0x39] = 0xcbf43926 := by
  decide +kernel

end ChangeLog.Crc32
