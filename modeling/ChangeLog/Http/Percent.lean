/-
  Percent-encoded text. A percent sign before two hexadecimal digits stands for a byte; any other
  percent sign stands for itself.
-/
import ChangeLog.Bytes.Hex

namespace ChangeLog.Http

/-- The bytes that a percent-encoded byte string stands for. -/
def percentDecode : Bytes → Bytes
  | 0x25 :: high :: low :: rest =>
    match Hex.value? high, Hex.value? low with
    | some h, some l => UInt8.ofNat (16 * h + l) :: percentDecode rest
    | _, _ => 0x25 :: percentDecode (high :: low :: rest)
  | b :: rest => b :: percentDecode rest
  | [] => []

/-- The bytes of a percent-encoded text. -/
def decodedBytes (cs : List Char) : Bytes := percentDecode (Text.encode (String.ofList cs))

end ChangeLog.Http
