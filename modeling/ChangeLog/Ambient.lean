/-
  What the log cannot make by itself and its surroundings hand to it: the time, and identifiers that
  no one has seen before.
-/
import ChangeLog.Cursor.Id
import ChangeLog.Time.Instant

namespace ChangeLog

/-- The time, and an identifier that no cursor had before. -/
structure Ambient where
  now : Time.Instant
  fresh : CursorId
deriving DecidableEq, Repr

/-- An identifier of version 7: the milliseconds since 1970 in 48 bits, and 74 bits of noise around
the marks of version and variant. -/
def CursorId.ofMillis (millis noise : Nat) : CursorId :=
  ⟨BitVec.ofNat 48 millis ++ 7#4 ++ BitVec.ofNat 12 (noise >>> 62) ++ 2#2 ++ BitVec.ofNat 62 noise⟩

example : (CursorId.ofMillis 1700000000000 0).text = "018bcfe5-6800-7000-8000-000000000000" := by
  decide +kernel

end ChangeLog
