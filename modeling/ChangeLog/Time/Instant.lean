/-
  Instants of civil time in UTC: whole seconds since 1970 and nanoseconds. A leap second is the
  second 59 of its minute with a thousand million nanoseconds or more. Years run from -262143 to
  262142.
-/
import ChangeLog.Time.Calendar

namespace ChangeLog.Time

/-- Seconds and nanoseconds that make an instant. -/
def InRange (seconds : Int) (nanos : Nat) : Prop :=
  -8334601228800 ≤ seconds ∧ seconds ≤ 8210266876799 ∧ nanos < 2000000000 ∧
    (1000000000 ≤ nanos → seconds % 60 = 59)

instance (seconds : Int) (nanos : Nat) : Decidable (InRange seconds nanos) := by
  unfold InRange; infer_instance

/-- An instant in UTC. -/
structure Instant where
  seconds : Int
  nanos : Nat
  inRange : InRange seconds nanos
deriving DecidableEq, Repr

/-- The instant of a reading in seconds and nanoseconds, if it is one. -/
def Instant.ofUnix? (seconds : Int) (nanos : Nat) : Option Instant :=
  if h : InRange seconds nanos then some ⟨seconds, nanos, h⟩ else none

/-- The day of an instant. -/
def Instant.date (t : Instant) : Date := Date.ofDays (t.seconds / 86400)

/-- The second of its day. -/
def Instant.secondOfDay (t : Instant) : Nat := (t.seconds % 86400).toNat

end ChangeLog.Time
