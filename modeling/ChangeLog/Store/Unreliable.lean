/-
  A progress store that can be told to fail. While it fails, recording and rewinding change nothing;
  looking always works.
-/
import ChangeLog.Acks

namespace ChangeLog

/-- Progress in memory behind a switch that makes every change fail. -/
structure UnreliableProgress where
  progress : Progress := Roster.empty
  isFailing : Bool := false
deriving DecidableEq

namespace UnreliableProgress

/-- Makes a change, or fails. -/
def attempt (store : UnreliableProgress) (record : ProgressRecord) :
    Except StoreError Unit × UnreliableProgress :=
  if store.isFailing then (.error (.io .deviceFailure), store)
  else (.ok (), { store with progress := store.progress.apply record })

end UnreliableProgress

instance : ProgressSink UnreliableProgress where
  record store consumer offset := store.attempt (.ack consumer offset)
  rewind store consumer offset := store.attempt (.rewind consumer offset)
  load store := store.progress.entries

end ChangeLog
