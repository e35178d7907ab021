/-
  Replay of a range of the log, both ends included, without a cursor. Events never change, so a
  range that was replayed once gives the same events ever after.
-/
import ChangeLog.Log.Error
import ChangeLog.Store.Events

namespace ChangeLog.EventStore

/-- The events with offsets from `first` to `last`. -/
def replay (store : EventStore) (first last : UInt64) : Except LogError (List Event) :=
  if last < first then .error (.invalidRange first last)
  else if store.nextOffset ≤ last then .error (.outOfRange last store.nextOffset)
  else LogError.lift (store.slice first (last + 1))

/-- The events from `first` to the end of the log; an empty log has no end to replay to. -/
def replayFrom (store : EventStore) (first : UInt64) : Except LogError (List Event) :=
  if store.nextOffset = 0 then .error (.outOfRange first 0)
  else store.replay first (store.nextOffset - 1)

end ChangeLog.EventStore
