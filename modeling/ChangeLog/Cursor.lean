/-
  Cursors: positions in the log that move forward as they are read. Reading hands out the events
  from the position on and moves it by as many, so that one cursor sees each event once and in
  order. The environment supplies a fresh identifier for each cursor.
-/
import ChangeLog.Log.Error
import ChangeLog.Store.Events

namespace ChangeLog

/-- A cursor: who opened it, where it started, and the offset that it reads next. -/
structure Cursor where
  owner : Option String
  start : UInt64
  position : UInt64
deriving DecidableEq, Repr

/-- Events that one read hands out, and the position after it. -/
structure Batch where
  events : List Event
  position : UInt64
deriving DecidableEq, Repr

/-- The open cursors, in the order in which they were opened. -/
structure Cursors where
  entries : List (CursorId × Cursor) := []
deriving DecidableEq, Repr

namespace Cursors

/-- The cursor with an identifier. -/
def find? (cs : Cursors) (id : CursorId) : Option Cursor := cs.entries.lookup id

/-- How many cursors are open. -/
def size (cs : Cursors) : Nat := cs.entries.length

/-- Moves a cursor to a position. -/
def move (cs : Cursors) (id : CursorId) (position : UInt64) : Cursors :=
  ⟨cs.entries.map fun (k, c) => (k, if k = id then { c with position } else c)⟩

/-- Closes the cursor with an identifier, if it is open. -/
def erase (cs : Cursors) (id : CursorId) : Cursors := ⟨cs.entries.filter fun e => e.1 ≠ id⟩

/-- Opens a cursor at an offset of the log or at its end, under a fresh identifier. -/
def subscribe (cs : Cursors) (store : EventStore) (fresh : CursorId) (start : UInt64)
    (owner : Option String) : Except LogError CursorId × Cursors :=
  if store.nextOffset < start then (.error (.outOfRange start store.nextOffset), cs)
  else (.ok fresh, ⟨(cs.erase fresh).entries ++ [(fresh, { owner, start, position := start })]⟩)

/-- The sum of two offsets, or the greatest offset where there is no such sum. -/
def saturatingAdd (a b : UInt64) : UInt64 :=
  if a + b < a then UInt64.ofNat (UInt64.size - 1) else a + b

/-- Hands out at most `max` events from the position of a cursor and moves it past them. -/
def read (cs : Cursors) (store : EventStore) (id : CursorId) (max : UInt64) :
    Except LogError Batch × Cursors :=
  match cs.find? id with
  | none => (.error (.cursorNotFound id), cs)
  | some cursor =>
    match store.slice cursor.position (saturatingAdd cursor.position max) with
    | .error cause => (.error (.ofStore cause), cs)
    | .ok events =>
      let position := cursor.position + UInt64.ofNat events.length
      (.ok { events, position }, cs.move id position)

/-- Closes a cursor. -/
def unsubscribe (cs : Cursors) (id : CursorId) : Except LogError Unit × Cursors :=
  match cs.find? id with
  | none => (.error (.cursorNotFound id), cs)
  | some _ => (.ok (), cs.erase id)

/-- What is known of a cursor. -/
def info (cs : Cursors) (id : CursorId) : Except LogError Cursor :=
  match cs.find? id with
  | none => .error (.cursorNotFound id)
  | some cursor => .ok cursor

end Cursors
end ChangeLog
