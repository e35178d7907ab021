/-
  Reads that wait for events. A read that finds nothing registers for notification, reads again, and
  waits; a notification lets it read a third time, and running out of time answers what the second
  read found. Registering comes before the second read, so that no append falls between looking and
  waiting. Each step is a function of its own, so that steps of other requests can come between.
-/
import ChangeLog.Log

namespace ChangeLog.Http

/-- What a waiting read asks for. -/
structure Poll where
  cursor : CursorId
  max : UInt64
  /-- Whether it is willing to wait. -/
  isPatient : Bool
deriving DecidableEq, Repr

/-- How far a waiting read has come. Once registered it remembers whether it was notified. -/
inductive Stage where
  | start
  | unregistered
  | registered (isNotified : Bool)
  | waiting (found : Batch) (isNotified : Bool)
  | done (answer : Except LogError Batch)
deriving Repr

namespace Poll

/-- Reads, and goes on to `next` if nothing was found and waiting makes sense. -/
def attempt (p : Poll) (log : Log) (next : Batch → Stage) : Stage × Log :=
  match log.read p.cursor p.max with
  | (.error e, log) => (.done (.error e), log)
  | (.ok batch, log) =>
    if batch.events.isEmpty ∧ p.isPatient ∧ p.max ≠ 0 then (next batch, log)
    else (.done (.ok batch), log)

/-- The next step of a waiting read; without a notification it stays waiting. -/
def advance (p : Poll) (stage : Stage) (log : Log) : Stage × Log :=
  match stage with
  | .start => p.attempt log fun _ => .unregistered
  | .unregistered => (.registered false, log)
  | .registered isNotified => p.attempt log fun batch => .waiting batch isNotified
  | .waiting _ true =>
    match log.read p.cursor p.max with
    | (answer, log) => (.done answer, log)
  | .waiting batch false => (.waiting batch false, log)
  | .done answer => (.done answer, log)

/-- Takes the steps up to waiting or an answer, with nothing between them. -/
def begin (p : Poll) (log : Log) : Stage × Log :=
  match p.advance .start log with
  | (stage, log) =>
    match p.advance stage log with
    | (stage, log) => p.advance stage log

end Poll

namespace Stage

/-- An append was announced: whoever is registered is notified. -/
def notify : Stage → Stage
  | .registered _ => .registered true
  | .waiting found _ => .waiting found true
  | stage => stage

/-- Time has run out: a read that was not notified answers what it found. -/
def timeOut : Stage → Stage
  | .waiting found false => .done (.ok found)
  | stage => stage

end Stage
end ChangeLog.Http
