import Standby.Dispatcher.Roster
import Standby.Failure

/-!
# Workers

A worker loop from its creation to its end. The executor holds it until it
launches or discards it. A loop that registers serves: it waits at its slot, takes
what is put there, and either executes a task and waits again or retires. The slot
has room for one handoff.

A worker's life is cut into the sections that other threads can come between.
Some of its stages only stand for something still to be done, such as telling
those that wait for it that it has left.
-/

namespace Standby.Dispatcher

open Duration (Millis)

/-- A task is known by the number of the call that brought it. -/
abbrev Task := Nat

/-- What can be put into a slot. -/
inductive Handoff where
  | task (task : Task)
  | retire
deriving DecidableEq, Repr

/-- What a serving worker is doing. -/
inductive Duty where
  /-- It waits at its slot, at most for its idle timeout. -/
  | waiting
  /-- It has waited long enough and is about to say so. -/
  | expired
  /-- It waits at its slot for something that is bound to be there. -/
  | awaiting
  | executing (task : Task)
  /-- A task has failed and is about to be counted. -/
  | failed (task : Task) (failure : Failure)
  /-- A failed task was counted and is about to be reported. -/
  | reporting (task : Task) (failure : Failure)
  /-- A task has ended and is about to be given back. -/
  | ended (task : Task)
  /-- It has been told to retire. -/
  | retiring
deriving DecidableEq, Repr

/-- How a worker leaves. -/
inductive Departure where
  | afterTask
  | retired
  | idle (timeout : Millis)
deriving DecidableEq, Repr

/-- How a worker loop comes to its end. -/
inductive Ending where
  /-- The executor dropped it without running it. -/
  | discarded
  /-- It was launched after its epoch. -/
  | stale
  /-- It was launched in its epoch and not accepted. -/
  | turnedAway
  /-- It served and left. -/
  | left (departure : Departure)
  /-- It served, and a failed task brought it down, as it was reported or as what it
  left behind was disposed of. It never left, so the roster still counts it. -/
  | broken
deriving DecidableEq, Repr

/-- The stage of a worker loop. -/
inductive Stage where
  /-- It was created and is not yet launched. -/
  | queued
  /-- It has registered. -/
  | serving (idleTimeout : Option Millis) (slot : Option Handoff) (duty : Duty)
  /-- It has left and is about to announce it. -/
  | announcing (departure : Departure)
  /-- It has left for being idle and is about to be counted. -/
  | counting (timeout : Millis)
  | gone (ending : Ending)
deriving DecidableEq, Repr

/-- The stage after the report of a failed task. What the task left behind is
disposed of, and the worker has its task to give back unless that fails. -/
def Stage.afterReport (idleTimeout : Option Millis) (slot : Option Handoff) (task : Task)
    (failure : Failure) : Stage :=
  if failure.spills then .gone .broken else .serving idleTimeout slot (.ended task)

/-- A worker loop. -/
structure Worker where
  /-- The epoch in which it was created. -/
  epoch : Nat
  stage : Stage
deriving DecidableEq, Repr

namespace Worker

/-- What lies in the slot of a serving worker. -/
def slot? (worker : Worker) : Option (Option Handoff) :=
  match worker.stage with
  | .serving _ slot _ => some slot
  | _ => none

/-- Put something into the slot. Nothing happens without a slot or when it is
occupied. -/
def receive (handoff : Handoff) (worker : Worker) : Worker :=
  match worker.stage with
  | .serving idleTimeout none duty =>
    { worker with stage := .serving idleTimeout (some handoff) duty }
  | _ => worker

/-- Move to another stage. -/
def move (stage : Stage) (worker : Worker) : Worker := { worker with stage := stage }

end Worker

end Standby.Dispatcher
