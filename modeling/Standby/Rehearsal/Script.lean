import Standby.Dispatcher.Plan
import Standby.Duration
import Standby.Executor.Refusal
import Standby.Executor.ThreadPerJob
import Standby.Failure

/-!
# Scripts

What is done to a dispatcher in a rehearsal, step by step. A step may hand in an
errand, which is a task with a script of its own: the steps that the task takes
when it is run. So a script is a tree.
-/

namespace Standby.Rehearsal

open Duration (Millis)
open Executor (Refusal)

mutual

/-- One step of a script. -/
inductive Step where
  | start
  | stop
  | setIdleTimeout (timeout : Option Millis)
  /-- Offer an errand, and drop it when it is declined. -/
  | tryExecute (errand : Errand)
  /-- Offer an errand, and drop it or run it in place when it is declined. -/
  | offer (errand : Errand) (runsDeclined : Bool)
  /-- Offer an errand, and let the executor have it when it is declined. -/
  | execute (errand : Errand)
  /-- Run a job of the queue on a thread of its own, and perhaps wait for its
  end. -/
  | run (index : Nat) (joins : Bool)
  /-- Drop a job of the queue. -/
  | discard (index : Nat)
  /-- Let the executor refuse some jobs to come. -/
  | refuse (count : Nat) (refusal : Refusal)
  /-- Open the gate of an errand. -/
  | release (label : String)
  | sleep (millis : Millis)
  /-- Wait until no worker is parked. -/
  | join
  /-- Offer tasks from many threads at once, hold those that were accepted, and
  let them go one by one. -/
  | contend (callers : Nat)
  | info
  | metrics
  | closePool
  | poolInfo
  /-- Let the dispatcher go. -/
  | drop

/-- A task of a script: its label, whether it waits at a gate before it does
anything, the steps it takes, and how it fails if it does. -/
inductive Errand where
  | mk (label : String) (blocks : Bool) (steps : List Step) (failure : Option Failure)

end

namespace Errand

/-- The name of an errand. -/
def label : Errand → String
  | .mk label _ _ _ => label

/-- The errand waits at a gate. -/
def blocks : Errand → Bool
  | .mk _ blocks _ _ => blocks

/-- The steps that the errand takes. -/
def steps : Errand → List Step
  | .mk _ _ steps _ => steps

/-- How the errand ends. -/
def outcome : Errand → Outcome
  | .mk _ _ _ none => .returned
  | .mk _ _ _ (some failure) => .failed failure

end Errand

mutual

/-- The number of calls that a step can lead to. -/
def Step.weight : Step → Nat
  | .tryExecute errand | .offer errand _ | .execute errand => errand.weight
  | .contend callers => callers + 1
  | _ => 1

/-- The number of calls that an errand can lead to, its own included. -/
def Errand.weight : Errand → Nat
  | .mk _ _ steps _ => weightOfSteps steps + 1

/-- The number of calls that steps can lead to. -/
def weightOfSteps : List Step → Nat
  | [] => 0
  | step :: steps => step.weight + weightOfSteps steps

end

/-- The executor under a dispatcher. -/
inductive Stage where
  /-- Jobs queue until a step runs or drops them. -/
  | manual
  /-- Jobs run where they are submitted. -/
  | inline (name : String)
  /-- Each job runs on a thread of its own. -/
  | threads (name : String)
  | pool (name : String) (threads queueCapacity : Nat)
deriving DecidableEq, Repr

/-- The name of an executor. -/
def Stage.name : Stage → String
  | .manual => "manual"
  | .inline name | .threads name | .pool name _ _ => name

/-- The executor can be set up: its first threads can have its name. -/
def Stage.isSound : Stage → Bool
  | .pool name count _ => count == 0 || Executor.isThreadName name
  | _ => true

/-- A rehearsal: the dispatcher, what it works with, and the script. -/
structure Script where
  plan : Dispatcher.Plan
  stage : Stage
  /-- Failed tasks are recorded and not logged. -/
  recordsFaults : Bool
  steps : List Step

end Standby.Rehearsal
