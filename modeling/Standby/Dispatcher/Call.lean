import Standby.Dispatcher.Phase
import Standby.Dispatcher.Worker
import Standby.Executor.Refusal

/-!
# Calls

A call of a dispatcher from its request to its answer. Calls are made from any
number of threads, so one call's sections alternate with those of others.
-/

namespace Standby.Dispatcher

open Duration (Millis)
open Executor (Refusal)

/-- What a caller wants. -/
inductive Request where
  | start
  | stop
  | setIdleTimeout (timeout : Option Millis)
  /-- Run the task that this call brings. A declined task goes back to the
  caller, or on to the executor. -/
  | offer (fallsBack : Bool)
deriving DecidableEq, Repr

/-- What a caller is told. -/
inductive Answer where
  | done
  | illegal (fault : IllegalPhase)
  /-- A worker has the task. -/
  | accepted
  /-- The caller has this task again. -/
  | declined (task : Task)
  /-- The executor has the task. -/
  | fallback
  /-- The executor refused the task, and nobody has it. -/
  | refused (refusal : Refusal)
deriving DecidableEq, Repr

/-- What a sleeping call waits for. -/
inductive Awaited where
  /-- The call stops the dispatcher itself and waits for the last worker. -/
  | lastWorker
  /-- The call joined a stop in progress and waits for its end. -/
  | stopped
deriving DecidableEq, Repr

/-- The stage of a call that has not returned. -/
inductive Call where
  | entering (request : Request)
  /-- The executor has the worker loop and has not answered. -/
  | submitting (fallsBack : Bool) (worker : WorkerId)
  /-- The executor took the worker loop, which is about to be counted. -/
  | countingSpawned (fallsBack : Bool) (worker : WorkerId)
  /-- The executor refused the worker loop, which is about to be counted. -/
  | countingRefused (fallsBack : Bool) (worker : WorkerId) (refusal : Refusal)
  /-- The declined task is about to be counted. -/
  | countingDeclined (fallsBack : Bool)
  /-- The executor has the task and has not answered. -/
  | fallingBack
  | sleeping (awaited : Awaited)
  /-- The call was woken and is about to look again. -/
  | woken (awaited : Awaited)
  /-- The dispatcher is stopped, and the call is about to announce it. -/
  | announcing
deriving DecidableEq, Repr

/-- What the executor has of this call and has not answered: the worker loop, or the
task itself. -/
def Call.submission? : Call → Option (Option WorkerId)
  | .submitting _ worker => some (some worker)
  | .fallingBack => some none
  | _ => none

/-- A sleeping call wakes. -/
def Call.wake : Call → Call
  | .sleeping awaited => .woken awaited
  | other => other

end Standby.Dispatcher
