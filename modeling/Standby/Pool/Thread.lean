import Standby.Executor.Refusal
import Standby.Failure

/-!
# Threads and calls of a pool

The stages of a pool's threads and of the calls that submit jobs and close the
pool. A job is known by the number of the call that submitted it.
-/

namespace Standby.Pool

open Executor (Refusal)

/-- What a thread of the pool is doing. -/
inductive Thread (α : Type) where
  /-- It has not begun. -/
  | created
  /-- It waits for a job. -/
  | idle
  /-- It took a job off the queue, which is about to be counted. -/
  | received (number : Nat) (job : α)
  | running (number : Nat) (job : α)
  /-- Its job has failed, which is about to be counted. -/
  | failed (number : Nat) (failure : Failure)
  /-- What its job left behind has spilled, which is about to bring the thread
  down. -/
  | collapsing
  | stopped
  /-- It was brought down. -/
  | lost
deriving DecidableEq, Repr

namespace Thread

variable {α : Type}

/-- The thread has come to its end. -/
def isOver : Thread α → Bool
  | .stopped | .lost => true
  | _ => false

/-- The stage after a failed job was counted. What the job left behind is disposed
of, and the thread waits for another job unless that fails. -/
def afterFailure (failure : Failure) : Thread α :=
  if failure.spills then .collapsing else .idle

end Thread

/-- What a caller wants. -/
inductive Request (α : Type) where
  | submit (job : α)
  | close
deriving DecidableEq, Repr

/-- What a caller is told. -/
inductive Answer where
  | done
  | refused (refusal : Refusal)
deriving DecidableEq, Repr

/-- The stage of a call that has not returned. -/
inductive Call (α : Type) where
  | entering (request : Request α)
  /-- The pool was open, and the call waits for the sending end of the queue. -/
  | reaching (job : α)
  /-- The call holds the sending end and is about to count its job. -/
  | counting (job : α)
  /-- The job was counted and is about to be sent. -/
  | sending (job : α)
  /-- The job could not be sent and is about to be uncounted. -/
  | uncounting (refusal : Refusal)
  /-- The pool was declared closed, and the call waits to take the sending end
  away. -/
  | closing
deriving DecidableEq, Repr

/-- The call holds the sending end of the queue. -/
def Call.holdsSender {α : Type} : Call α → Bool
  | .counting _ | .sending _ | .uncounting _ => true
  | _ => false

end Standby.Pool
