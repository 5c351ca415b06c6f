import Standby.Text.Quoted

/-!
# Refused jobs

Why an executor does not take a job. A refused job never runs on it.
-/

namespace Standby.Executor

open Text (quote)

/-- The reason for refusing a job. -/
inductive Refusal where
  | queueFull (capacity : Nat)
  | closed
  | noThread (reason : String)
deriving DecidableEq, Repr

namespace Refusal

/-- The wording of a refusal. -/
def message : Refusal → String
  | .queueFull capacity => "queue full: " ++ toString capacity ++ " jobs already queued"
  | .closed => "executor has been shut down"
  | .noThread reason => "failed to spawn thread: " ++ reason

/-- The refusal in a few words; a thread that cannot be created has its own. -/
def brief : Refusal → String
  | .queueFull _ => "Queue full"
  | .closed => "Executor shutdown"
  | .noThread reason => reason

/-- A refusal in full, part by part. -/
def detailed : Refusal → String
  | .queueFull capacity => "QueueFull \x7b capacity: " ++ toString capacity ++ " \x7d"
  | .closed => "Shutdown"
  | .noThread reason => "Spawn(" ++ quote reason ++ ")"

/-- The queue was full. -/
def isQueueFull : Refusal → Bool
  | .queueFull _ => true
  | _ => false

/-- The executor was closed. -/
def isClosed (refusal : Refusal) : Bool := refusal == .closed

end Refusal

end Standby.Executor
