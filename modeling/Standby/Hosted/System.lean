import Standby.Dispatcher.System
import Standby.Pool.System

/-!
# Dispatchers over a pool

A dispatcher whose executor is a pool that others may use as well. The moves are
those of the two; each is possible when both agree. A thread that runs a worker
loop launches it, and its job is over when the loop has ended. A call of the
dispatcher submits its worker loop or its task by a call of the pool, and goes on
with the answer. A refused worker loop is dropped before that, and so is one that
goes with the queue when the pool has lost its last thread.
-/

namespace Standby.Hosted

open Dispatcher (WorkerId Task)
open Executor (Refusal)

/-- A job in the pool. -/
inductive Job where
  | loop (worker : WorkerId)
  | task (task : Task)
  /-- A job that somebody else submitted. -/
  | other (label : Nat)
deriving DecidableEq, Repr

/-- How far a call of the dispatcher is with its submission. -/
inductive Submission where
  /-- A call of the pool is on its way. -/
  | pending (call : Nat)
  /-- The pool has answered. -/
  | answered (refusal : Option Refusal)
deriving DecidableEq, Repr

/-- A dispatcher and its pool. -/
structure System where
  dispatcher : Dispatcher.System
  pool : Pool.System Job
  /-- The submissions of the dispatcher's calls, by their numbers. -/
  submissions : List (Nat × Submission)

/-- A move of the dispatcher or of the pool. -/
inductive Move where
  | dispatcher (move : Dispatcher.Move)
  | pool (move : Pool.Move Job)
deriving DecidableEq, Repr

/-- Something that happens in either. -/
inductive Event where
  | dispatcher (event : Dispatcher.Event)
  | pool (event : Pool.Event)
deriving DecidableEq, Repr

namespace System

/-- A new dispatcher over a new pool. -/
def fresh (dispatcher : Dispatcher.System) (pool : Pool.System Job) : System :=
  ⟨dispatcher, pool, []⟩

/-- The job that a thread of the pool runs. -/
def jobOf? : Pool.Thread Job → Option Job
  | .running _ job => some job
  | _ => none

/-- A thread of the pool runs the job. -/
def runs (system : System) (job : Job) : Bool :=
  system.pool.threads.any fun thread => jobOf? thread == some job

/-- A worker loop has ended. -/
def hasEnded (system : System) (worker : WorkerId) : Bool :=
  match system.dispatcher.workers[worker]?.map Dispatcher.Worker.stage with
  | some (.gone _) => true
  | _ => false

/-- A worker loop has broken down, and its job fails with it. -/
def hasBroken (system : System) (worker : WorkerId) : Bool :=
  system.dispatcher.workers[worker]?.map Dispatcher.Worker.stage == some (.gone .broken)

/-- The pool has refused a worker loop. -/
def isRefused (system : System) (worker : WorkerId) : Bool :=
  system.submissions.any fun (call, submission) =>
    match system.dispatcher.calls.get? call, submission with
    | some (.submitting _ submitted), .answered (some _) => submitted == worker
    | _, _ => false

/-- A worker loop has gone with the queue of the pool. -/
def isAbandoned (system : System) (worker : WorkerId) : Bool :=
  system.pool.abandoned.any fun (_, job) => job == .loop worker

/-- The worker loop of a submission has been dropped, if it was refused. -/
def hasDropped (system : System) (call : Nat) (refusal : Option Refusal) : Bool :=
  match system.dispatcher.calls.get? call, refusal with
  | some (.submitting _ worker), some _ =>
    system.dispatcher.workers[worker]?.map Dispatcher.Worker.stage == some (.gone .discarded)
  | _, _ => true

/-- The pool agrees to a move of the dispatcher. It never breaks down under a
submission. -/
def poolAgrees (system : System) : Dispatcher.Move → Bool
  | .launch worker => system.runs (.loop worker)
  | .discard worker => system.isRefused worker || system.isAbandoned worker
  | .answer call refusal =>
    system.submissions.lookup call == some (.answered refusal) && system.hasDropped call refusal
  | .breakOff _ => false
  | _ => true

/-- The dispatcher agrees to a move of the pool. -/
def dispatcherAgrees (system : System) : Pool.Move Job → Bool
  | .invoke (.submit (.loop _)) | .invoke (.submit (.task _)) => false
  | .finish thread outcome =>
    match system.pool.threads[thread]?.bind jobOf? with
    | some (.loop worker) =>
      system.hasEnded worker && (outcome == .returned) == !system.hasBroken worker
    | _ => true
  | .letGo => !system.dispatcher.held
  | _ => true

/-- The job that a call of the dispatcher is about to submit. -/
def jobToSubmit? (system : System) (call : Nat) : Option Job :=
  if (system.submissions.lookup call).isSome then none
  else
    match system.dispatcher.calls.get? call with
    | some (.submitting _ worker) => some (.loop worker)
    | some .fallingBack => some (.task call)
    | _ => none

/-- A call of the dispatcher calls the pool if it has something to submit. -/
def beginSubmission (system : System) (call : Nat) : System × List Event :=
  match system.jobToSubmit? call with
  | none => (system, [])
  | some job =>
    match system.pool.step (.invoke (.submit job)) with
    | none => (system, [])
    | some (pool, events) =>
      ({ system with
          pool := pool
          submissions := (call, .pending system.pool.calls.next) :: system.submissions },
        events.map .pool)

/-- A submission is over. -/
def forget (system : System) (call : Nat) : System :=
  { system with submissions := system.submissions.filter (·.1 != call) }

/-- The call of the dispatcher that a move belongs to. -/
def callOf? : Dispatcher.Move → Option Nat
  | .proceed call | .answer call _ | .breakOff call => some call
  | _ => none

/-- A move of the dispatcher. -/
def moveDispatcher (system : System) (move : Dispatcher.Move) : Option (System × List Event) :=
  if system.poolAgrees move then
    (system.dispatcher.step move).map fun (dispatcher, events) =>
      let moved : System := { system with dispatcher := dispatcher }
      match callOf? move with
      | none => (moved, events.map .dispatcher)
      | some call =>
        let settled :=
          match move with
          | .answer _ _ | .breakOff _ => moved.forget call
          | _ => moved
        let (submitted, later) := settled.beginSubmission call
        (submitted, events.map .dispatcher ++ later)
  else none

/-- A call of the pool has returned; a submission that waited for it is
answered. -/
def noteAnswer (system : System) : Pool.Event → System
  | .returned call answer =>
    let refusal : Option Refusal :=
      match answer with
      | .done => none
      | .refused refusal => some refusal
    let note (entry : Nat × Submission) : Nat × Submission :=
      if entry.2 = .pending call then (entry.1, .answered refusal) else entry
    { system with submissions := system.submissions.map note }
  | _ => system

/-- A move of the pool. -/
def movePool (system : System) (move : Pool.Move Job) : Option (System × List Event) :=
  if system.dispatcherAgrees move then
    (system.pool.step move).map fun (pool, events) =>
      (events.foldl noteAnswer { system with pool := pool }, events.map .pool)
  else none

/-- Make a move. There is no result when the move is not possible. -/
def step (system : System) : Move → Option (System × List Event)
  | .dispatcher move => system.moveDispatcher move
  | .pool move => system.movePool move

/-- Make moves one after the other. -/
def play (system : System) : List Move → Option (System × List Event)
  | [] => some (system, [])
  | move :: moves => do
    let (next, events) ← system.step move
    let (last, later) ← next.play moves
    return (last, events ++ later)

end System

end Standby.Hosted
