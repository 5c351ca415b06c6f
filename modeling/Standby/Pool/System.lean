import Standby.Pool.Event
import Standby.Register

/-!
# Pools as systems

A pool of threads with a bounded queue, and the moves that change it. A job is
counted before it is sent and uncounted when it cannot be sent; one call at a time
holds the sending end of the queue. Closing takes the sending end away. The
threads run what the queue still holds and stop when it is empty. A job that fails
does not stop its thread, unless what it leaves behind spills. Without a thread that
could receive them nothing can be sent any more, and the jobs in the queue go with
the last one.

Every move is one section that runs without interference, so the sequences of
possible moves are exactly the interleavings.
-/

namespace Standby.Pool

open Executor (Refusal)

/-- A pool with its calls. -/
structure System (α : Type) where
  queueCapacity : Nat
  /-- Somebody still holds the pool and may call it. -/
  held : Bool
  /-- The pool was declared closed. -/
  closed : Bool
  /-- The queue still has its sending end. -/
  sender : Bool
  /-- The jobs in the queue, the first to leave first. -/
  queue : List (Nat × α)
  /-- The jobs that went with the last thread. -/
  abandoned : List (Nat × α)
  /-- The count of waiting jobs that observers see. -/
  waiting : Int
  /-- Jobs that failed. -/
  failures : Nat
  threads : List (Thread α)
  calls : Register (Call α)

/-- A decision that moves a pool on. -/
inductive Move (α : Type) where
  /-- Somebody calls. -/
  | invoke (request : Request α)
  /-- A call goes on by itself. -/
  | proceed (call : Nat)
  /-- A thread goes on by itself: it begins, takes the first job, counts, stops, or
  is brought down. -/
  | work (thread : Nat)
  /-- The job that a thread runs ends. -/
  | finish (thread : Nat) (outcome : Outcome)
  /-- The last holder lets the pool go, which closes it. -/
  | letGo
deriving DecidableEq, Repr

/-- The waiting jobs that a thread brings to a pool without a queue size of its
own. -/
def jobsPerThread : Nat := 100

namespace System

variable {α : Type}

/-- A pool before its threads have begun. -/
def fresh (threads queueCapacity : Nat) : System α where
  queueCapacity := queueCapacity
  held := true
  closed := false
  sender := true
  queue := []
  abandoned := []
  waiting := 0
  failures := 0
  threads := List.replicate threads .created
  calls := .empty

/-- A thread moves to another stage. -/
def setThread (system : System α) (thread : Nat) (stage : Thread α) : System α :=
  { system with threads := system.threads.set thread stage }

/-- A call moves to another stage. -/
def setCall (system : System α) (call : Nat) (stage : Call α) : System α :=
  { system with calls := system.calls.put call stage }

/-- A call returns. -/
def reply (system : System α) (call : Nat) (answer : Answer) : System α × List Event :=
  ({ system with calls := system.calls.remove call }, [.returned call answer])

/-- No call holds the sending end of the queue. -/
def senderFree (system : System α) : Bool := !system.calls.values.any Call.holdsSender

/-- No thread is left that could receive a job. -/
def deserted (system : System α) : Bool := system.threads.all Thread.isOver

/-- The first section of a call. -/
def enter (system : System α) (call : Nat) : Request α → System α × List Event
  | .submit job =>
    if system.closed then system.reply call (.refused .closed)
    else (system.setCall call (.reaching job), [])
  | .close =>
    if system.closed then system.reply call .done
    else ({ system with closed := true }.setCall call .closing, [.closing])

/-- Why a counted job cannot be sent. -/
def obstacle? (system : System α) : Option Refusal :=
  if system.deserted then some .closed
  else if system.queueCapacity ≤ system.queue.length then
    some (.queueFull system.queueCapacity)
  else none

/-- A call goes on by itself. -/
def proceed (system : System α) (call : Nat) : Call α → Option (System α × List Event)
  | .entering request => some (system.enter call request)
  | .reaching job =>
    if !system.senderFree then none
    else if system.sender then some (system.setCall call (.counting job), [])
    else some (system.reply call (.refused .closed))
  | .counting job =>
    some ({ system with waiting := system.waiting + 1 }.setCall call (.sending job), [])
  | .sending job =>
    match system.obstacle? with
    | some refusal => some (system.setCall call (.uncounting refusal), [])
    | none =>
      let sent : System α := { system with queue := system.queue ++ [(call, job)] }
      let (replied, events) := sent.reply call .done
      some (replied, .queued call :: events)
  | .uncounting refusal =>
    some ({ system with waiting := system.waiting - 1 }.reply call (.refused refusal))
  | .closing =>
    if system.senderFree then some ({ system with sender := false }.reply call .done) else none

/-- An idle thread takes the first job, or stops when no job can come any more. -/
def takeFirst (system : System α) (thread : Nat) : Option (System α × List Event) :=
  match system.queue with
  | (number, job) :: rest =>
    some ({ system with queue := rest }.setThread thread (.received number job),
      [.received thread number])
  | [] =>
    if system.sender then none
    else some (system.setThread thread .stopped, [.threadStopped thread])

/-- The queue goes when no thread is left. -/
def desert (system : System α) : System α :=
  if system.deserted then
    { system with queue := [], abandoned := system.abandoned ++ system.queue }
  else system

/-- A thread goes on by itself. -/
def work (system : System α) (thread : Nat) : Thread α → Option (System α × List Event)
  | .created => some (system.setThread thread .idle, [.threadStarted thread])
  | .idle => system.takeFirst thread
  | .received number job =>
    some ({ system with waiting := system.waiting - 1 }.setThread thread (.running number job),
      [.began thread number])
  | .failed number failure =>
    some ({ system with failures := system.failures + 1 }.setThread thread
        (.afterFailure failure),
      [.failed thread number failure.message])
  | .collapsing => some ((system.setThread thread .lost).desert, [.threadLost thread])
  | .running _ _ | .stopped | .lost => none

/-- The job that a thread runs ends. -/
def finish (system : System α) (thread : Nat) (outcome : Outcome) :
    Thread α → Option (System α × List Event)
  | .running number _ =>
    match outcome with
    | .returned => some (system.setThread thread .idle, [.ended thread number])
    | .failed failure =>
      some (system.setThread thread (.failed number failure), [.ended thread number])
  | _ => none

/-- Make a move. There is no result when the move is not possible. -/
def step (system : System α) : Move α → Option (System α × List Event)
  | .invoke request =>
    if system.held then
      some ({ system with calls := system.calls.add (.entering request) },
        [.invoked system.calls.next])
    else none
  | .proceed call => (system.calls.get? call).bind (system.proceed call)
  | .work thread => system.threads[thread]?.bind (system.work thread)
  | .finish thread outcome => system.threads[thread]?.bind (system.finish thread outcome)
  | .letGo =>
    if system.held && system.calls.isEmpty then
      some ({ system with held := false, closed := true, sender := false },
        if system.closed then [] else [.closing])
    else none

/-- Make moves one after the other. -/
def play (system : System α) : List (Move α) → Option (System α × List Event)
  | [] => some (system, [])
  | move :: moves => do
    let (next, events) ← system.step move
    let (last, later) ← next.play moves
    return (last, events ++ later)

end System

end Standby.Pool
