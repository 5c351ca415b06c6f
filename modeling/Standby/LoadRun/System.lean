import Standby.Hosted.System

/-!
# Load runs

A load run hands a budget of dispatches to a dispatcher over a pool. The work
comes in chains. A turn of a chain takes one dispatch from the budget, hands the
next turn to the dispatcher, counts which way it went, and sends a signal. A chain
ends when the budget is empty or its next turn is refused.

The main thread starts the dispatcher, takes the first turn of every chain itself,
and watches the signals. When it has seen as many as the budget, or gives up, it
stops the dispatcher, closes the pool and waits for its threads.
-/

namespace Standby.LoadRun

open Dispatcher (WorkerId Task)
open Executor (Refusal)

/-- Who takes a turn. -/
inductive Runner where
  /-- The main thread, for the first turn of a chain. -/
  | main
  | task (task : Task)
deriving DecidableEq, Repr

/-- How far a turn is. -/
inductive Progress where
  /-- It is about to take from the budget. -/
  | claiming
  /-- It has taken and is about to hand the next turn to the dispatcher. -/
  | offering
  | calling (call : Nat)
  /-- It knows which way the next turn went and is about to count it. -/
  | answered (answer : Dispatcher.Answer)
  /-- It is about to send its signal. -/
  | signalling
  | spent
deriving DecidableEq, Repr

/-- A turn of a chain. -/
structure Turn where
  runner : Runner
  progress : Progress
deriving DecidableEq, Repr

/-- What the main thread is doing. -/
inductive Main where
  | starting
  | callingStart (call : Nat)
  /-- It has this many chains still to begin. -/
  | seeding (chains : Nat)
  | watching
  | stopping
  | callingStop (call : Nat)
  | closing
  | callingClose (call : Nat)
  | joining
  | finished
deriving DecidableEq, Repr

/-- A load run. -/
structure System where
  host : Hosted.System
  /-- The budget at the beginning. -/
  loops : Nat
  chains : Nat
  /-- What is left of the budget. -/
  remaining : Nat
  /-- Turns that went to a reserved worker. -/
  reserved : Nat
  /-- Turns that went to the pool. -/
  pooled : Nat
  /-- Turns that were refused. -/
  failed : Nat
  /-- Signals that were sent and not seen. -/
  unseen : Nat
  /-- Signals that the main thread has seen. -/
  seen : Nat
  turns : List Turn
  main : Main

/-- A move of a load run. -/
inductive Move where
  /-- A turn begins. -/
  | begin (runner : Runner)
  /-- A turn goes on by itself. -/
  | advance (runner : Runner)
  | host (move : Hosted.Move)
  /-- The main thread sees a signal. -/
  | watch
  /-- The main thread gives up watching. -/
  | giveUp
  /-- The main thread goes on by itself. -/
  | proceed
deriving DecidableEq, Repr

/-- Something that happens in a load run. -/
inductive Event where
  | host (event : Hosted.Event)
  /-- A turn found the budget empty. -/
  | exhausted (runner : Runner)
  | dispatchFailed (refusal : Refusal)
  | timedOut (seen loops : Nat)
deriving DecidableEq, Repr

namespace System

/-- A load run before anything has happened. -/
def fresh (host : Hosted.System) (loops chains : Nat) : System where
  host := host
  loops := loops
  chains := chains
  remaining := loops
  reserved := 0
  pooled := 0
  failed := 0
  unseen := 0
  seen := 0
  turns := []
  main := .starting

/-- The progress of a turn. -/
def progress? (system : System) (runner : Runner) : Option Progress :=
  (system.turns.find? (·.runner = runner)).map (·.progress)

/-- A turn goes on. -/
def setProgress (system : System) (runner : Runner) (progress : Progress) : System :=
  let change (turn : Turn) : Turn :=
    if turn.runner = runner then { turn with progress := progress } else turn
  { system with turns := system.turns.map change }

/-- A turn is done with. -/
def removeTurn (system : System) (runner : Runner) : System :=
  { system with turns := system.turns.filter (·.runner != runner) }

/-- The task that a worker executes. -/
def taskOf? (system : System) (worker : WorkerId) : Option Task :=
  match system.host.dispatcher.workers[worker]?.map Dispatcher.Worker.stage with
  | some (.serving _ _ (.executing task)) => some task
  | _ => none

/-- The task that a thread of the pool runs. -/
def pooledTask? (system : System) (thread : Nat) : Option Task :=
  match system.host.pool.threads[thread]? with
  | some (.running _ (.task task)) => some task
  | _ => none

/-- A worker or a thread of the pool runs the task. -/
def isRunning (system : System) (task : Task) : Bool :=
  (List.range system.host.dispatcher.workers.length).any
      (fun worker => system.taskOf? worker == some task)
    || system.host.runs (.task task)

/-- The turn of a task is spent. -/
def isOver (system : System) (task : Task) : Bool :=
  system.progress? (.task task) == some .spent

/-- A turn begins when its task runs, or when the main thread has a chain to
begin. -/
def beginTurn (system : System) (runner : Runner) : Option System :=
  let begun : System := { system with turns := ⟨runner, .claiming⟩ :: system.turns }
  if (system.progress? runner).isSome then none
  else
    match runner with
    | .task task => if system.isRunning task then some begun else none
    | .main =>
      match system.main with
      | .seeding (_ + 1) => some begun
      | _ => none

/-- The dispatcher has answered a call. -/
def noteAnswer (system : System) (call : Nat) (answer : Dispatcher.Answer) : System :=
  let change (turn : Turn) : Turn :=
    if turn.progress = .calling call then { turn with progress := .answered answer } else turn
  let main :=
    if system.main = .callingStart call then .seeding system.chains
    else if system.main = .callingStop call then .closing
    else system.main
  { system with turns := system.turns.map change, main := main }

/-- The pool has answered a call. -/
def notePoolAnswer (system : System) (call : Nat) : System :=
  if system.main = .callingClose call then { system with main := .joining } else system

/-- Note something that happened in the dispatcher or the pool. -/
def note (system : System) : Hosted.Event → System
  | .dispatcher (.returned call answer) => system.noteAnswer call answer
  | .pool (.returned call _) => system.notePoolAnswer call
  | _ => system

/-- A move of the dispatcher or the pool. -/
def moveHost (system : System) (move : Hosted.Move) : Option (System × List Event) :=
  (system.host.step move).map fun (host, events) =>
    (events.foldl note { system with host := host }, events.map .host)

/-- A task ends when its turn is over, and always returns. -/
def endTask (system : System) (move : Hosted.Move) (outcome : Outcome) (task : Option Task) :
    Option (System × List Event) :=
  match task with
  | some task =>
    if system.isOver task && outcome == .returned then
      (system.moveHost move).map fun (moved, events) => (moved.removeTurn (.task task), events)
    else none
  | none => system.moveHost move

/-- A move of the dispatcher or the pool that neither calls nor lets go. -/
def allow (system : System) (move : Hosted.Move) : Option (System × List Event) :=
  match move with
  | .dispatcher (.invoke _) | .dispatcher .letGo | .pool (.invoke _) | .pool .letGo => none
  | .dispatcher (.finish worker outcome) => system.endTask move outcome (system.taskOf? worker)
  | .pool (.finish thread outcome) => system.endTask move outcome (system.pooledTask? thread)
  | _ => system.moveHost move

/-- Count which way a turn went. -/
def tally (system : System) (answer : Dispatcher.Answer) : System × List Event :=
  match answer with
  | .accepted => ({ system with reserved := system.reserved + 1 }, [])
  | .refused refusal => ({ system with failed := system.failed + 1 }, [.dispatchFailed refusal])
  | _ => ({ system with pooled := system.pooled + 1 }, [])

/-- A call of the dispatcher is made. -/
def call (system : System) (request : Dispatcher.Request) (next : Nat → System → System) :
    Option (System × List Event) :=
  let call := system.host.dispatcher.calls.next
  (system.moveHost (.dispatcher (.invoke request))).map fun (moved, events) =>
    (next call moved, events)

/-- A turn goes on by itself, unless it waits for an answer. -/
def advance (system : System) (runner : Runner) : Progress → Option (System × List Event)
  | .claiming =>
    if system.remaining = 0 then some (system.setProgress runner .spent, [.exhausted runner])
    else
      some ({ system with remaining := system.remaining - 1 }.setProgress runner .offering, [])
  | .offering =>
    system.call (.offer true) fun call moved => moved.setProgress runner (.calling call)
  | .calling _ => none
  | .answered answer =>
    let (counted, events) := system.tally answer
    some (counted.setProgress runner .signalling, events)
  | .signalling => some ({ system with unseen := system.unseen + 1 }.setProgress runner .spent, [])
  | .spent =>
    match runner, system.main with
    | .main, .seeding (chains + 1) =>
      some ({ system with main := .seeding chains }.removeTurn .main, [])
    | _, _ => none

/-- All threads of the pool have stopped. -/
def isDeserted (system : System) : Bool := system.host.pool.deserted

/-- The main thread goes on by itself. -/
def proceed (system : System) : Main → Option (System × List Event)
  | .starting =>
    system.call .start fun call moved => { moved with main := .callingStart call }
  | .seeding 0 => some ({ system with main := .watching }, [])
  | .watching =>
    if system.loops ≤ system.seen then some ({ system with main := .stopping }, []) else none
  | .stopping => system.call .stop fun call moved => { moved with main := .callingStop call }
  | .closing =>
    let call := system.host.pool.calls.next
    (system.moveHost (.pool (.invoke .close))).map fun (moved, events) =>
      ({ moved with main := .callingClose call }, events)
  | .joining =>
    if system.isDeserted then
      some ({ system with seen := system.seen + system.unseen, unseen := 0, main := .finished }, [])
    else none
  | _ => none

/-- Make a move. There is no result when the move is not possible. -/
def step (system : System) : Move → Option (System × List Event)
  | .begin runner => (system.beginTurn runner).map fun begun => (begun, [])
  | .advance runner => (system.progress? runner).bind (system.advance runner)
  | .host move => system.allow move
  | .watch =>
    if system.main = .watching ∧ system.seen < system.loops ∧ 0 < system.unseen then
      some ({ system with seen := system.seen + 1, unseen := system.unseen - 1 }, [])
    else none
  | .giveUp =>
    if system.main = .watching ∧ system.seen < system.loops then
      some ({ system with main := .stopping }, [.timedOut system.seen system.loops])
    else none
  | .proceed => system.proceed system.main

/-- Make moves one after the other. -/
def play (system : System) : List Move → Option (System × List Event)
  | [] => some (system, [])
  | move :: moves => do
    let (next, events) ← system.step move
    let (last, later) ← next.play moves
    return (last, events ++ later)

end System

end Standby.LoadRun
