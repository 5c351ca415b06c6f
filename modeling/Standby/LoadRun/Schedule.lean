import Standby.LoadRun.System

/-!
# Schedules of a load run

One of the many orders in which a load run can go. The main thread and the threads
of the pool take turns, and each goes on for as long as it can. When nobody can go
on, the main thread gives up watching; when it is not watching, the run is over.

Everything that a schedule does is a move of the load run, so what holds of all
runs holds of this one.
-/

namespace Standby.LoadRun

open Dispatcher (WorkerId Task)

/-- A thread of a load run. -/
inductive Actor where
  | main
  | thread (number : Nat)
deriving DecidableEq, Repr

namespace System

/-- The move that takes a submission on. -/
def submissionMove (system : System) (call : Nat) : Option Move :=
  match system.host.submissions.lookup call with
  | some (.pending poolCall) => some (.host (.pool (.proceed poolCall)))
  | some (.answered refusal) => some (.host (.dispatcher (.answer call refusal)))
  | none => none

/-- The move that takes a call of the dispatcher on. A refused worker loop is
dropped before the call hears of it. -/
def callMove (system : System) (call : Nat) : Option Move :=
  match system.host.dispatcher.calls.get? call with
  | some (.submitting _ worker) =>
    if system.host.isRefused worker then
      if system.host.hasEnded worker then system.submissionMove call
      else some (.host (.dispatcher (.discard worker)))
    else system.submissionMove call
  | some .fallingBack => system.submissionMove call
  | some (.sleeping _) | none => none
  | some _ => some (.host (.dispatcher (.proceed call)))

/-- The move that takes a turn on. A turn that is spent has none, unless the main
thread took it. -/
def turnMove (system : System) (runner : Runner) : Option Move :=
  match system.progress? runner with
  | none => some (.begin runner)
  | some (.calling call) => system.callMove call
  | some .spent => if runner = .main then some (.advance .main) else none
  | some _ => some (.advance runner)

/-- The move of the main thread. -/
def mainMove (system : System) : Option Move :=
  match system.main with
  | .starting | .stopping | .closing | .joining | .seeding 0 => some .proceed
  | .callingStart call | .callingStop call => system.callMove call
  | .callingClose call => some (.host (.pool (.proceed call)))
  | .seeding (_ + 1) => system.turnMove .main
  | .watching => if system.loops ≤ system.seen then some .proceed else some .watch
  | .finished => none

/-- The move of a thread that runs a task: the turn goes on, and then the task
ends. -/
def taskMove (system : System) (task : Task) (finish : Move) : Option Move :=
  if system.isOver task then some finish else system.turnMove (.task task)

/-- The move of a thread that runs a worker loop. -/
def loopMove (system : System) (worker : WorkerId) (finish : Move) : Option Move :=
  match system.host.dispatcher.workers[worker]?.map Dispatcher.Worker.stage with
  | some .queued => some (.host (.dispatcher (.launch worker)))
  | some (.serving _ _ (.executing task)) =>
    system.taskMove task (.host (.dispatcher (.finish worker .returned)))
  | some (.gone _) => some finish
  | _ => some (.host (.dispatcher (.work worker)))

/-- The move of a thread of the pool. -/
def threadMove (system : System) (thread : Nat) : Option Move :=
  let finish : Move := .host (.pool (.finish thread .returned))
  match system.host.pool.threads[thread]? with
  | some (.running _ (.loop worker)) => system.loopMove worker finish
  | some (.running _ (.task task)) => system.taskMove task finish
  | some (.running _ (.other _)) => some finish
  | _ => some (.host (.pool (.work thread)))

/-- The move of an actor. -/
def moveOf (system : System) : Actor → Option Move
  | .main => system.mainMove
  | .thread number => system.threadMove number

/-- The number of threads in the pool. -/
def threads (system : System) : Nat := system.host.pool.threads.length

/-- The actor whose turn comes next. -/
def after (system : System) : Actor → Actor
  | .main => if system.threads = 0 then .main else .thread 0
  | .thread number => if number + 1 < system.threads then .thread (number + 1) else .main

/-- Go on until nobody can. What happens is handed to the given function, the
latest last. The misses count the actors in a row that could not go on. -/
def schedule {α : Type} (record : α → Event → α) :
    Nat → Actor → Nat → System → α → System × α
  | 0, _, _, system, recorded => (system, recorded)
  | fuel + 1, actor, misses, system, recorded =>
    match (system.moveOf actor).bind system.step with
    | some (next, events) =>
      schedule record fuel actor 0 next (events.foldl record recorded)
    | none =>
      if misses ≤ system.threads then
        schedule record fuel (system.after actor) (misses + 1) system recorded
      else
        match system.step .giveUp with
        | some (next, events) =>
          schedule record fuel .main 0 next (events.foldl record recorded)
        | none => (system, recorded)

/-- A bound for the moves of a schedule. A dispatch takes fewer than a hundred
moves, its worker loop included, and between two moves every actor is asked once
at most. -/
def fuel (system : System) : Nat :=
  100 * (system.loops + system.chains + system.threads + 1) * (system.threads + 2)

/-- Play the whole run, and collect what a function finds in the events, the
latest first. -/
def complete {α : Type} (system : System) (find : Event → Option α) : System × List α :=
  let record (found : List α) (event : Event) : List α :=
    match find event with
    | some value => value :: found
    | none => found
  system.schedule record system.fuel .main 0 []

end System

end Standby.LoadRun
