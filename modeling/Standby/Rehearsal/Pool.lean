import Standby.Executor.ThreadPerJob
import Standby.Pool.Size
import Standby.Rehearsal.Script

/-!
# Rehearsals of a pool

A script for a pool alone. After each step the threads go on until every job is
done, waits at its gate, or has no thread to run it. At the end all gates are
opened, and the pool is closed.
-/

namespace Standby.Rehearsal

open Executor (Refusal)

/-- One step of a script for a pool. -/
inductive PoolStep where
  | submit (errand : Errand)
  /-- Open the gate of an errand. -/
  | release (label : String)
  | close
  /-- Wait for all threads to stop. -/
  | join
  /-- Let the pool go. -/
  | drop
  | info

/-- The result of a step. -/
inductive PoolResult where
  /-- There is nothing to tell. -/
  | nothing
  | done
  | truth (value : Bool)
  | refused (refusal : Refusal)
  | info (threads queueCapacity : Nat)
deriving DecidableEq, Repr

/-- The report of one step. -/
structure PoolReport where
  result : PoolResult
  /-- The count of waiting jobs and that of failed ones, unless the pool was let
  go. -/
  counts : Option (Int × Nat)
  /-- The errands that were begun, each with its thread. -/
  ran : List (String × Nat)
  /-- The number of errands at their gates. -/
  blocked : Nat
deriving DecidableEq, Repr

/-- A script for a pool. -/
structure PoolScript where
  name : String
  size : Pool.Size
  steps : List PoolStep

/-- The state of a rehearsal. -/
structure PoolBench where
  name : String
  pool : Pool.System Errand
  /-- The labels whose gates are open. -/
  opened : List String
  /-- All gates are open. -/
  allOpen : Bool
  /-- The labels of the gates so far: of the errands with a gate that were
  submitted, also in vain. -/
  gates : List String
  ran : List (String × Nat)
  log : List Log.Event

namespace PoolBench

/-- The gate of an errand is open, or it has none. -/
def mayPass (bench : PoolBench) (errand : Errand) : Bool :=
  bench.allOpen || !errand.blocks || bench.opened.contains errand.label

/-- Note something that happened in the pool. -/
def note (bench : PoolBench) (event : Pool.Event) : PoolBench :=
  match event with
  | .began thread _ =>
    match bench.pool.threads[thread]? with
    | some (.running _ errand) => { bench with ran := bench.ran ++ [(errand.label, thread)] }
    | _ => bench
  | _ =>
    match event.log? bench.name with
    | some entry => { bench with log := bench.log ++ [entry] }
    | none => bench

/-- Make a move of the pool, if it is possible. -/
def perform (bench : PoolBench) (move : Pool.Move Errand) : Option (PoolBench × List Pool.Event) :=
  (bench.pool.step move).map fun (pool, events) =>
    (events.foldl note { bench with pool := pool }, events)

/-- A thread goes on, unless it waits. -/
def continueThread (bench : PoolBench) (thread : Nat) : Option PoolBench :=
  match bench.pool.threads[thread]? with
  | some (.running _ errand) =>
    if bench.mayPass errand then
      (bench.perform (.finish thread errand.outcome)).map (·.1)
    else none
  | _ => (bench.perform (.work thread)).map (·.1)

/-- Let the threads go on until they all wait. -/
def settle : Nat → PoolBench → PoolBench
  | 0, bench => bench
  | fuel + 1, bench =>
    match (List.range bench.pool.threads.length).findSome? bench.continueThread with
    | some next => settle fuel next
    | none => bench

/-- Let a call go on until it returns. A call has fewer than eight sections. -/
def finishCall (bench : PoolBench) (call : Nat) : Nat → PoolBench × PoolResult
  | 0 => (bench, .nothing)
  | fuel + 1 =>
    match bench.perform (.proceed call) with
    | none => (bench, .nothing)
    | some (next, events) =>
      match events.findSome? Pool.Event.answer? with
      | some .done => (next, .done)
      | some (.refused refusal) => (next, .refused refusal)
      | none => finishCall next call fuel

/-- Make a call of the pool, unless it was let go. -/
def call (bench : PoolBench) (request : Pool.Request Errand) : PoolBench × PoolResult :=
  match bench.perform (.invoke request) with
  | none => (bench, .nothing)
  | some (next, _) => next.finishCall bench.pool.calls.next 8

/-- The errands that wait at their gates. -/
def atGates (bench : PoolBench) : List Errand :=
  bench.pool.threads.filterMap fun thread =>
    match thread with
    | .running _ errand => if bench.mayPass errand then none else some errand
    | _ => none

/-- Take a step. -/
def take (bench : PoolBench) : PoolStep → PoolBench × PoolResult
  | .submit errand =>
    if bench.pool.held then
      let gates := if errand.blocks then errand.label :: bench.gates else bench.gates
      { bench with gates := gates }.call (.submit errand)
    else (bench, .nothing)
  | .release label =>
    if bench.gates.contains label then
      ({ bench with opened := label :: bench.opened },
        .truth (bench.atGates.any (·.label == label)))
    else (bench, .nothing)
  | .close => bench.call .close
  | .join => (bench, if bench.pool.held then .done else .nothing)
  | .drop =>
    match bench.perform .letGo with
    | some (next, _) => (next, .done)
    | none => (bench, .nothing)
  | .info =>
    (bench,
      if bench.pool.held then .info bench.pool.threads.length bench.pool.queueCapacity
      else .nothing)

/-- Report a step. -/
def report (bench : PoolBench) (result : PoolResult) : PoolReport where
  result := result
  counts := if bench.pool.held then some (bench.pool.waiting, bench.pool.failures) else none
  ran := bench.ran
  blocked := bench.atGates.length

/-- Take steps one after the other, and report each when everything rests. -/
def play (fuel : Nat) (bench : PoolBench) : List PoolStep → PoolBench × List PoolReport
  | [] => (bench, [])
  | step :: steps =>
    let (taken, result) := { bench with ran := [] }.take step
    let rested := taken.settle fuel
    let (last, reports) := play fuel rested steps
    (last, rested.report result :: reports)

end PoolBench

namespace PoolScript

/-- A bound for the moves of a rehearsal: a thread makes a few, and so does each
job. -/
def fuel (script : PoolScript) : Nat := 8 * (script.steps.length + script.size.threads + 1)

/-- The pool can be set up: its threads can have its name. -/
def isSound (script : PoolScript) : Bool :=
  script.size.threads == 0 || Executor.isThreadName script.name

/-- Play a script, if its pool can be set up. -/
def play (script : PoolScript) : Option (List PoolReport × List Log.Event) :=
  let bench : PoolBench :=
    { name := script.name, pool := script.size.build, opened := [], allOpen := false,
      gates := [], ran := [],
      log := [Pool.created script.name script.size.threads script.size.queueCapacity] }
  let (played, reports) := (bench.settle script.fuel).play script.fuel script.steps
  let closed := ({ played with allOpen := true }.call .close).1
  if script.isSound then some (reports, (closed.settle script.fuel).log) else none

end PoolScript

end Standby.Rehearsal
