import Standby.Rehearsal.Step

/-!
# Rehearsals

A script is played on a bench. Whatever can move moves; when nothing can, the
thread that began to wait last goes on; and when it waits for something else than
rest, time passes until the next idle timeout fires.

After the script all gates are opened, the dispatcher is let go, and the jobs that
are still queued are dropped.
-/

namespace Standby.Rehearsal

open Dispatcher (WorkerId Task)

namespace Bench

/-- The dispatcher is let go as soon as nothing is calling it. -/
def letGo (bench : Bench) : Option Bench :=
  if bench.dropping then bench.perform .letGo else none

/-- A thread of the pool goes on; a job that begins gets a thread of the
rehearsal. -/
def continueThread (bench : Bench) (pool : Pool.System Posted) (thread : Nat) : Option Bench :=
  (bench.performPool pool (.work thread)).map fun (moved, next, _) =>
    match next.threads[thread]? with
    | some (.running _ posted) => moved.spawn posted (some thread)
    | _ => moved

/-- Some thread of the pool goes on. -/
def continuePool (bench : Bench) : Option Bench :=
  match bench.host with
  | .pool pool => (List.range pool.threads.length).findSome? (bench.continueThread pool)
  | _ => none

/-- A thread is in the middle of a call. -/
def isCalling (strand : Strand) : Bool :=
  match strand.activities with
  | .call _ _ :: _ => true
  | _ => false

/-- Something that can move moves. Calls go first, so that a caller waits before
the task that it has handed over does anything. -/
def move (bench : Bench) : Option Bench :=
  bench.letGo <|> (bench.strands.filter isCalling).findSome? bench.progress
    <|> bench.strands.findSome? bench.progress <|> bench.continuePool

/-- The job that waits at the gate of a task. -/
def jobAtGate (bench : Bench) (task : Task) : Option Nat :=
  bench.strands.findSome? fun strand =>
    match strand.activities with
    | .gate other :: below => if other = task then jobOf below else none
    | _ => none

/-- The held tasks with their jobs, in the order of the jobs. -/
def heldJobs (bench : Bench) (accepted : List Task) : List (Nat × Task) :=
  let held := accepted.filterMap fun task => (bench.jobAtGate task).map fun job => (job, task)
  held.mergeSort fun left right => left.1 ≤ right.1

/-- What was waited for has come about. -/
def satisfied (bench : Bench) : Awaited → Bool
  | .jobOver number => !bench.strands.any (·.role = .job number)
  | .nobodyParked => bench.system.roster.parked.isEmpty
  | .time moment => moment ≤ bench.clock

/-- Everything rests, and the thread that began to wait last goes on. -/
def resume (bench : Bench) : Option Bench := do
  let role ← bench.waiting.head?
  let strand ← bench.strands.find? (·.role = role)
  match strand.activities with
  | .rest result :: .steps task remaining taken :: below =>
    let woken := { bench with waiting := bench.waiting.tail }
    match task with
    | none => some ((woken.report result).setActivities role (.steps none remaining [] :: below))
    | some _ =>
      let taken := taken ++ [(result, woken.headcount)]
      some (woken.setActivities role (.steps task remaining taken :: below))
  | .await awaited result :: below =>
    if bench.satisfied awaited then some (bench.setActivities role (.rest result :: below))
    else none
  | .hold accepted declined :: below =>
    let held := bench.heldJobs accepted
    let result : Result :=
      .contention accepted.length declined (held.map (·.1)) bench.headcount
    some (bench.setActivities role (.letGo (held.map (·.2)) result :: below))
  | .letGo (task :: held) result :: below =>
    some ({ bench with released := task :: bench.released }.setActivities role
      (.letGo held result :: below))
  | .letGo [] result :: below => some (bench.setActivities role (.rest result :: below))
  | _ => none

/-- The next idle timeout that can fire. -/
def nextDeadline (bench : Bench) : Option (WorkerId × Duration.Millis) :=
  let due := bench.deadlines.filter fun deadline => (bench.perform (.expire deadline.1)).isSome
  (due.mergeSort fun left right => left.2 ≤ right.2).head?

/-- The moment up to which the thread that began to wait last lets time pass. -/
def bedtime (bench : Bench) : Option Duration.Millis := do
  let role ← bench.waiting.head?
  let strand ← bench.strands.find? (·.role = role)
  match strand.activities with
  | .await (.time moment) _ :: _ => some moment
  | _ => none

/-- Time passes until an idle timeout fires, or until a sleeper wakes. Without the
script it stands still. -/
def passTime (bench : Bench) : Option Bench :=
  if !bench.strands.any (·.role = .script) then none
  else
    match bench.nextDeadline, bench.bedtime with
    | some (worker, moment), bedtime =>
      if bedtime.any (· < moment) then some { bench with clock := bedtime.getD bench.clock }
      else { bench with clock := max bench.clock moment }.perform (.expire worker)
    | none, some bedtime => some { bench with clock := bedtime }
    | none, none => none

/-- Go on until nothing is left to do. -/
def play : Nat → Bench → Bench
  | 0, bench => bench
  | fuel + 1, bench =>
    match bench.move <|> bench.resume <|> bench.passTime with
    | some next => play fuel next
    | none => bench

/-- Open all gates. -/
def openAll (bench : Bench) : Bench := { bench with allOpen := true }

/-- Let the dispatcher go. -/
def abandon (bench : Bench) : Bench := { bench with dropping := true }

/-- Drop the jobs that are still queued. -/
def dropQueue (bench : Bench) : Bench :=
  let emptied :=
    match bench.host with
    | .manual _ => { bench with host := .manual [] }
    | _ => bench
  bench.queue.foldl (fun bench posted => bench.dropJob posted.job) emptied

end Bench

namespace Script

/-- The executor before the first step. -/
def host (script : Script) : Host :=
  match script.stage with
  | .manual => .manual []
  | .inline _ => .inline
  | .threads _ => .threads
  | .pool _ threads queueCapacity => .pool (.fresh threads queueCapacity)

/-- The bench before the first step. -/
def bench (script : Script) : Bench where
  names := ⟨script.plan.name, script.stage.name⟩
  recordsFaults := script.recordsFaults
  system := script.plan.build
  dropping := false
  host := script.host
  nextJob := 0
  refusals := []
  assignments := []
  opened := []
  released := []
  allOpen := false
  strands := [⟨.script, [.steps none script.steps []]⟩]
  waiting := []
  answers := []
  clock := 0
  deadlines := []
  metrics := []
  reports := []
  happenings := .none
  debugging := []
  brokenOff := !script.stage.isSound

/-- The threads of the executor. -/
def threads (script : Script) : Nat :=
  match script.stage with
  | .pool _ threads _ => threads
  | _ => 0

/-- A bound for the moves of a rehearsal. Every call leads to one worker loop and
one job at most, and these end after a few dozen moves. -/
def fuel (script : Script) : Nat := 200 * (weightOfSteps script.steps + script.threads + 8)

/-- Play a script. -/
def play (script : Script) : Record :=
  let played := script.bench.play script.fuel
  let reopened := ({ played with happenings := .none }.openAll).play script.fuel
  let abandoned := reopened.abandon.play script.fuel
  let last := abandoned.dropQueue.play script.fuel
  { steps := played.reports
    stalled := played.strands.any (·.role = .script)
    brokenOff := played.brokenOff
    droppedAtEnd := last.happenings.dropped.mergeSort fun left right => decide (left ≤ right)
    debugging := last.debugging }

end Script

end Standby.Rehearsal
