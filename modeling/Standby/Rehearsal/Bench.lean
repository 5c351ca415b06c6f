import Standby.Dispatcher.System
import Standby.Metrics
import Standby.Pool.System
import Standby.Rehearsal.Report
import Standby.Rehearsal.Script

/-!
# Benches

The state of a rehearsal: the dispatcher and its executor, the threads with what
they are in the middle of, and the clock. A thread is a stack of activities. Only
the topmost goes on, and what it ends with is handed to the one below.

Time stands still as long as anything can move.
-/

namespace Standby.Rehearsal

open Duration (Millis)
open Executor (Refusal)
open Dispatcher (WorkerId Task System)

/-- A job of the executor: a worker loop, or a task that fell back. -/
inductive Job where
  | loop (worker : WorkerId)
  | task (task : Task)
deriving DecidableEq, Repr

/-- A job with its number. -/
structure Posted where
  number : Nat
  job : Job
deriving DecidableEq, Repr

/-- What the task of a call does. -/
inductive Assignment where
  | errand (errand : Errand)
  /-- It holds its worker until it is let go. -/
  | hold

/-- What a call is made for. -/
inductive Purpose where
  | plain
  | tryExecute
  | offer (runsDeclined : Bool)
  | execute
  | hold
  | stop
deriving DecidableEq, Repr

/-- What a thread waits for. -/
inductive Awaited where
  | jobOver (number : Nat)
  | nobodyParked
  | time (moment : Millis)
deriving DecidableEq, Repr

/-- Something that a thread is in the middle of. -/
inductive Activity where
  /-- It takes the steps of an errand, or of the script itself. -/
  | steps (task : Option Task) (remaining : List Step) (taken : List (Result × Headcount))
  /-- It makes a call. -/
  | call (call : Nat) (purpose : Purpose)
  /-- It runs a worker loop. -/
  | serve (worker : WorkerId)
  /-- It waits at the gate of a task. -/
  | gate (task : Task)
  /-- It runs a declined task in place. -/
  | inPlace
  /-- It runs a job in the middle of the call that submitted it. -/
  | inline (number call : Nat)
  /-- It runs a job, perhaps as a thread of the pool. -/
  | job (number : Nat) (thread : Option Nat)
  /-- It waits until everything rests, and then reports a result. -/
  | rest (result : Result)
  /-- It waits for something that may need time. -/
  | await (awaited : Awaited) (result : Result)
  /-- It contends: some callers are still to call. -/
  | contend (callers : Nat) (accepted : List Task) (declined : Nat)
  /-- All contenders have called, and it waits until everything rests. -/
  | hold (accepted : List Task) (declined : Nat)
  /-- It lets the tasks go that were held, one by one. -/
  | letGo (held : List Task) (result : Result)

/-- A thread of the rehearsal. -/
inductive Role where
  | script
  | job (number : Nat)
  | stopper (call : Nat)
deriving DecidableEq, Repr

/-- A thread and its activities, the topmost first. -/
structure Strand where
  role : Role
  activities : List Activity

/-- The executor at work. -/
inductive Host where
  | manual (queue : List Posted)
  | inline
  | threads
  | pool (system : Pool.System Posted)

/-- The state of a rehearsal. -/
structure Bench where
  names : Dispatcher.Names
  recordsFaults : Bool
  system : System
  /-- The dispatcher was let go, or will be when nothing is calling it. -/
  dropping : Bool
  host : Host
  /-- The number of the next job. -/
  nextJob : Nat
  /-- The refusals to come. -/
  refusals : List Refusal
  assignments : List (Task × Assignment)
  /-- The labels whose gates are open. -/
  opened : List String
  /-- The held tasks that may go. -/
  released : List Task
  /-- All gates are open. -/
  allOpen : Bool
  strands : List Strand
  /-- The threads that wait for rest or time, the latest first. -/
  waiting : List Role
  /-- The answers that nobody has looked at. -/
  answers : List (Nat × Dispatcher.Answer)
  clock : Millis
  /-- When the idle timeout of a worker fires. -/
  deadlines : List (WorkerId × Millis)
  metrics : Metrics
  reports : List Report
  happenings : Happenings
  debugging : List Log.Event
  /-- The executor broke down, and the script with it. -/
  brokenOff : Bool

namespace Bench

/-- The events of a log that are for debugging. -/
def isDebugging (event : Log.Event) : Bool := Log.Level.debug.rank ≤ event.level.rank

/-- Log an event. -/
def write (bench : Bench) (event : Log.Event) : Bench :=
  if isDebugging event then { bench with debugging := bench.debugging ++ [event] }
  else
    { bench with happenings := { bench.happenings with log := bench.happenings.log ++ [event] } }

/-- A worker begins to wait; its idle timeout fires later. -/
def setDeadline (bench : Bench) (worker : WorkerId) : Bench :=
  match bench.system.workers[worker]? with
  | some ⟨_, .serving (some timeout) _ _⟩ =>
    let others := bench.deadlines.filter (·.1 != worker)
    { bench with deadlines := others ++ [(worker, bench.clock + timeout)] }
  | _ => bench

/-- Note something that happened in the dispatcher. -/
def note (bench : Bench) (event : Dispatcher.Event) : Bench :=
  let bench :=
    match event with
    | .returned call answer => { bench with answers := (call, answer) :: bench.answers }
    | .registered worker | .parkedAgain worker => bench.setDeadline worker
    | .faulted worker message =>
      if bench.recordsFaults then
        let faults := bench.happenings.faults ++ [(worker, message)]
        { bench with happenings := { bench.happenings with faults := faults } }
      else bench.write (Dispatcher.faultReport worker message)
    | _ => bench
  match bench.names.log? event with
  | some entry => bench.write entry
  | none => bench

/-- Make a move of the dispatcher, if it is possible. -/
def perform (bench : Bench) (move : Dispatcher.Move) : Option Bench :=
  (bench.system.step move).map fun (system, events) =>
    events.foldl note { bench with system := system }

/-- Make a move of the dispatcher that is bound to be possible. -/
def performed (bench : Bench) (move : Dispatcher.Move) : Bench := (bench.perform move).getD bench

/-- The beginnings and ends of a pool's threads are left out of the log. -/
def isThreadEvent : Pool.Event → Bool
  | .threadStarted _ | .threadStopped _ => true
  | _ => false

/-- Note something that happened in the pool. -/
def notePool (bench : Bench) (event : Pool.Event) : Bench :=
  if isThreadEvent event then bench
  else
    match event.log? bench.names.executor with
    | some entry => bench.write entry
    | none => bench

/-- Make a move of the pool, if it is possible. -/
def performPool (bench : Bench) (pool : Pool.System Posted) (move : Pool.Move Posted) :
    Option (Bench × Pool.System Posted × List Pool.Event) :=
  (pool.step move).map fun (next, events) =>
    (events.foldl notePool { bench with host := .pool next }, next, events)

/-- Let a call of the pool go on until it returns. A call has fewer than eight
sections. -/
def finishPoolCall (bench : Bench) (pool : Pool.System Posted) (call : Nat) :
    Nat → Bench × Option Pool.Answer
  | 0 => (bench, none)
  | fuel + 1 =>
    match bench.performPool pool (.proceed call) with
    | none => (bench, none)
    | some (bench, next, events) =>
      match events.findSome? Pool.Event.answer? with
      | some answer => (bench, some answer)
      | none => finishPoolCall bench next call fuel

/-- Make a call of the pool. -/
def callPool (bench : Bench) (pool : Pool.System Posted) (request : Pool.Request Posted) :
    Bench × Option Pool.Answer :=
  match bench.performPool pool (.invoke request) with
  | none => (bench, none)
  | some (bench, next, _) => bench.finishPoolCall next pool.calls.next 8

/-- What the task of a call does. -/
def assignment? (bench : Bench) (task : Task) : Option Assignment :=
  bench.assignments.lookup task

/-- The label of a task that stands in reports. -/
def label? (bench : Bench) (task : Task) : Option String :=
  match bench.assignment? task with
  | some (.errand errand) => some errand.label
  | _ => none

/-- A task is dropped unrun. -/
def dropTask (bench : Bench) (task : Task) : Bench :=
  match bench.label? task with
  | some label =>
    let dropped := bench.happenings.dropped ++ [label]
    { bench with happenings := { bench.happenings with dropped := dropped } }
  | none => bench

/-- A job is dropped unrun. -/
def dropJob (bench : Bench) : Job → Bench
  | .loop worker => bench.performed (.discard worker)
  | .task task => bench.dropTask task

/-- The gate of a task is open. -/
def isOpen (bench : Bench) (task : Task) : Bool :=
  bench.allOpen ||
    match bench.assignment? task with
    | some (.errand errand) => bench.opened.contains errand.label
    | _ => bench.released.contains task

/-- The jobs in the queue. -/
def queue (bench : Bench) : List Posted :=
  match bench.host with
  | .manual queue => queue
  | _ => []

/-- What an observer sees of the dispatcher, unless it was let go. -/
def snapshot? (bench : Bench) : Option Dispatcher.Snapshot :=
  if bench.dropping then none else some bench.system.snapshot

/-- The numbers of workers and of waiting jobs. -/
def headcount (bench : Bench) : Headcount where
  workers := bench.snapshot?.map fun snapshot =>
    (snapshot.available, snapshot.pending, snapshot.starting)
  jobs := bench.queue.length

/-- The job that activities belong to. -/
def jobOf : List Activity → Option Nat
  | [] => none
  | .inline number _ :: _ | .job number _ :: _ => some number
  | _ :: below => jobOf below

/-- Put the activities of a thread in place. -/
def setActivities (bench : Bench) (role : Role) (activities : List Activity) : Bench :=
  let replace (strand : Strand) : Strand :=
    if strand.role = role then { strand with activities := activities } else strand
  { bench with strands := bench.strands.map replace }

/-- A thread begins to wait. -/
def wait (bench : Bench) (role : Role) (activities : List Activity) : Bench :=
  { bench.setActivities role activities with waiting := role :: bench.waiting }

/-- A thread ends. -/
def removeStrand (bench : Bench) (role : Role) : Bench :=
  { bench with strands := bench.strands.filter (·.role != role) }

/-- A new thread. -/
def addStrand (bench : Bench) (role : Role) (activities : List Activity) : Bench :=
  { bench with strands := bench.strands ++ [⟨role, activities⟩] }

/-- The activities with which a task begins. It reports that it is run and waits
at its gate, if it has one and belongs to a job. -/
def arrive (bench : Bench) (task : Task) (below : List Activity) : Bench × List Activity :=
  match bench.assignment? task with
  | some (.errand errand) =>
    let ran := bench.happenings.ran ++ [⟨errand.label, jobOf below⟩]
    let steps := Activity.steps (some task) errand.steps []
    ({ bench with happenings := { bench.happenings with ran := ran } },
      if errand.blocks && (jobOf below).isSome then .gate task :: steps :: below
      else steps :: below)
  | _ => (bench, .gate task :: .steps (some task) [] [] :: below)

/-- The activities with which a job begins. -/
def begin (bench : Bench) (job : Job) (below : List Activity) : Bench × List Activity :=
  match job with
  | .loop worker => (bench, .serve worker :: below)
  | .task task => bench.arrive task below

/-- A job begins on a thread of its own. -/
def spawn (bench : Bench) (posted : Posted) (thread : Option Nat) : Bench :=
  let (bench, activities) := bench.begin posted.job [.job posted.number thread]
  bench.addStrand (.job posted.number) activities

/-- A thread is running a job. -/
def isJob (strand : Strand) : Bool :=
  match strand.role with
  | .job _ => true
  | _ => false

/-- A thread is stopping the dispatcher. -/
def isStopper (strand : Strand) : Bool :=
  match strand.role with
  | .stopper _ => true
  | _ => false

/-- Report the result of a step of the script. -/
def report (bench : Bench) (result : Result) : Bench :=
  let report : Report :=
    { result := result
      snapshot := bench.snapshot?
      queued := bench.queue.map (·.number)
      running := bench.strands.countP isJob
      stopping := bench.strands.countP isStopper
      happenings := bench.happenings }
  { bench with reports := bench.reports ++ [report], happenings := .none }

end Bench

end Standby.Rehearsal
