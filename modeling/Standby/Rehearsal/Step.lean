import Standby.Rehearsal.Bench

/-!
# Steps of a rehearsal

What a thread does when it takes a step of a script, goes on with a call, or
comes to the end of a task. Nothing here waits: a thread that has to wait says
what for, and the rehearsal goes on with the others.
-/

namespace Standby.Rehearsal

open Dispatcher (WorkerId Task Request)

namespace Bench

/-- A step has a result, which is reported when everything rests. -/
def conclude (bench : Bench) (role : Role) (result : Result) (below : List Activity) : Bench :=
  bench.wait role (.rest result :: below)

/-- A call is made, unless the dispatcher was let go. -/
def makeCall (bench : Bench) (role : Role) (request : Request) (purpose : Purpose)
    (assignment : Option Assignment) (below : List Activity) : Bench :=
  if bench.dropping then bench.conclude role .nothing below
  else
    let call := bench.system.calls.next
    let assignments := assignment.toList.map fun assignment => (call, assignment)
    let invoked := bench.performed (.invoke request)
    { invoked with assignments := assignments ++ invoked.assignments }.setActivities role
      (.call call purpose :: below)

/-- The dispatcher is stopped from a thread of its own. -/
def makeStop (bench : Bench) (role : Role) (below : List Activity) : Bench :=
  if bench.dropping then bench.conclude role .nothing below
  else
    let call := bench.system.calls.next
    ((bench.performed (.invoke .stop)).addStrand (.stopper call) [.call call .stop]).conclude role
      .nothing below

/-- A job of the queue is taken out of it. -/
def takeJob (bench : Bench) (index : Nat) : Option (Bench × Posted) :=
  match bench.host with
  | .manual queue =>
    queue[index]?.map fun posted => ({ bench with host := .manual (queue.eraseIdx index) }, posted)
  | _ => none

/-- A task waits at a gate with the given label. -/
def isWaiting (bench : Bench) (label : String) : Bool :=
  bench.strands.any fun strand =>
    match strand.activities with
    | .gate task :: _ => bench.label? task == some label
    | _ => false

/-- There is a gate with the given label: some step brought a task that has one. -/
def hasGate (bench : Bench) (label : String) : Bool :=
  bench.assignments.any fun (_, assignment) =>
    match assignment with
    | .errand errand => errand.blocks && errand.label == label
    | _ => false

/-- The result of asking for the dispatcher's state. -/
def infoResult (bench : Bench) : Result :=
  match bench.snapshot? with
  | some snapshot => .info bench.names.dispatcher bench.system.roster.idleTimeout snapshot
  | none => .nothing

/-- The result of asking for the state of the pool. -/
def poolResult (bench : Bench) : Result :=
  match bench.host with
  | .pool pool => .pool pool.waiting pool.threads.length pool.queueCapacity
  | _ => .nothing

/-- Observe the dispatcher in the metrics. -/
def observe (bench : Bench) : Bench × Result :=
  match bench.snapshot? with
  | some snapshot =>
    let metrics := bench.metrics.observe bench.names.dispatcher snapshot
    ({ bench with metrics := metrics }, .text metrics.exposition)
  | none => (bench, .nothing)

/-- Close the pool. -/
def closePool (bench : Bench) : Bench × Result :=
  match bench.host with
  | .pool pool => ((bench.callPool pool .close).1, .done)
  | _ => (bench, .nothing)

/-- Take a step. -/
def take (bench : Bench) (role : Role) (below : List Activity) : Step → Bench
  | .start => bench.makeCall role .start .plain none below
  | .setIdleTimeout timeout => bench.makeCall role (.setIdleTimeout timeout) .plain none below
  | .stop => bench.makeStop role below
  | .tryExecute errand =>
    bench.makeCall role (.offer false) .tryExecute (some (.errand errand)) below
  | .offer errand runsDeclined =>
    bench.makeCall role (.offer false) (.offer runsDeclined) (some (.errand errand)) below
  | .execute errand => bench.makeCall role (.offer true) .execute (some (.errand errand)) below
  | .run index joins =>
    match bench.takeJob index with
    | some (taken, posted) =>
      let result := Result.job posted.number
      let waiting := if joins then .await (.jobOver posted.number) result else .rest result
      (taken.spawn posted none).wait role (waiting :: below)
    | none => bench.conclude role .nothing below
  | .discard index =>
    match bench.takeJob index with
    | some (taken, posted) =>
      (taken.dropJob posted.job).conclude role (.job posted.number) below
    | none => bench.conclude role .nothing below
  | .refuse count refusal =>
    let refusals := bench.refusals ++ List.replicate count refusal
    { bench with refusals := refusals }.conclude role .done below
  | .release label =>
    if bench.hasGate label then
      { bench with opened := label :: bench.opened }.conclude role
        (.truth (bench.isWaiting label)) below
    else bench.conclude role .nothing below
  | .sleep millis => bench.wait role (.await (.time (bench.clock + millis)) .done :: below)
  | .join => bench.wait role (.await .nobodyParked (.truth true) :: below)
  | .contend callers =>
    if bench.dropping then bench.conclude role .nothing below
    else bench.setActivities role (.contend callers [] 0 :: below)
  | .info => bench.conclude role bench.infoResult below
  | .metrics =>
    let (observed, result) := bench.observe
    observed.conclude role result below
  | .closePool =>
    let (closed, result) := bench.closePool
    closed.conclude role result below
  | .poolInfo => bench.conclude role bench.poolResult below
  | .drop =>
    if bench.dropping then bench.conclude role .nothing below
    else { bench with dropping := true }.conclude role .done below

/-- Hand the outcome of a task or job to the activity that ran it. -/
def deliver (bench : Bench) (role : Role) (outcome : Outcome) (below : List Activity) : Bench :=
  match below with
  | .serve worker :: _ => (bench.performed (.finish worker outcome)).setActivities role below
  | .inPlace :: rest => bench.conclude role (.declinedRan (outcome == .returned)) rest
  | .inline _ call :: rest => (bench.performed (.answer call none)).setActivities role rest
  | .job _ thread :: _ =>
    let ended := bench.removeStrand role
    match ended.host, thread with
    | .pool pool, some thread =>
      match ended.performPool pool (.finish thread outcome) with
      | some (finished, _, _) => finished
      | none => ended
    | _, _ => ended
  | _ => bench.setActivities role below

/-- A task comes to its end. -/
def endTask (bench : Bench) (role : Role) (task : Task) (taken : List (Result × Headcount))
    (below : List Activity) : Bench :=
  match bench.assignment? task with
  | some (.errand errand) =>
    let nested :=
      if errand.steps.isEmpty then bench.happenings.nested
      else bench.happenings.nested ++ [⟨errand.label, taken⟩]
    { bench with happenings := { bench.happenings with nested := nested } }.deliver role
      errand.outcome below
  | _ => bench.deliver role .returned below

/-- What a thread is in the middle of fails, up to a task that it runs in place. If
there is none, the script breaks off. -/
def unwind (bench : Bench) (role : Role) : List Activity → Bench
  | [] => { bench.removeStrand role with brokenOff := true }
  | .inPlace :: below => bench.conclude role (.declinedRan false) below
  | _ :: below => bench.unwind role below

/-- A job is submitted in the middle of a call. -/
def submit (bench : Bench) (role : Role) (call : Nat) (job : Job) (activities : List Activity) :
    Bench :=
  match bench.refusals with
  | refusal :: refusals =>
    ({ bench with refusals := refusals }.dropJob job).performed (.answer call (some refusal))
  | [] =>
    let posted : Posted := ⟨bench.nextJob, job⟩
    let numbered := { bench with nextJob := bench.nextJob + 1 }
    match numbered.host with
    | .manual queue =>
      { numbered with host := .manual (queue ++ [posted]) }.performed (.answer call none)
    | .inline =>
      let (begun, running) := numbered.begin job (.inline posted.number call :: activities)
      begun.setActivities role running
    | .threads =>
      if Executor.isThreadName numbered.names.executor then
        (numbered.spawn posted none).performed (.answer call none)
      else ((numbered.performed (.breakOff call)).dropJob job).unwind role activities
    | .pool pool =>
      match numbered.callPool pool (.submit posted) with
      | (refused, some (.refused refusal)) =>
        (refused.dropJob job).performed (.answer call (some refusal))
      | (accepted, _) => accepted.performed (.answer call none)

/-- A call has returned to the thread that made it. -/
def returned (bench : Bench) (role : Role) (call : Nat) (answer : Dispatcher.Answer)
    (below : List Activity) : Purpose → Bench
  | .plain =>
    match answer with
    | .illegal fault => bench.conclude role (.illegal fault) below
    | _ => bench.conclude role .done below
  | .tryExecute =>
    if answer = .accepted then bench.conclude role (.truth true) below
    else (bench.dropTask call).conclude role (.truth false) below
  | .offer runsDeclined =>
    if answer = .accepted then bench.conclude role (.offered true) below
    else if runsDeclined then
      let (begun, running) := bench.arrive call (.inPlace :: below)
      begun.setActivities role running
    else (bench.dropTask call).conclude role (.offered false) below
  | .execute =>
    match answer with
    | .accepted => bench.conclude role .reserved below
    | .refused refusal => bench.conclude role (.refused refusal) below
    | _ => bench.conclude role .fallback below
  | .hold =>
    match below with
    | .contend callers accepted declined :: rest =>
      let contention :=
        if answer = .accepted then .contend callers (call :: accepted) declined
        else .contend callers accepted (declined + 1)
      bench.setActivities role (contention :: rest)
    | _ => bench.setActivities role below
  | .stop => bench.removeStrand role

/-- Go on with a call. -/
def continueCall (bench : Bench) (role : Role) (call : Nat) (purpose : Purpose)
    (below : List Activity) : Option Bench :=
  let activities := .call call purpose :: below
  match bench.system.calls.get? call with
  | some (.submitting _ worker) => some (bench.submit role call (.loop worker) activities)
  | some .fallingBack => some (bench.submit role call (.task call) activities)
  | some _ => bench.perform (.proceed call)
  | none =>
    (bench.answers.lookup call).map fun answer =>
      let answers := bench.answers.filter (·.1 != call)
      { bench with answers := answers }.returned role call answer below purpose

/-- Go on with a worker loop. -/
def continueLoop (bench : Bench) (role : Role) (worker : WorkerId) (below : List Activity) :
    Option Bench :=
  match bench.system.workers[worker]?.map Dispatcher.Worker.stage with
  | some .queued => bench.perform (.launch worker)
  | some (.serving _ _ (.executing task)) =>
    let (begun, running) := bench.arrive task (.serve worker :: below)
    some (begun.setActivities role running)
  | some (.gone _) => some (bench.deliver role .returned below)
  | _ => bench.perform (.work worker)

/-- A caller contends. -/
def contend (bench : Bench) (role : Role) (callers : Nat) (accepted : List Task) (declined : Nat)
    (below : List Activity) : Bench :=
  bench.makeCall role (.offer false) .hold (some .hold)
    (.contend callers accepted declined :: below)

/-- Go on with the topmost activity of a thread, unless it has to wait. -/
def progress (bench : Bench) (strand : Strand) : Option Bench :=
  match strand.activities with
  | .steps task (step :: remaining) taken :: below =>
    some (bench.take strand.role (.steps task remaining taken :: below) step)
  | .steps (some task) [] taken :: below => some (bench.endTask strand.role task taken below)
  | .steps none [] _ :: _ => some (bench.removeStrand strand.role)
  | .call call purpose :: below => bench.continueCall strand.role call purpose below
  | .serve worker :: below => bench.continueLoop strand.role worker below
  | .gate task :: below =>
    if bench.isOpen task then some (bench.setActivities strand.role below) else none
  | .contend (callers + 1) accepted declined :: below =>
    some (bench.contend strand.role callers accepted declined below)
  | .contend 0 accepted declined :: below =>
    some (bench.wait strand.role (.hold accepted declined :: below))
  | _ => none

end Bench

end Standby.Rehearsal
