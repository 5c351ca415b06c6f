import Standby.Dispatcher.Event
import Standby.Dispatcher.Snapshot
import Standby.Register

/-!
# Dispatchers as systems

A dispatcher together with its calls and its workers, and the moves that change
them. Every move is one section that runs without interference: a section under
the lock, a count, an announcement, or a decision of somebody outside, such as the
executor's answer or the end of a task. Any order of moves that are possible is a
run, so the runs are exactly the interleavings.

A dispatcher hands a task to the worker that parked last. Without a parked worker
it declines, and creates a worker loop as long as its capacity allows. Stopping
retires all parked workers and waits for the busy ones.
-/

namespace Standby.Dispatcher

open Duration (Millis)
open Executor (Refusal)

/-- A dispatcher with its calls and workers. -/
structure System where
  capacity : Nat
  /-- Somebody still holds the dispatcher and may call it. -/
  held : Bool
  roster : Roster
  tally : Tally
  /-- All worker loops that were ever created, in the order of their numbers. -/
  workers : List Worker
  /-- The calls that have not returned. -/
  calls : Register Call

/-- A decision that moves a dispatcher on. -/
inductive Move where
  /-- Somebody calls. -/
  | invoke (request : Request)
  /-- A call goes on by itself. -/
  | proceed (call : Nat)
  /-- The executor answers a call that submitted something. -/
  | answer (call : Nat) (refusal : Option Refusal)
  /-- The executor breaks down under a call that submitted something, and the call
  with it. -/
  | breakOff (call : Nat)
  /-- The executor runs a worker loop. -/
  | launch (worker : WorkerId)
  /-- The executor drops a worker loop unrun. -/
  | discard (worker : WorkerId)
  /-- A worker goes on by itself. -/
  | work (worker : WorkerId)
  /-- The idle timeout of a worker fires. -/
  | expire (worker : WorkerId)
  /-- The task that a worker executes ends. -/
  | finish (worker : WorkerId) (outcome : Outcome)
  /-- Reporting a failed task fails, and brings the worker down. -/
  | breakDown (worker : WorkerId)
  /-- The last holder lets the dispatcher go. -/
  | letGo
deriving DecidableEq, Repr

/-- An idle timeout of zero means none. -/
def idleTimeout? (timeout : Option Millis) : Option Millis := timeout.bind Duration.positive?

namespace System

/-- A stopped dispatcher that has not been called. -/
def fresh (capacity : Nat) (idleTimeout : Option Millis) : System where
  capacity := capacity
  held := true
  roster := .fresh (idleTimeout? idleTimeout)
  tally := .zero
  workers := []
  calls := .empty

/-- What an observer sees. -/
def snapshot (system : System) : Snapshot where
  phase := system.roster.phase
  capacity := system.capacity
  available := system.roster.available
  pending := system.roster.pending
  starting := system.roster.starting
  tally := system.tally

/-- Count once. -/
def count (system : System) (count : Count) : System :=
  { system with tally := system.tally.add count }

/-- A worker moves to another stage. -/
def setStage (system : System) (worker : WorkerId) (stage : Stage) : System :=
  { system with workers := system.workers.modify worker (Worker.move stage) }

/-- A call moves to another stage. -/
def setCall (system : System) (call : Nat) (stage : Call) : System :=
  { system with calls := system.calls.put call stage }

/-- What lies in the slot of a serving worker. -/
def slot? (system : System) (worker : WorkerId) : Option (Option Handoff) :=
  system.workers[worker]?.bind Worker.slot?

/-- Wake every call that sleeps. -/
def announce (system : System) : System :=
  { system with calls := system.calls.map fun _ call => call.wake }

/-- A call returns. -/
def reply (system : System) (call : Nat) (answer : Answer) : System × List Event :=
  ({ system with calls := system.calls.remove call }, [.returned call answer])

/-- A declined task goes back to the caller or on to the executor. -/
def giveBack (system : System) (call : Nat) (fallsBack : Bool) : System × List Event :=
  if fallsBack then (system.setCall call .fallingBack, [.fellBack call])
  else system.reply call (.declined call)

/-- Decline in the section of the offer itself. -/
def decline (system : System) (call : Nat) (fallsBack : Bool) : System × List Event :=
  (system.count .declined).giveBack call fallsBack

/-- Decline, and create a worker loop if the capacity allows. -/
def declineAndSpawn (system : System) (call : Nat) (fallsBack : Bool) : System × List Event :=
  if system.roster.reserved < system.capacity then
    let worker := system.workers.length
    let created : System :=
      { system with
        roster := system.roster.announce
        workers := system.workers ++ [⟨system.roster.epoch, .queued⟩] }
    (created.setCall call (.submitting fallsBack worker), [.created worker])
  else system.decline call fallsBack

/-- Hand the task of a call to a parked worker with an empty slot. -/
def handOver (system : System) (call : Nat) (worker : WorkerId) (remaining : List WorkerId) :
    System × List Event :=
  let claimed : System :=
    { system with
      roster := system.roster.claim remaining
      workers := system.workers.modify worker (Worker.receive (.task call)) }
  let (replied, events) := (claimed.count .accepted).reply call .accepted
  (replied, .claimed worker call :: events)

/-- The section of an offer. The parked workers are tried from the latest on. One
without a slot is passed over for good, and an occupied slot ends the search; a
dispatcher whose roster is in order meets neither. -/
def offer (system : System) (call : Nat) (fallsBack : Bool) : System × List Event :=
  if system.roster.phase ≠ .running then system.decline call fallsBack
  else
    let absent (worker : WorkerId) : Bool := (system.slot? worker).isNone
    let vanished := (system.roster.parked.takeWhile absent).map Event.vanished
    let present := system.roster.parked.dropWhile absent
    let (next, events) :=
      match present with
      | [] =>
        { system with roster := { system.roster with parked := [] } }.declineAndSpawn call
          fallsBack
      | worker :: remaining =>
        if system.slot? worker = some none then system.handOver call worker remaining
        else
          let kept : System := { system with roster := { system.roster with parked := present } }
          let (declined, events) := kept.decline call fallsBack
          (declined, .slotOccupied worker :: events)
    (next, vanished ++ events)

/-- Begin to stop: every parked worker is told to retire. -/
def retireAll (system : System) : System × List Event :=
  let parked := system.roster.parked
  let told (number : WorkerId) (worker : Worker) : Worker :=
    if number ∈ parked then worker.receive .retire else worker
  ({ system with
      roster := system.roster.retireAll
      workers := system.workers.mapIdx told },
    [.stopping parked.length system.roster.pending])

/-- Set the phase. -/
def setPhase (system : System) (phase : Phase) : System :=
  { system with roster := { system.roster with phase := phase } }

/-- The call that stops the dispatcher is done once no worker is live, and sleeps
until then. -/
def awaitLastWorker (system : System) (call : Nat) : System :=
  if system.roster.live = 0 then (system.setPhase .stopped).setCall call .announcing
  else system.setCall call (.sleeping .lastWorker)

/-- The call that joined a stop returns once the dispatcher is stopped, and sleeps
until then. -/
def awaitStopped (system : System) (call : Nat) : System × List Event :=
  if system.roster.phase = .stopped then system.reply call .done
  else (system.setCall call (.sleeping .stopped), [])

/-- The section of a stop. -/
def stop (system : System) (call : Nat) : System × List Event :=
  match system.roster.phase with
  | .stopped => system.reply call .done
  | .stopping => system.awaitStopped call
  | .starting | .running =>
    let (retiring, events) := system.retireAll
    (retiring.awaitLastWorker call, events)

/-- A section that needs a stopped dispatcher. -/
def whileStopped (system : System) (call : Nat) (operation : String)
    (change : System → System × List Event) : System × List Event :=
  if system.roster.phase = .stopped then
    let (changed, events) := change system
    let (replied, answers) := changed.reply call .done
    (replied, events ++ answers)
  else system.reply call (.illegal ⟨operation, system.roster.phase⟩)

/-- The first section of a call. -/
def enter (system : System) (call : Nat) : Request → System × List Event
  | .start =>
    system.whileStopped call "start" fun stopped =>
      (stopped.setPhase .running, [.started stopped.capacity stopped.roster.idleTimeout])
  | .setIdleTimeout timeout =>
    system.whileStopped call "set idle timeout" fun stopped =>
      ({ stopped with roster := { stopped.roster with idleTimeout := idleTimeout? timeout } }, [])
  | .stop => system.stop call
  | .offer fallsBack => system.offer call fallsBack

/-- A call goes on by itself, unless it sleeps or waits for the executor. -/
def proceed (system : System) (call : Nat) : Call → Option (System × List Event)
  | .entering request => some (system.enter call request)
  | .countingSpawned fallsBack worker =>
    some ((system.count .spawned).setCall call (.countingDeclined fallsBack), [.submitted worker])
  | .countingRefused fallsBack worker refusal =>
    some ((system.count .spawnFailures).setCall call (.countingDeclined fallsBack),
      [.spawnFailed worker refusal])
  | .countingDeclined fallsBack => some (system.decline call fallsBack)
  | .woken .lastWorker => some (system.awaitLastWorker call, [])
  | .woken .stopped => some (system.awaitStopped call)
  | .announcing =>
    let (replied, events) := system.announce.reply call .done
    some (replied, .stopped :: events)
  | .submitting _ _ | .fallingBack | .sleeping _ => none

/-- The executor's answer to a call. -/
def answer (system : System) (call : Nat) (refusal : Option Refusal) :
    Call → Option (System × List Event)
  | .submitting fallsBack worker =>
    match refusal with
    | none => some (system.setCall call (.countingSpawned fallsBack worker), [])
    | some refusal =>
      some (system.setCall call (.countingRefused fallsBack worker refusal), [])
  | .fallingBack =>
    match refusal with
    | none => some (system.reply call .fallback)
    | some refusal => some (system.reply call (.refused refusal))
  | _ => none

/-- A call ends without an answer while the executor has what it submitted. -/
def breakOff (system : System) (call : Nat) (stage : Call) : Option (System × List Event) :=
  stage.submission?.map fun loop? =>
    ({ system with calls := system.calls.remove call }, [.brokenOff call loop?])

/-- The first section of a worker loop. -/
def launch (system : System) (worker : WorkerId) (epoch : Nat) : System × List Event :=
  if system.roster.epoch ≠ epoch then
    (system.setStage worker (.gone .stale), [.stale worker])
  else if system.roster.accepts epoch then
    let registered : System := { system with roster := system.roster.register worker }
    (registered.setStage worker (.serving system.roster.idleTimeout none .waiting),
      [.registered worker])
  else
    let left : System := { system with roster := system.roster.giveBack }
    (left.setStage worker (.gone .turnedAway), [])

/-- A worker loop is dropped unrun. In its own epoch it gives its start slot
back. -/
def discard (system : System) (worker : WorkerId) (epoch : Nat) : System × List Event :=
  let roster := if system.roster.epoch = epoch then system.roster.giveBack else system.roster
  ({ system with roster := roster }.setStage worker (.gone .discarded), [.discarded worker])

/-- A worker takes what lies in its slot. -/
def take (system : System) (worker : WorkerId) (idleTimeout : Option Millis) :
    Handoff → System × List Event
  | .task task =>
    (system.setStage worker (.serving idleTimeout none (.executing task)), [.began worker task])
  | .retire => (system.setStage worker (.serving idleTimeout none .retiring), [])

/-- The section after a task: the worker parks again, or leaves when the
dispatcher no longer accepts it. -/
def conclude (system : System) (worker : WorkerId) (epoch : Nat) (idleTimeout : Option Millis)
    (slot : Option Handoff) (task : Task) : System × List Event :=
  let released := system.roster.release
  if released.accepts epoch then
    ({ system with roster := released.park worker }.setStage worker
        (.serving idleTimeout slot .waiting),
      [.finished worker task, .parkedAgain worker])
  else
    ({ system with roster := released.leave }.setStage worker (.announcing .afterTask),
      [.finished worker task])

/-- The section after an idle timeout: a worker that is still parked leaves, and
one that is not waits for what it was given. -/
def retireIdle (system : System) (worker : WorkerId) (timeout : Millis) (slot : Option Handoff) :
    System × List Event :=
  if worker ∈ system.roster.parked then
    ({ system with roster := system.roster.withdraw worker }.setStage worker
        (.announcing (.idle timeout)),
      [.withdrawn worker])
  else
    (system.setStage worker (.serving (some timeout) slot .awaiting), [.idleCancelled worker])

/-- A serving worker goes on by itself, unless it waits at an empty slot or
executes a task. -/
def serve (system : System) (worker : WorkerId) (epoch : Nat) (idleTimeout : Option Millis)
    (slot : Option Handoff) : Duty → Option (System × List Event)
  | .waiting | .awaiting => slot.map (system.take worker idleTimeout)
  | .expired => idleTimeout.map fun timeout => system.retireIdle worker timeout slot
  | .executing _ => none
  | .failed task failure =>
    some ((system.count .taskFailures).setStage worker
      (.serving idleTimeout slot (.reporting task failure)), [])
  | .reporting task failure =>
    some (system.setStage worker (.afterReport idleTimeout slot task failure),
      [.faulted worker failure.message])
  | .ended task => some (system.conclude worker epoch idleTimeout slot task)
  | .retiring =>
    some ({ system with roster := system.roster.leave }.setStage worker (.announcing .retired), [])

/-- A worker that has left announces it; one that was idle is then counted. -/
def depart (system : System) (worker : WorkerId) : Departure → System × List Event
  | .afterTask =>
    (system.announce.setStage worker (.gone (.left .afterTask)), [.retiredAfterTask worker])
  | .retired => (system.announce.setStage worker (.gone (.left .retired)), [.retired worker])
  | .idle timeout => (system.announce.setStage worker (.counting timeout), [])

/-- A worker goes on by itself. -/
def work (system : System) (number : WorkerId) (worker : Worker) : Option (System × List Event) :=
  match worker.stage with
  | .serving idleTimeout slot duty => system.serve number worker.epoch idleTimeout slot duty
  | .announcing departure => some (system.depart number departure)
  | .counting timeout =>
    some ((system.count .idleRetired).setStage number (.gone (.left (.idle timeout))),
      [.idleRetired number timeout])
  | .queued | .gone _ => none

/-- The idle timeout of a worker fires while it waits at an empty slot. -/
def expire (system : System) (number : WorkerId) (worker : Worker) :
    Option (System × List Event) :=
  match worker.stage with
  | .serving (some timeout) none .waiting =>
    some (system.setStage number (.serving (some timeout) none .expired), [])
  | _ => none

/-- The task that a worker executes ends. -/
def finish (system : System) (number : WorkerId) (outcome : Outcome) (worker : Worker) :
    Option (System × List Event) :=
  match worker.stage with
  | .serving idleTimeout slot (.executing task) =>
    let duty : Duty :=
      match outcome with
      | .returned => .ended task
      | .failed failure => .failed task failure
    some (system.setStage number (.serving idleTimeout slot duty), [.ended number task outcome])
  | _ => none

/-- The report of a failed task fails, and the worker loop ends where it is. -/
def breakDown (system : System) (number : WorkerId) (worker : Worker) :
    Option (System × List Event) :=
  match worker.stage with
  | .serving _ _ (.reporting _ failure) =>
    some (system.setStage number (.gone .broken), [.faulted number failure.message])
  | _ => none

/-- The last holder lets the dispatcher go. Its workers retire, and nobody waits
for them. -/
def letGo (system : System) : System × List Event :=
  let free : System := { system with held := false }
  match free.roster.phase with
  | .stopped | .stopping => (free, [])
  | .starting | .running =>
    let (retiring, events) := free.retireAll
    (if retiring.roster.live = 0 then retiring.setPhase .stopped else retiring, events)

/-- Make a move. There is no result when the move is not possible. -/
def step (system : System) : Move → Option (System × List Event)
  | .invoke request =>
    if system.held then
      some ({ system with calls := system.calls.add (.entering request) },
        [.invoked system.calls.next request])
    else none
  | .proceed call => (system.calls.get? call).bind (system.proceed call)
  | .answer call refusal => (system.calls.get? call).bind (system.answer call refusal)
  | .breakOff call => (system.calls.get? call).bind (system.breakOff call)
  | .launch number =>
    system.workers[number]?.bind fun worker =>
      if worker.stage = .queued then some (system.launch number worker.epoch) else none
  | .discard number =>
    system.workers[number]?.bind fun worker =>
      if worker.stage = .queued then some (system.discard number worker.epoch) else none
  | .work number => system.workers[number]?.bind (system.work number)
  | .expire number => system.workers[number]?.bind (system.expire number)
  | .finish number outcome => system.workers[number]?.bind (system.finish number outcome)
  | .breakDown number => system.workers[number]?.bind (system.breakDown number)
  | .letGo =>
    if system.held && system.calls.isEmpty then some system.letGo else none

/-- Make moves one after the other. -/
def play (system : System) : List Move → Option (System × List Event)
  | [] => some (system, [])
  | move :: moves => do
    let (next, events) ← system.step move
    let (last, later) ← next.play moves
    return (last, events ++ later)

end System

end Standby.Dispatcher
