import Standby.Dispatcher.Call
import Standby.Log.Event
import Standby.Settings.Logging

/-!
# Events of a dispatcher

What happens in a run of a dispatcher. Some events are reported in the log; the
others are known from the answers that callers get and from what becomes of their
tasks.
-/

namespace Standby.Dispatcher

open Duration (Millis)
open Executor (Refusal)
open Log (shown count)

/-- Something that happens in a run. -/
inductive Event where
  | invoked (call : Nat) (request : Request)
  | returned (call : Nat) (answer : Answer)
  /-- A call was broken off while the executor was asked to take a worker loop, or
  its task. -/
  | brokenOff (call : Nat) (loop? : Option WorkerId)
  | started (capacity : Nat) (idleTimeout : Option Millis)
  | stopping (parked busy : Nat)
  | stopped
  /-- A worker was given a task. -/
  | claimed (worker : WorkerId) (task : Task)
  /-- A worker loop was created. -/
  | created (worker : WorkerId)
  /-- The executor took a worker loop. -/
  | submitted (worker : WorkerId)
  /-- The executor refused a worker loop. -/
  | spawnFailed (worker : WorkerId) (refusal : Refusal)
  /-- A task was given to the executor. -/
  | fellBack (task : Task)
  /-- The slot of a parked worker was occupied. -/
  | slotOccupied (worker : WorkerId)
  /-- A parked worker had no slot. -/
  | vanished (worker : WorkerId)
  | discarded (worker : WorkerId)
  | stale (worker : WorkerId)
  | registered (worker : WorkerId)
  | began (worker : WorkerId) (task : Task)
  /-- The task itself has come to its end. -/
  | ended (worker : WorkerId) (task : Task) (outcome : Outcome)
  /-- A failed task was reported: whoever hears of failures was called with this. -/
  | faulted (worker : WorkerId) (message : String)
  /-- A worker has given its task back. -/
  | finished (worker : WorkerId) (task : Task)
  | parkedAgain (worker : WorkerId)
  | retiredAfterTask (worker : WorkerId)
  | retired (worker : WorkerId)
  | withdrawn (worker : WorkerId)
  | idleRetired (worker : WorkerId) (timeout : Millis)
  | idleCancelled (worker : WorkerId)
deriving DecidableEq, Repr

/-- The names that a dispatcher shows in the log: its own and its executor's. -/
structure Names where
  dispatcher : String
  executor : String
deriving DecidableEq, Repr

/-- The part of the program that reports on dispatchers. -/
def origin : String := Settings.Logging.program ++ "::reserved"

/-- The part of the program that reports on workers. -/
def workerOrigin : String := origin ++ "::worker"

/-- The part of the program that reports failed tasks. -/
def faultOrigin : String := origin ++ "::fault"

namespace Names

/-- A report of the dispatcher. -/
def report (names : Names) (level : Log.Level) (origin message : String)
    (fields : List Log.Field) : Option Log.Event :=
  some (.of level origin message (shown "dispatcher" names.dispatcher :: fields))

/-- A report about a worker, for debugging. -/
def reportWorker (names : Names) (message : String) (worker : WorkerId)
    (fields : List Log.Field) : Option Log.Event :=
  names.report .debug workerOrigin message (count "worker" worker :: fields)

/-- The report that a dispatcher was started. Without an idle timeout its field is
left without a value. -/
def started (names : Names) (capacity : Nat) (idleTimeout : Option Millis) : Option Log.Event :=
  let report (timeout : List Log.Field) : Option Log.Event :=
    names.report .info origin "reserved dispatcher started"
      (count "capacity" capacity :: timeout ++ [shown "backing" names.executor])
  match idleTimeout with
  | some timeout => report [count "idle_timeout_ms" timeout]
  | none => (report []).map (·.leaving "idle_timeout_ms")

/-- The log event of something that happened. -/
def log? (names : Names) : Event → Option Log.Event
  | .started capacity idleTimeout => names.started capacity idleTimeout
  | .stopping parked busy =>
    names.report .info origin "stopping reserved dispatcher"
      [count "parked" parked, count "busy" busy]
  | .stopped => names.report .info origin "reserved dispatcher stopped" []
  | .submitted worker =>
    names.report .debug origin "reserved worker submitted" [count "worker" worker]
  | .spawnFailed worker refusal =>
    names.report .warn origin "failed to start reserved worker"
      [count "worker" worker, shown "error" refusal.message]
  | .slotOccupied worker =>
    names.report .error origin "parked worker slot occupied" [count "worker" worker]
  | .vanished worker =>
    names.report .error origin "parked worker vanished" [count "worker" worker]
  | .stale worker => names.reportWorker "stale worker exiting" worker []
  | .registered worker => names.reportWorker "worker parked" worker []
  | .retiredAfterTask worker => names.reportWorker "worker retired after task" worker []
  | .retired worker => names.reportWorker "worker retired" worker []
  | .idleRetired worker timeout =>
    names.reportWorker "idle worker retired" worker [count "idle_ms" timeout]
  | .idleCancelled worker =>
    names.reportWorker "idle retirement cancelled by handoff" worker []
  | _ => none

end Names

/-- The log event of a failed task. It names the worker and not the dispatcher. -/
def faultReport (worker : WorkerId) (message : String) : Log.Event :=
  .of .error faultOrigin "reserved task panicked" [count "worker" worker, shown "error" message]

end Standby.Dispatcher
