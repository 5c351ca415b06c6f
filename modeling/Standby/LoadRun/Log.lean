import Standby.Dispatcher.Plan
import Standby.LoadRun.System
import Standby.Settings

/-!
# The log of a load run

What a load run reports, and what it works with for given settings.
-/

namespace Standby.LoadRun

open Log (count shown)

/-- The name of the pool. -/
def poolName : String := "backing"

/-- The names that the dispatcher shows in the log. -/
def names : Dispatcher.Names := ⟨"reserved", poolName⟩

/-- The part of the program that reports on the run itself. -/
def origin : String := Settings.Logging.program

/-- The log event of something that happened. -/
def Event.log? : Event → Option Log.Event
  | .host (.dispatcher (.faulted worker message)) => some (Dispatcher.faultReport worker message)
  | .host (.dispatcher event) => names.log? event
  | .host (.pool event) => event.log? poolName
  | .dispatchFailed refusal =>
    some (.of .warn origin "dispatch failed" [shown "error" refusal.message])
  | .timedOut seen loops =>
    some (.of .warn origin "load run timed out" [count "seen" seen, count "loops" loops])
  | .exhausted _ => none

namespace System

/-- The load run that settings ask for. -/
def ofSettings (settings : Settings) : System :=
  let plan : Dispatcher.Plan := { Dispatcher.Plan.ofReserved settings.reserved with
    name := names.dispatcher }
  .fresh (.fresh plan.build (.fresh settings.backing.threads settings.backing.queueCapacity))
    settings.load.loops settings.load.chains

/-- The report at the end of a run. -/
def finished (system : System) (elapsed : Duration.Millis) : Log.Event :=
  .of .info origin "load run finished"
    [count "reserved" system.reserved, count "pool" system.pooled, count "failed" system.failed,
      count "total" system.loops, count "elapsed_ms" elapsed]

/-- The turns that were counted. -/
def counted (system : System) : Nat := system.reserved + system.pooled + system.failed

/-- The books do not balance: more or fewer turns were counted than seen. -/
def mismatch? (system : System) : Option String :=
  if system.counted = system.seen then none
  else some ("accounting mismatch: reserved=" ++ toString system.reserved ++ " pool="
    ++ toString system.pooled ++ " failed=" ++ toString system.failed ++ " dispatched="
    ++ toString system.seen)

end System

end Standby.LoadRun
