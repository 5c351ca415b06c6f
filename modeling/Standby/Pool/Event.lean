import Standby.Log.Event
import Standby.Pool.Thread
import Standby.Settings.Logging

/-!
# Events of a pool

What happens in a run of a pool, and what of it is reported in the log.
-/

namespace Standby.Pool

open Log (shown count)

/-- Something that happens in a run. -/
inductive Event where
  | invoked (call : Nat)
  | returned (call : Nat) (answer : Answer)
  /-- A job stands in the queue. -/
  | queued (number : Nat)
  | closing
  | threadStarted (thread : Nat)
  /-- A thread took a job off the queue. -/
  | received (thread number : Nat)
  | began (thread number : Nat)
  | ended (thread number : Nat)
  | failed (thread number : Nat) (message : String)
  | threadStopped (thread : Nat)
  /-- A thread was brought down. -/
  | threadLost (thread : Nat)
deriving DecidableEq, Repr

/-- The answer that an event brings to a caller. -/
def Event.answer? : Event → Option Answer
  | .returned _ answer => some answer
  | _ => none

/-- The part of the program that reports on pools. -/
def origin : String := Settings.Logging.program ++ "::executor::pool"

/-- The report of a new pool. -/
def created (name : String) (threads queueCapacity : Nat) : Log.Event :=
  .of .info origin "queued pool created"
    [shown "pool" name, count "workers" threads, count "capacity" queueCapacity]

/-- The log event of something that happened in a pool of the given name. -/
def Event.log? (name : String) : Event → Option Log.Event
  | .closing => some (.of .info origin "shutting down queued pool" [shown "pool" name])
  | .failed thread _ message =>
    some (.of .error origin "pool job panicked" [count "worker" thread, shown "panic" message])
  | .threadStarted thread =>
    some (.of .debug origin "pool worker started" [count "worker" thread])
  | .threadStopped thread =>
    some (.of .debug origin "pool worker stopped" [count "worker" thread])
  | _ => none

end Standby.Pool
