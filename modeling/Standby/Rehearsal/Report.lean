import Standby.Dispatcher.Snapshot
import Standby.Dispatcher.Event
import Standby.Log.Event

/-!
# Reports

What a rehearsal tells about each step: its result, and what happened until
everything came to rest.
-/

namespace Standby.Rehearsal

open Duration (Millis)
open Executor (Refusal)
open Dispatcher (Snapshot IllegalPhase WorkerId)

/-- The numbers of workers and waiting jobs; without a dispatcher only the
jobs. -/
structure Headcount where
  workers : Option (Nat × Nat × Nat)
  jobs : Nat
deriving DecidableEq, Repr

/-- The result of a step. -/
inductive Result where
  /-- There is nothing to tell. -/
  | nothing
  | done
  | truth (value : Bool)
  | job (number : Nat)
  | offered (accepted : Bool)
  /-- A declined errand was run in place. -/
  | declinedRan (returned : Bool)
  /-- A worker has the errand. -/
  | reserved
  /-- The executor has the errand. -/
  | fallback
  | refused (refusal : Refusal)
  | illegal (fault : IllegalPhase)
  | contention (accepted declined : Nat) (jobs : List Nat) (held : Headcount)
  | info (name : String) (idleTimeout : Option Millis) (snapshot : Snapshot)
  | text (content : String)
  | pool (waiting : Int) (threads queueCapacity : Nat)
deriving DecidableEq, Repr

/-- An errand that was run: on which job, or in place on the script's own
thread. -/
structure Run where
  label : String
  job : Option Nat
deriving DecidableEq, Repr

/-- The steps that an errand took, with their results. -/
structure Nested where
  label : String
  steps : List (Result × Headcount)
deriving DecidableEq, Repr

/-- What happened since the last report. -/
structure Happenings where
  ran : List Run
  dropped : List String
  faults : List (WorkerId × String)
  nested : List Nested
  log : List Log.Event
deriving DecidableEq, Repr

/-- Nothing has happened. -/
def Happenings.none : Happenings := ⟨[], [], [], [], []⟩

/-- The report of one step. -/
structure Report where
  result : Result
  /-- The dispatcher at rest, unless it was let go. -/
  snapshot : Option Snapshot
  /-- The jobs in the queue. -/
  queued : List Nat
  /-- The number of running jobs. -/
  running : Nat
  /-- The number of stops that have not returned. -/
  stopping : Nat
  happenings : Happenings
deriving DecidableEq, Repr

/-- The report of a whole rehearsal. -/
structure Record where
  steps : List Report
  /-- Something still to come could not come about. -/
  stalled : Bool
  /-- The executor broke down, and the script with it. -/
  brokenOff : Bool
  /-- The errands that were dropped unrun after the last step, sorted. -/
  droppedAtEnd : List String
  /-- The debugging events of the whole rehearsal. -/
  debugging : List Log.Event
deriving DecidableEq, Repr

end Standby.Rehearsal
