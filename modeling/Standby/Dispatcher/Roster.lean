import Standby.Dispatcher.Phase
import Standby.Duration

/-!
# Rosters

What a dispatcher knows about its workers: everything that is read and changed
under its lock. Workers are known by their numbers.

The counts, the epoch and the numbers of workers have no bound here. In words of 64
bits they are meant for runs that stop fewer than 2^64 times and create fewer than 2^64
workers, before any of them would begin again from zero.
-/

namespace Standby.Dispatcher

/-- The number of a worker. -/
abbrev WorkerId := Nat

/-- Everything under the lock of a dispatcher. -/
structure Roster where
  phase : Phase
  /-- The parked workers, the one that parked last first. -/
  parked : List WorkerId
  /-- Workers that hold a task. -/
  pending : Nat
  /-- Worker loops that were created in this epoch and have not registered. -/
  starting : Nat
  /-- Worker loops that have registered and not left. -/
  live : Nat
  /-- How long a worker stays parked; without it, forever. -/
  idleTimeout : Option Duration.Millis
  /-- How often the dispatcher began to stop. -/
  epoch : Nat
deriving DecidableEq, Repr

namespace Roster

/-- The roster of a new dispatcher. -/
def fresh (idleTimeout : Option Duration.Millis) : Roster :=
  ⟨.stopped, [], 0, 0, 0, idleTimeout, 0⟩

/-- Parked workers, which can take a task at once. -/
def available (roster : Roster) : Nat := roster.parked.length

/-- The workers that count against the capacity. -/
def reserved (roster : Roster) : Nat := roster.available + roster.pending + roster.starting

/-- A worker of an epoch may go on serving. -/
def accepts (roster : Roster) (epoch : Nat) : Bool :=
  roster.phase == .running && roster.epoch == epoch

/-- A worker parks. -/
def park (roster : Roster) (worker : WorkerId) : Roster :=
  { roster with parked := worker :: roster.parked }

/-- A worker loop registers and parks for the first time. -/
def register (roster : Roster) (worker : WorkerId) : Roster :=
  { roster.park worker with starting := roster.starting - 1, live := roster.live + 1 }

/-- A worker loop gives its start slot back. -/
def giveBack (roster : Roster) : Roster := { roster with starting := roster.starting - 1 }

/-- A registered worker leaves. -/
def leave (roster : Roster) : Roster := { roster with live := roster.live - 1 }

/-- A parked worker leaves. -/
def withdraw (roster : Roster) (worker : WorkerId) : Roster :=
  { roster.leave with parked := roster.parked.erase worker }

/-- A parked worker gets a task; these remain parked. -/
def claim (roster : Roster) (remaining : List WorkerId) : Roster :=
  { roster with parked := remaining, pending := roster.pending + 1 }

/-- A task has ended. -/
def release (roster : Roster) : Roster := { roster with pending := roster.pending - 1 }

/-- A worker loop is about to be created. -/
def announce (roster : Roster) : Roster := { roster with starting := roster.starting + 1 }

/-- Stopping begins: nobody stays parked, and the loops that have not registered
no longer count. -/
def retireAll (roster : Roster) : Roster :=
  { roster with phase := .stopping, parked := [], starting := 0, epoch := roster.epoch + 1 }

end Roster

end Standby.Dispatcher
