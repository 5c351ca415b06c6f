import Standby.Dispatcher.Phase
import Standby.Dispatcher.Tally
import Standby.Json

/-!
# Snapshots

What an observer sees of a dispatcher at one moment, and the text in which
statistics are written.
-/

namespace Standby.Dispatcher

/-- The numbers of workers that stand at one moment. -/
inductive Level where
  | capacity
  | available
  | pending
  | starting
deriving DecidableEq, Repr

/-- A dispatcher at one moment. -/
structure Snapshot where
  phase : Phase
  capacity : Nat
  /-- Workers that are parked and ready. -/
  available : Nat
  /-- Workers that have a task. -/
  pending : Nat
  /-- Worker loops that were created and have not parked yet. -/
  starting : Nat
  tally : Tally
deriving DecidableEq, Repr

namespace Snapshot

/-- One of the numbers of workers. -/
def level (snapshot : Snapshot) : Level → Nat
  | .capacity => snapshot.capacity
  | .available => snapshot.available
  | .pending => snapshot.pending
  | .starting => snapshot.starting

/-- The statistics as a JSON object. Their order is fixed: the phase, the numbers
of workers, the counts. -/
def toJson (snapshot : Snapshot) : Json :=
  .ofMembers
    [("state", .text snapshot.phase.name),
     ("capacity", .integer snapshot.capacity),
     ("available", .integer snapshot.available),
     ("pending", .integer snapshot.pending),
     ("starting", .integer snapshot.starting),
     ("accepted", .integer snapshot.tally.accepted),
     ("declined", .integer snapshot.tally.declined),
     ("spawned", .integer snapshot.tally.spawned),
     ("spawn_failures", .integer snapshot.tally.spawnFailures),
     ("idle_retired", .integer snapshot.tally.idleRetired),
     ("task_failures", .integer snapshot.tally.taskFailures)]

/-- The text of the statistics. -/
def text (snapshot : Snapshot) : String := snapshot.toJson.render

end Snapshot

end Standby.Dispatcher
