import Standby.Text.Quoted

/-!
# Phases

The life of a dispatcher: stopped, running, and stopping until its last worker
has left. Starting takes no time, so nobody finds a dispatcher in that phase; it
has a name all the same.

Some requests need a stopped dispatcher and are refused in any other phase.
-/

namespace Standby.Dispatcher

open Text (quote)

/-- The phase of a dispatcher. -/
inductive Phase where
  | stopped
  | starting
  | running
  | stopping
deriving DecidableEq, Repr, Inhabited

/-- The name of a phase. -/
def Phase.name : Phase → String
  | .stopped => "stopped"
  | .starting => "starting"
  | .running => "running"
  | .stopping => "stopping"

/-- The phase with a capital letter. -/
def Phase.title : Phase → String
  | .stopped => "Stopped"
  | .starting => "Starting"
  | .running => "Running"
  | .stopping => "Stopping"

/-- A request that the phase does not allow. -/
structure IllegalPhase where
  operation : String
  phase : Phase
deriving DecidableEq, Repr

namespace IllegalPhase

/-- The wording of the refusal. -/
def message (fault : IllegalPhase) : String :=
  "cannot " ++ fault.operation ++ " while " ++ fault.phase.name

/-- The refusal in full, part by part. -/
def detailed (fault : IllegalPhase) : String :=
  "IllegalState \x7b op: " ++ quote fault.operation ++ ", state: " ++ fault.phase.title ++ " \x7d"

end IllegalPhase

end Standby.Dispatcher
