import Standby.Executor.Refusal

/-!
# Blocking threads of a runtime

A runtime for cooperative tasks runs jobs that may block on threads of their own.
An executor over them is named for the flavor of the runtime. Outside a runtime
there is none.
-/

namespace Standby.Executor

/-- How a runtime runs its cooperative tasks. -/
inductive Flavor where
  | currentThread
  | multiThread
deriving DecidableEq, Repr

/-- The name of an executor over a runtime. -/
def Flavor.executorName : Flavor → String
  | .currentThread => "tokio-current-thread"
  | .multiThread => "tokio-blocking"

/-- The executor over the runtime that the caller is in, if it is in one. -/
def currentRuntime (flavor : Option Flavor) : Except Refusal String :=
  match flavor with
  | some flavor => .ok flavor.executorName
  | none => .error .closed

end Standby.Executor
