import Standby.Dispatcher.System
import Standby.Settings.Reserved

/-!
# Plans

What a dispatcher is built from: its name, its capacity and how long its workers
may be idle. Whoever plans it, an idle timeout of zero means none.
-/

namespace Standby.Dispatcher

open Duration (Millis)

/-- A dispatcher to be built. -/
structure Plan where
  name : String
  capacity : Nat
  idleTimeout : Option Millis
deriving DecidableEq, Repr

namespace Plan

/-- A minute. -/
def defaultIdleTimeout : Millis := 60000

/-- The plan that holds unless something else is asked for. -/
def default : Plan := ⟨"reserved", 1, some defaultIdleTimeout⟩

/-- The plan for a reserve. -/
def ofReserved (reserved : Settings.Reserved) : Plan :=
  { default with capacity := reserved.capacity, idleTimeout := reserved.idleTimeout }

/-- Build the dispatcher. -/
def build (plan : Plan) : System := .fresh plan.capacity plan.idleTimeout

/-- What is built never has an idle timeout of zero. -/
theorem build_idleTimeout_ne_zero (plan : Plan) : plan.build.roster.idleTimeout ≠ some 0 := by
  intro zero
  obtain ⟨timeout, given, positive⟩ := Option.bind_eq_some_iff.mp zero
  unfold Duration.positive? at positive
  split at positive
  · cases positive
  · rename_i nonzero
    exact nonzero (Option.some.inj positive)

end Plan

end Standby.Dispatcher
