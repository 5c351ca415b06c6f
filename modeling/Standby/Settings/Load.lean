import Standby.Settings.Environment

/-!
# The load run

How many dispatches the load run makes, over how many chains, and whether it
prints its metrics at the end.
-/

namespace Standby.Settings

/-- The size of the load run. -/
structure Load where
  loops : Nat
  chains : Nat
  printMetrics : Bool
deriving DecidableEq, Repr

namespace Load

/-- The variable of the number of chains. -/
def chainsVariable : String := "STRESS_CHAINS"

/-- The variable of the number of dispatches. -/
def loopsVariable : String := "STRESS_LOOPS"

/-- Read the size of the load run. The chains come first. -/
def read (environment : Environment) : Except Fault Load := do
  let chains ← environment.numberOr chainsVariable 8
  if chains = 0 then
    throw (.outOfBounds chainsVariable "at least one chain is required")
  let loops ← environment.numberOr loopsVariable 100000
  return ⟨loops, chains, environment.flag "PRINT_METRICS"⟩

end Load

end Standby.Settings
