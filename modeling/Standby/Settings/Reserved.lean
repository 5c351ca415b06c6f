import Standby.Duration
import Standby.Settings.Environment

/-!
# Reserved threads

How many threads a dispatcher may hold in reserve and how long one may stay idle.
The count is fixed or automatic. An automatic count is at most a tenth of the
backing threads and never more than the processors; it is at least one as long as
a thread remains for other work.

A capacity that would take every backing thread is refused.
-/

namespace Standby.Settings

open Text

/-- The wish for reserved threads. -/
inductive ReservedThreads where
  | automatic
  | fixed (count : Nat)
deriving DecidableEq, Repr

namespace ReservedThreads

/-- Read a wish. White space around it and letter case do not matter. Nothing,
`auto` and every negative number ask for an automatic count. -/
def parse (value : String) : Except NumeralFault ReservedThreads :=
  let text := lowercase (trim value.toList)
  if text.isEmpty || text == ['a', 'u', 't', 'o'] then .ok .automatic
  else
    match readSigned signedBound text with
    | .ok count => .ok (if count < 0 then .automatic else .fixed count.toNat)
    | .error fault => .error fault

/-- The number of threads that a wish comes to, given the processors and the
backing threads if their number is known. -/
def resolve (wish : ReservedThreads) (processors : Nat) (backing : Option Nat) : Nat :=
  match wish, backing with
  | .fixed count, _ => count
  | .automatic, some threads => min (max (min processors (threads / 10)) 1) (threads - 1)
  | .automatic, none => max processors 1

/-- A wish as the summary of settings shows it. -/
def shown : ReservedThreads → String
  | .automatic => "Auto"
  | .fixed count => "Fixed(" ++ toString count ++ ")"

end ReservedThreads

/-- The reserve of a dispatcher. -/
structure Reserved where
  wish : ReservedThreads
  /-- How long a thread may stay idle; without it, forever. -/
  idleTimeout : Option Duration.Millis
  capacity : Nat
deriving DecidableEq, Repr

namespace Reserved

/-- A reserve of the given capacity. -/
def ofCapacity (capacity : Nat) (idleTimeout : Option Duration.Millis) : Reserved :=
  ⟨.fixed capacity, idleTimeout, capacity⟩

/-- The variable of the thread count. -/
def threadsVariable : String := "RESERVED_THREADS"

/-- The variable of the idle timeout. -/
def idleVariable : String := "RESERVED_IDLE_TIMEOUT"

/-- The wish for threads in the environment. -/
def readWish (environment : Environment) : Except Fault ReservedThreads :=
  let value := environment.textOr threadsVariable "auto"
  match ReservedThreads.parse value with
  | .ok wish => .ok wish
  | .error fault => .error (.unreadable threadsVariable value fault.message)

/-- A capacity that leaves a backing thread for other work. -/
def withinBacking (capacity backing : Nat) : Except Fault Nat :=
  if 0 < capacity ∧ backing ≤ capacity then
    .error (.outOfBounds threadsVariable
      (toString capacity ++ " reserved threads leave none of the " ++ toString backing
        ++ " backing threads for fallback work"))
  else .ok capacity

/-- The idle timeout in the environment. -/
def readIdleTimeout (environment : Environment) : Except Fault (Option Duration.Millis) :=
  let value := (environment.filled? idleVariable).getD "60s"
  match Duration.parse value with
  | .ok timeout => .ok timeout
  | .error fault => .error (.unreadable idleVariable value fault.message)

/-- Read the reserve of a dispatcher over the given number of backing threads. -/
def read (environment : Environment) (processors backing : Nat) : Except Fault Reserved := do
  let wish ← readWish environment
  let capacity ← withinBacking (wish.resolve processors (some backing)) backing
  let idleTimeout ← readIdleTimeout environment
  return ⟨wish, idleTimeout, capacity⟩

end Reserved

end Standby.Settings
