import Standby.Pool.System

/-!
# Sizes of pools

A pool that is given no queue size has room for a hundred waiting jobs per
thread, and one that is given no threads has as many as there are processors.
-/

namespace Standby.Pool

/-- The threads of a pool and the room in its queue. -/
structure Size where
  threads : Nat
  queueCapacity : Nat
deriving DecidableEq, Repr

/-- The size of a pool with the given threads on a machine with the given number
of processors. -/
def Size.ofThreads (threads processors : Nat) : Size :=
  let count := if threads = 0 then processors else threads
  ⟨count, count * jobsPerThread⟩

/-- A new pool of a size. -/
def Size.build {α : Type} (size : Size) : System α := .fresh size.threads size.queueCapacity

/-- The name of a thread in a pool. -/
def threadName (pool : String) (thread : Nat) : String := pool ++ "-" ++ toString thread

end Standby.Pool
