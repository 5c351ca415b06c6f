import Standby.Settings.Environment

/-!
# The backing pool

How many threads the backing pool has and how many jobs may wait for them. Zero
stands for a size that follows from the machine: as many threads as processors,
and a hundred waiting jobs for each thread.
-/

namespace Standby.Settings

/-- The sizes of the backing pool. -/
structure Backing where
  threads : Nat
  queueCapacity : Nat
deriving DecidableEq, Repr

namespace Backing

/-- The waiting jobs that a thread brings when the queue has no size of its
own. -/
def jobsPerThread : Nat := 100

/-- The variable of the thread count. -/
def threadsVariable : String := "BACKING_THREADS"

/-- The variable of the queue's size. -/
def queueVariable : String := "BACKING_QUEUE_CAPACITY"

/-- A count that must not be zero. -/
def nonzero (name detail : String) (count : Nat) : Except Fault Nat :=
  if count = 0 then .error (.outOfBounds name detail) else .ok count

/-- The thread count on a machine with the given number of processors. -/
def readThreads (environment : Environment) (processors : Nat) : Except Fault Nat := do
  let count ← number threadsVariable (environment.textOr threadsVariable "0")
  nonzero threadsVariable "thread count cannot be zero" (if count = 0 then processors else count)

/-- The size of the queue before the given number of threads. -/
def readQueueCapacity (environment : Environment) (threads : Nat) : Except Fault Nat := do
  let count ← number queueVariable (environment.textOr queueVariable "0")
  nonzero queueVariable "queue capacity cannot be zero"
    (if count = 0 then threads * jobsPerThread else count)

/-- Read both sizes. -/
def read (environment : Environment) (processors : Nat) : Except Fault Backing := do
  let threads ← readThreads environment processors
  let queueCapacity ← readQueueCapacity environment threads
  return ⟨threads, queueCapacity⟩

end Backing

end Standby.Settings
