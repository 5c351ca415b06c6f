/-!
# Threads for single jobs

An executor that starts a new thread for every job. The threads are named for the
executor and numbered in the order of the jobs. It breaks down under a job when no
thread can have such a name.
-/

namespace Standby.Executor

/-- A thread can have this name: it has no zero byte. -/
def isThreadName (name : String) : Bool := name.toList.all (· != '\x00')

/-- An executor with a thread for every job. -/
structure ThreadPerJob where
  name : String
  /-- The number of threads that were started. -/
  spawned : Nat
deriving DecidableEq, Repr

namespace ThreadPerJob

/-- No thread was started yet. -/
def fresh (name : String) : ThreadPerJob := ⟨name, 0⟩

/-- Start a thread for a job; its name is told. -/
def submit (executor : ThreadPerJob) : Option (ThreadPerJob × String) :=
  let name := executor.name ++ "-" ++ toString executor.spawned
  if isThreadName name then some ({ executor with spawned := executor.spawned + 1 }, name)
  else none

/-- Start threads for a number of jobs, one after the other. -/
def submitAll : Nat → ThreadPerJob → Option (ThreadPerJob × List String)
  | 0, executor => some (executor, [])
  | count + 1, executor => do
    let (next, name) ← executor.submit
    let (last, names) ← submitAll count next
    return (last, name :: names)

end ThreadPerJob

end Standby.Executor
