import Standby.Proofs.Dispatcher.Execution
import Standby.Proofs.Hosted.Loops

/-!
# Tasks in a pool

A task is executed by a worker of the dispatcher or runs on a thread of the pool, and goes on
to do so until a move ends it there. When all threads of the pool are at their end, no task is
executed any more, not even by a worker, and that remains so.
-/

namespace Standby.Hosted

open Dispatcher (WorkerId Worker Task)

namespace System

variable {system next : System} {capacity : Nat} {moves : List (Pool.Move Job)}
  {events : List Pool.Event} {task : Task}

/-- A worker executes the task. -/
def WorkerHas (system : System) (number : WorkerId) (task : Task) : Prop :=
  ∃ worker, system.dispatcher.workers[number]? = some worker ∧ worker.stage.task? = some task

/-- A thread of the pool runs the task. -/
def ThreadHas (system : System) (thread : Nat) (task : Task) : Prop :=
  ∃ number, system.pool.threads[thread]? = some (.running number (.task task))

/-- A worker or a thread of the pool has the task. -/
def Executes (system : System) (task : Task) : Prop :=
  (∃ number, system.WorkerHas number task) ∨ ∃ thread, system.ThreadHas thread task

/-- The move ends what the worker or the thread has. -/
inductive Releases (system : System) (task : Task) : Move → Prop where
  | worker (number : WorkerId) (outcome : Outcome) (has : system.WorkerHas number task) :
    Releases system task (.dispatcher (.finish number outcome))
  | thread (thread : Nat) (outcome : Outcome) (has : system.ThreadHas thread task) :
    Releases system task (.pool (.finish thread outcome))

/-- A task is executed until a move ends it. -/
theorem executes_of_step (order : InOrder capacity moves system events) {move : Move}
    {result : System × List Event} (made : system.step move = some result)
    (executes : system.Executes task) :
    result.1.Executes task ∨ system.Releases task move := by
  have worked (own : Dispatcher.Move) (later : Dispatcher.System)
      (new : List Dispatcher.Event) (stepped : system.dispatcher.step own = some (later, new))
      (same : move = .dispatcher own) (dispatcher : result.1.dispatcher = later)
      (threads : result.1.pool.threads = system.pool.threads) :
      result.1.Executes task ∨ system.Releases task move := by
    rcases executes with ⟨number, worker, found, has⟩ | ⟨thread, number, runs⟩
    · have section_made := Dispatcher.System.section_of_step order.dispatcher.parkedReady stepped
      rcases Dispatcher.System.task_of_section section_made found has with
        ⟨after, stands, still⟩ | ⟨outcome, rfl⟩
      · exact .inl (.inl ⟨number, after, by rw [dispatcher, stands], still⟩)
      · exact .inr (same ▸ .worker number outcome ⟨worker, found, has⟩)
    · exact .inl (.inr ⟨thread, number, by rw [threads, runs]⟩)
  cases section_of_step made with
  | dispatcher own later new submissions agrees stepped =>
    exact worked own later new stepped rfl rfl rfl
  | submitted own call stage job later new pool also submissions agrees stepped caller found owes
      invoked =>
    refine worked own later new stepped rfl rfl ?_
    cases Pool.System.section_of_step invoked
    rfl
  | pool own later new submissions agrees stepped =>
    rcases executes with held | ⟨thread, number, runs⟩
    · exact .inl (.inl held)
    · rcases Pool.System.running_of_section (Pool.System.section_of_step stepped) runs with
        stays | ⟨outcome, rfl⟩
      · exact .inl (.inr ⟨thread, number, stays⟩)
      · exact .inr (.thread thread outcome ⟨number, runs⟩)

/-- Nothing is executed over a deserted pool. -/
theorem InOrder.not_executes (order : InOrder capacity moves system events)
    (deserted : system.pool.deserted = true) (task : Task) : ¬ system.Executes task := by
  have gone {thread : Nat} {stage : Pool.Thread Job}
      (found : system.pool.threads[thread]? = some stage) : stage.isOver = true :=
    List.all_eq_true.mp deserted stage (List.mem_of_getElem? found)
  rintro (⟨number, worker, found, has⟩ | ⟨thread, number, runs⟩)
  · -- The worker serves, so its loop is on a thread.
    have underway : worker.stage.isUnderway = true := by
      cases stage : worker.stage <;>
        simp_all [Dispatcher.Stage.task?, Dispatcher.Stage.isUnderway]
    obtain ⟨thread, job, runs⟩ := runs_iff.mp (order.attended number worker found underway)
    cases gone runs
  · cases gone runs

/-- A deserted pool stays deserted, whatever moves. -/
theorem deserted_of_step {move : Move} {result : System × List Event}
    (made : system.step move = some result) (deserted : system.pool.deserted = true) :
    result.1.pool.deserted = true := by
  cases section_of_step made with
  | dispatcher => exact deserted
  | submitted own call stage job later new pool also submissions agrees stepped caller found owes
      invoked =>
    exact (Pool.System.deserted_of_section deserted (Pool.System.section_of_step invoked)).1
  | pool own later new submissions agrees stepped =>
    exact (Pool.System.deserted_of_section deserted (Pool.System.section_of_step stepped)).1

end System

end Standby.Hosted
