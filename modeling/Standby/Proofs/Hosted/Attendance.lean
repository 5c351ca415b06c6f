import Standby.Proofs.Hosted.Loops

/-!
# Threads that are left

A registered worker loop holds its thread for as long as it stays, whether it waits, was
given a task or executes one. No more threads are held in this way than the dispatcher has
capacity, so a pool with more threads keeps one for everything else. That thread is never
stuck: it is free to take the next job, or its job can go on or end, since a loop that has
not registered has only to be launched, and one that has left has only to say so.

Threads can also be lost, one with every failure that spills. Then the pool must have more
threads than capacity apart from those.
-/

namespace Standby.Hosted

open Dispatcher (WorkerId Worker Stage)

/-- A job of the pool fails, and what it leaves behind spills. -/
def Move.isSpill : Move → Bool
  | .pool move => move.isSpill
  | .dispatcher _ => false

namespace System

variable {system : System} {capacity : Nat} {moves : List (Pool.Move Job)}
  {events : List Pool.Event}

/-- The thread is inside the loop of a worker that has registered and has not left. -/
def isInside (system : System) (thread : Pool.Thread Job) : Bool :=
  (loopOf? thread).any fun worker =>
    system.dispatcher.workers[worker]?.any fun worker => worker.stage.isServing

/-- The system can make this move. -/
def Can (system : System) (move : Move) : Prop := ∃ result, system.step move = some result

/-- A worker loop on a thread has not registered and can be launched, or has left and can
go on to its end, or has ended and can give the thread back. -/
def LoopGoesOn (system : System) (thread : Nat) (worker : WorkerId) : Stage → Prop
  | .queued => system.Can (.dispatcher (.launch worker))
  | .announcing _ | .counting _ => system.Can (.dispatcher (.work worker))
  | .gone _ => ∃ outcome, system.Can (.pool (.finish thread outcome))
  | .serving _ _ _ => False

/-- A thread is free and can go on, or has a job that is not a registered worker loop and
that can go on or end. It is not about to be brought down. -/
def GoesOn (system : System) (thread : Nat) : Pool.Thread Job → Prop
  | .created | .idle | .received _ _ => system.Can (.pool (.work thread))
  | .failed _ failure => failure.spills = false ∧ system.Can (.pool (.work thread))
  | .running _ (.task _) | .running _ (.other _) =>
    ∀ outcome, system.Can (.pool (.finish thread outcome))
  | .running _ (.loop worker) => ∃ held, system.dispatcher.workers[worker]? = some held ∧
    system.LoopGoesOn thread worker held.stage
  | .stopped | .collapsing | .lost => False

/-- A move of the pool to which the dispatcher agrees can be made. -/
theorem can_pool {move : Pool.Move Job} (agrees : system.dispatcherAgrees move = true)
    (can : system.pool.Can move) : system.Can (.pool move) := by
  obtain ⟨result, made⟩ := can
  exact Option.isSome_iff_exists.mp (by simp [step, movePool, agrees, made])

/-- A move of the dispatcher to which the pool agrees can be made. -/
theorem can_dispatcher {move : Dispatcher.Move} (agrees : system.poolAgrees move = true)
    (can : (system.dispatcher.step move).isSome = true) : system.Can (.dispatcher move) :=
  Option.isSome_iff_exists.mp (by simp [step, moveDispatcher, agrees, can])

/-- A worker loop on a thread goes on unless it has registered and has not left. -/
theorem loopGoesOn {thread number : Nat} {worker : WorkerId} {held : Worker}
    (runs : system.pool.threads[thread]? = some (.running number (.loop worker)))
    (found : system.dispatcher.workers[worker]? = some held)
    (outside : held.stage.isServing = false) : system.LoopGoesOn thread worker held.stage := by
  obtain ⟨epoch, stage⟩ := held
  cases stage with
  | queued =>
    exact can_dispatcher (runs_iff.mpr ⟨thread, number, runs⟩)
      (by simp [Dispatcher.System.step, found])
  | announcing | counting =>
    exact can_dispatcher rfl (by simp [Dispatcher.System.step, found, Dispatcher.System.work])
  | gone ending =>
    -- The job of a loop that has broken down fails with it; any other returns.
    let outcome : Outcome :=
      if system.hasBroken worker then .failed (.other false) else .returned
    refine ⟨outcome, can_pool ?_ (Pool.System.can_finish runs outcome)⟩
    cases broken : system.hasBroken worker <;>
      simp [dispatcherAgrees, runs, jobOf?, hasEnded, found, broken, outcome]
  | serving idleTimeout slot duty => cases outside

namespace InOrder

/-- No more threads are inside registered loops than workers are live. -/
theorem countP_isInside_le (order : InOrder capacity moves system events) :
    system.pool.threads.countP system.isInside ≤ capacity := by
  have census := order.dispatcher.census
  calc system.pool.threads.countP system.isInside
      ≤ system.dispatcher.workers.countP (·.stage.isLive) := by
        refine Counting.countP_le_of_named _ _ loopOf? _ _ order.countP_loop_le_one
          fun thread _ inside => ?_
        obtain ⟨worker, same, serves⟩ := (Option.any_eq_true _ _).mp inside
        obtain ⟨held, found, serving⟩ := (Option.any_eq_true _ _).mp serves
        exact ⟨worker, held, same, found, Stage.live_of_serving serving⟩
    _ = system.dispatcher.roster.live := census.live.symm
    _ ≤ capacity := Nat.le_trans (Nat.le_add_right _ _) census.within

/-- A thread that is not inside a registered loop, and was not brought down, goes on as long
as a job waits. -/
theorem goesOn (order : InOrder capacity moves system events)
    (waiting : system.pool.queue ≠ []) {thread : Nat} {stage : Pool.Thread Job}
    (found : system.pool.threads[thread]? = some stage)
    (outside : system.isInside stage = false) (whole : stage.isBroken = false) :
    system.GoesOn thread stage := by
  cases stage with
  | created | received => exact can_pool rfl (Pool.System.can_work found rfl)
  | failed => exact ⟨whole, can_pool rfl (Pool.System.can_work found rfl)⟩
  | idle => exact can_pool rfl (Pool.System.can_of_idle found (.inl waiting))
  | running number job =>
    cases job with
    | loop worker =>
      have asks := order.pool.faithful.taken thread _ (number, .loop worker) found rfl
      have present : worker < system.dispatcher.workers.length :=
        order.created number worker asks
      have held := List.getElem?_eq_getElem present
      have idle : system.dispatcher.workers[worker].stage.isServing = false := by
        simpa [isInside, loopOf?, held] using outside
      exact ⟨_, held, loopGoesOn found held idle⟩
    | task task | other label =>
      exact fun outcome => can_pool (by simp [dispatcherAgrees, found, jobOf?])
        (Pool.System.can_finish found outcome)
  | stopped => exact absurd (order.pool.leaves.stopped (List.mem_of_getElem? found)).2 waiting
  | collapsing | lost => cases whole

/-- While a job waits some thread goes on, as long as the threads that were not brought down
outnumber the capacity. -/
theorem exists_goesOn (order : InOrder capacity moves system events)
    (enough : capacity + system.pool.threads.countP Pool.Thread.isBroken <
      system.pool.threads.length)
    (waiting : system.pool.queue ≠ []) : ∃ (thread : Nat) (stage : Pool.Thread Job),
      system.pool.threads[thread]? = some stage ∧ system.isInside stage = false ∧
        system.GoesOn thread stage := by
  have inside : system.pool.threads.countP system.isInside ≤ capacity := order.countP_isInside_le
  let whole : List (Pool.Thread Job) := system.pool.threads.filter fun stage => !stage.isBroken
  have split : system.pool.threads.length =
      system.pool.threads.countP Pool.Thread.isBroken + whole.length := by
    rw [List.length_eq_countP_add_countP Pool.Thread.isBroken,
      ← List.countP_eq_length_filter]
    simp
  have fewer : whole.countP system.isInside ≤ system.pool.threads.countP system.isInside :=
    List.filter_sublist.countP_le
  obtain ⟨stage, member, outside⟩ : ∃ stage ∈ whole, system.isInside stage = false := by
    by_contra none
    have full : whole.countP system.isInside = whole.length :=
      List.countP_eq_length.mpr fun stage member => Bool.of_not_eq_false fun outside =>
        none ⟨stage, member, outside⟩
    omega
  obtain ⟨kept, sound⟩ := List.mem_filter.mp member
  obtain ⟨thread, found⟩ := List.mem_iff_getElem?.mp kept
  exact ⟨thread, stage, found, outside,
    order.goesOn waiting found outside (by simpa using sound)⟩

end InOrder

/-- A failure that spills takes a thread of the pool with it, and nothing else does. -/
theorem broken_of_section {move : Move} {result : System × List Event}
    (made : Section system move result) :
    result.1.pool.threads.countP Pool.Thread.isBroken =
      system.pool.threads.countP Pool.Thread.isBroken + move.isSpill.toNat := by
  cases made with
  | dispatcher => rfl
  | submitted move call stage job dispatcher happened pool later submissions agrees stepped
      caller found owes invoked =>
    exact Pool.System.broken_of_section (Pool.System.section_of_step invoked)
  | pool move pool happened submissions agrees stepped =>
    exact Pool.System.broken_of_section (Pool.System.section_of_step stepped)

end System

end Standby.Hosted
