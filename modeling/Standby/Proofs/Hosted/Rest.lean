import Standby.Proofs.Dispatcher.Shutdown
import Standby.Proofs.Hosted.Attendance
import Standby.Proofs.Hosted.Refusals
import Standby.Proofs.Hosted.Whereabouts

/-!
# Dispatchers and pools at rest

A dispatcher and its pool are at rest when nothing goes on in either without a decision from
outside: somebody would have to call or to let go, a task to end, or an idle timeout to fire. Then
no call is on its way but for one that waits for the dispatcher to stop, and every worker waits for
a task or executes one. A pool with a thread to spare, apart from those it has lost, has taken all
its jobs. So at rest no task waits, unless all that could take it execute others.
-/

namespace Standby.Hosted

open Dispatcher (WorkerId Worker Stage Task)

namespace System

variable {system : System} {capacity : Nat} {moves : List (Pool.Move Job)}
  {events : List Pool.Event}

/-- The move needs no decision from outside. -/
def Smooth (system : System) : Move → Prop
  | .dispatcher (.proceed _) | .dispatcher (.answer _ _) | .dispatcher (.launch _)
  | .dispatcher (.discard _) | .dispatcher (.work _) | .pool (.proceed _) | .pool (.work _) => True
  | .pool (.finish thread _) => ∀ task, ¬ system.ThreadHas thread task
  | _ => False

/-- Nothing goes on without a decision from outside. -/
def AtRest (system : System) : Prop := ∀ move, system.Smooth move → ¬ system.Can move

/-- A loop that the pool has refused is known to be refused. -/
theorem isRefused_of_answered {call : Nat} {fallsBack : Bool} {worker : WorkerId}
    {refusal : Executor.Refusal}
    (found : system.dispatcher.calls.get? call = some (.submitting fallsBack worker))
    (answered : system.submissions.lookup call = some (.answered (some refusal))) :
    system.isRefused worker = true := by
  obtain ⟨before, after, same, -⟩ := List.lookup_eq_some_iff.mp answered
  refine List.any_eq_true.mpr ⟨(call, .answered (some refusal)), by simp [same], ?_⟩
  simp [found]

namespace AtRest

/-- No call of a pool at rest is on its way. -/
theorem unused (rest : system.AtRest) (number : Nat) : system.pool.calls.get? number = none := by
  refine Option.eq_none_iff_forall_ne_some.mpr fun stage found => ?_
  obtain ⟨other, can⟩ := Pool.System.exists_proceed found
  exact rest (.pool (.proceed other)) trivial (can_pool rfl can)

/-- No call of the dispatcher waits for the pool. -/
theorem not_submits (rest : system.AtRest) (filed : system.Filed) (sought : system.Sought)
    {call : Nat} {job : Job} : ¬ Submits system.dispatcher call job := by
  intro submits
  obtain ⟨submission, recorded⟩ := filed.owed call job submits
  obtain ⟨stage, found, owes⟩ := submits
  have answers {refusal : Option Executor.Refusal}
      (answered : system.submissions.lookup call = some (.answered refusal))
      (dropped : system.hasDropped call refusal = true)
      (can : (system.dispatcher.answer call refusal stage).isSome = true) : False := by
    refine rest (.dispatcher (.answer call refusal)) trivial (can_dispatcher ?_ ?_)
    · simp [poolAgrees, answered, dropped]
    · simpa [Dispatcher.System.step, found] using can
  cases submission with
  | pending number =>
    obtain ⟨_, -, brings⟩ := filed.owner call _ recorded
    obtain ⟨_, held, -⟩ := brings number rfl
    cases (rest.unused number).symm.trans held
  | answered refusal =>
    cases owes with
    | task =>
      refine answers recorded ?_ (by cases refusal <;> rfl)
      simp [hasDropped, found]
    | loop fallsBack worker =>
      cases refusal with
      | none => exact answers recorded (by simp [hasDropped]) rfl
      | some refusal =>
        -- The pool has refused the loop, so it can still be dropped, or it was.
        obtain ⟨⟨⟨epoch, stage⟩, stands, idle⟩, -⟩ := sought.unlaunched call worker
          ⟨⟨fallsBack, found⟩, by simp [recorded]⟩
        cases stage with
        | queued =>
          refine rest (.dispatcher (.discard worker)) trivial (can_dispatcher ?_ ?_)
          · exact Bool.or_eq_true_iff.mpr (.inl (isRefused_of_answered found recorded))
          · simp [Dispatcher.System.step, stands]
        | gone ending =>
          cases ending with
          | discarded => exact answers recorded (by simp [hasDropped, found, stands]) rfl
          | _ => cases idle
        | _ => cases idle

/-- A call of the dispatcher that is on its way sleeps. -/
theorem sleeps (rest : system.AtRest) (filed : system.Filed) (sought : system.Sought) {call : Nat}
    {stage : Dispatcher.Call} (found : system.dispatcher.calls.get? call = some stage) :
    ∃ awaited, stage = .sleeping awaited := by
  have proceeds (can : (system.dispatcher.proceed call stage).isSome = true) : False :=
    rest (.dispatcher (.proceed call)) trivial
      (can_dispatcher rfl (by simpa [Dispatcher.System.step, found] using can))
  cases stage with
  | sleeping awaited => exact ⟨awaited, rfl⟩
  | submitting fallsBack worker =>
    exact (rest.not_submits filed sought ⟨_, found, .loop fallsBack worker⟩).elim
  | fallingBack => exact (rest.not_submits filed sought ⟨_, found, .task⟩).elim
  | woken awaited => cases awaited <;> exact (proceeds rfl).elim
  | _ => exact (proceeds rfl).elim

/-- A worker waits for a task or executes one, or its loop has not begun or is over. -/
theorem stage (rest : system.AtRest) (order : Dispatcher.System.InOrder capacity system.dispatcher)
    (timed : system.dispatcher.Timed) {number : WorkerId} {worker : Worker}
    (found : system.dispatcher.workers[number]? = some worker) :
    (∃ idleTimeout, worker.stage = .serving idleTimeout none .waiting) ∨
      (∃ task, system.WorkerHas number task) ∨ worker.stage = .queued ∨
        ∃ ending, worker.stage = .gone ending := by
  have works (can : ∃ result, system.dispatcher.step (.work number) = some result) : False :=
    rest (.dispatcher (.work number)) trivial
      (can_dispatcher rfl (Option.isSome_iff_exists.mpr can))
  by_cases waits : ∃ idleTimeout, worker.stage = .serving idleTimeout none .waiting
  · exact .inl waits
  · right
    cases stage : worker.stage with
    | queued => exact .inr (.inl rfl)
    | gone ending => exact .inr (.inr ⟨ending, rfl⟩)
    | serving idleTimeout slot duty =>
      have able := Dispatcher.System.canWork_of_busy timed found
        (order.census.orderly_of_found found).placed (by rw [stage]; rfl)
        fun idleTimeout same => waits ⟨idleTimeout, same⟩
      rcases able with can | ⟨task, executes, -⟩
      · exact (works can).elim
      · refine .inl ⟨task, worker, found, ?_⟩
        obtain rfl : duty = .executing task := by
          simpa [Dispatcher.System.duty?, found, Worker.duty?, stage] using executes
        rw [stage]
        rfl
    | announcing | counting =>
      refine (works ?_).elim
      simp [Dispatcher.System.step, found, Dispatcher.System.work, stage]

/-- A pool at rest with a thread to spare has no job that waits, as long as no task is executed. -/
theorem queue_eq_nil (rest : system.AtRest) (order : InOrder capacity moves system events)
    (enough : capacity + system.pool.threads.countP Pool.Thread.isBroken <
      system.pool.threads.length)
    (idle : ∀ task, ¬ system.Executes task) : system.pool.queue = [] := by
  by_contra waiting
  obtain ⟨thread, stage, found, -, goesOn⟩ := order.exists_goesOn enough waiting
  have unused (task : Task) : ¬ system.ThreadHas thread task := fun has =>
    idle task (.inr ⟨thread, has⟩)
  cases stage with
  | created | idle | received => exact rest (.pool (.work thread)) trivial goesOn
  | failed => exact rest (.pool (.work thread)) trivial goesOn.2
  | running number job =>
    cases job with
    | task task => exact unused task ⟨number, found⟩
    | other label => exact rest (.pool (.finish thread .returned)) unused (goesOn .returned)
    | loop worker =>
      obtain ⟨⟨epoch, stage⟩, -, goesOn⟩ := goesOn
      cases stage with
      | queued => exact rest (.dispatcher (.launch worker)) trivial goesOn
      | announcing | counting => exact rest (.dispatcher (.work worker)) trivial goesOn
      | gone =>
        obtain ⟨outcome, can⟩ := goesOn
        exact rest (.pool (.finish thread outcome)) unused can
      | serving => exact goesOn
  | stopped | collapsing | lost => exact goesOn

/-- No task waits at rest in a pool with a thread to spare, as long as none is executed. -/
theorem waiting_eq_nil (rest : system.AtRest) (order : InOrder capacity moves system events)
    (timed : system.dispatcher.Timed)
    (enough : capacity + system.pool.threads.countP Pool.Thread.isBroken <
      system.pool.threads.length)
    (idle : ∀ task, ¬ system.Executes task) : system.waiting = [] := by
  have given : system.dispatcher.given = [] := by
    refine List.filterMap_eq_nil_iff.mpr fun worker member => ?_
    obtain ⟨number, found⟩ := List.mem_iff_getElem?.mp member
    rcases rest.stage order.dispatcher timed found with
      ⟨_, same⟩ | ⟨task, has⟩ | same | ⟨_, same⟩
    · rw [same]; rfl
    · exact absurd (.inl ⟨number, has⟩) (idle task)
    · rw [same]; rfl
    · rw [same]; rfl
  have received : (system.pool.threads.filterMap fun thread =>
      (received? thread).bind Job.task?) = [] := by
    refine List.filterMap_eq_nil_iff.mpr fun stage member => ?_
    obtain ⟨thread, found⟩ := List.mem_iff_getElem?.mp member
    cases stage with
    | received number job =>
      exact (rest (.pool (.work thread)) trivial
        (can_pool rfl (Pool.System.can_work found rfl))).elim
    | _ => rfl
  rw [waiting, given, received, rest.queue_eq_nil order enough idle]
  rfl

end AtRest

end System

end Standby.Hosted
