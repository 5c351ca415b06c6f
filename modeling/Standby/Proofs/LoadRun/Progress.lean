import Standby.Proofs.Hosted.Rest
import Standby.Proofs.LoadRun.Balance
import Standby.Proofs.LoadRun.Chains

/-!
# Load runs go on

A load run is at rest when nothing goes on in it but for the clock: an idle timeout would have to
fire, or the main thread to give up. Then no turn is taken, no task is executed and none waits, and
the main thread has begun all chains. So no step is live, and each chain has ended with a failed
dispatch or an empty budget. If not every chain has ended with a failed dispatch, the budget is
empty and all of it was counted. Before that the run always goes on.
-/

namespace Standby.LoadRun

open Dispatcher (Task)

/-- The move waits for no clock. -/
def Move.isPrompt : Move → Bool
  | .giveUp | .host (.dispatcher (.expire _)) => false
  | _ => true

namespace System

variable {system : System} {capacity loops : Nat} {moves : List (Pool.Move Hosted.Job)}
  {told : List Pool.Event} {move : Move} {result : System × List Event} {runner : Runner}
  {deeds : List (Runner × Deed)} {events : List Event}

/-- The load run can make this move. -/
def Can (system : System) (move : Move) : Prop := ∃ result, system.step move = some result

/-- Nothing goes on but for the clock. -/
def AtRest (system : System) : Prop := ∀ move, move.isPrompt = true → ¬ system.Can move

/-- What the dispatcher and the pool do without a decision from outside, a load run lets them
do. -/
theorem can_of_smooth {own : Hosted.Move} (smooth : system.host.Smooth own)
    (can : system.host.Can own) : (Move.host own).isPrompt = true ∧ system.Can (.host own) := by
  obtain ⟨result, made⟩ := can
  have moved : (system.moveHost own).isSome = true := by simp [moveHost, made]
  have allowed (prompt : (Move.host own).isPrompt = true)
      (same : system.allow own = system.moveHost own) :
      (Move.host own).isPrompt = true ∧ system.Can (.host own) :=
    ⟨prompt, Option.isSome_iff_exists.mp (by rw [step, same]; exact moved)⟩
  cases own with
  | dispatcher own =>
    cases own with
    | proceed | answer | launch | discard | work => exact allowed rfl rfl
    | _ => exact smooth.elim
  | pool own =>
    cases own with
    | proceed | work => exact allowed rfl rfl
    | finish thread outcome =>
      have idle : system.pooledTask? thread = none :=
        Option.eq_none_iff_forall_ne_some.mpr fun task runs =>
          smooth task (pooledTask_eq_some_iff.mp runs)
      exact allowed rfl (by simp [allow, endTask, idle])
    | _ => exact smooth.elim

/-- A task whose turn is spent can end. -/
theorem can_of_ends {own : Hosted.Move} {task : Task} (ends : system.Ends own task)
    (ended : system.isOver task = true) (can : system.host.Can own) :
    (Move.host own).isPrompt = true ∧ system.Can (.host own) := by
  obtain ⟨result, made⟩ := can
  refine ⟨by cases ends <;> rfl, Option.isSome_iff_exists.mp ?_⟩
  cases ends with
  | worker worker _ executes => simp [step, allow, endTask, executes, ended, moveHost, made]
  | thread thread _ runs => simp [step, allow, endTask, runs, ended, moveHost, made]

/-- Whoever executes a task can bring it to its end. -/
theorem exists_ends {task : Task} (executes : system.host.Executes task) :
    ∃ own, system.Ends own task ∧ system.host.Can own := by
  rcases executes with ⟨number, worker, found, has⟩ | ⟨thread, number, found⟩
  · refine ⟨_, .worker number task (taskOf_eq_some_iff.mpr ⟨worker, found, has⟩), ?_⟩
    refine Hosted.System.can_dispatcher rfl ?_
    obtain ⟨epoch, stage⟩ := worker
    cases stage with
    | serving idleTimeout slot duty =>
      cases duty with
      | executing => simp [Dispatcher.System.step, found, Dispatcher.System.finish]
      | _ => cases has
    | _ => cases has
  · refine ⟨_, .thread thread task (pooledTask_eq_some_iff.mpr ⟨number, found⟩), ?_⟩
    exact Hosted.System.can_pool (by simp [Hosted.System.dispatcherAgrees, found,
      Hosted.System.jobOf?]) (Pool.System.can_finish found .returned)

namespace AtRest

/-- The dispatcher and the pool are at rest. -/
theorem host (rest : system.AtRest) : system.host.AtRest := fun _ smooth can =>
  have allowed := can_of_smooth smooth can
  rest _ allowed.1 allowed.2

/-- Nobody waits for the dispatcher but to stop it. -/
theorem eq_stop_of_holds (rest : system.AtRest) (filed : system.host.Filed)
    (sought : system.host.Sought) {call : Nat} {request : Dispatcher.Request}
    (holds : system.Holds call request) : request = .stop := by
  obtain ⟨stage, found, serves⟩ := holds
  obtain ⟨awaited, rfl⟩ := rest.host.sleeps filed sought found
  cases request <;> first | rfl | cases serves

/-- No turn is taken. -/
theorem progress?_eq_none (rest : system.AtRest) (linked : system.Linked) (seated : system.Seated)
    (tracked : system.host.Tracked) (sought : system.host.Sought) (runner : Runner) :
    system.progress? runner = none := by
  refine Option.eq_none_iff_forall_ne_some.mpr fun progress found => ?_
  have advances (can : (system.advance runner progress).isSome = true) : False :=
    rest (.advance runner) rfl (Option.isSome_iff_exists.mp (by simpa [step, found] using can))
  cases progress with
  | claiming => exact advances (by simp only [advance]; split <;> rfl)
  | offering => exact advances (by simp [advance, call, moveHost_invoke, tracked.dispatcherHeld])
  | calling call =>
    cases rest.eq_stop_of_holds tracked.filed sought (linked.turns runner call found)
  | answered | signalling => exact advances rfl
  | spent =>
    have due := seated.turns runner .spent found
    cases runner with
    | main =>
      obtain ⟨chains, seeding⟩ := due
      exact advances (by simp [advance, seeding])
    | task task =>
      obtain ⟨own, ends, can⟩ := exists_ends (isRunning_iff.mp due)
      have allowed := can_of_ends ends (by simp [isOver, found]) can
      exact rest _ allowed.1 allowed.2

/-- No task is executed. -/
theorem not_executes (rest : system.AtRest)
    (idle : ∀ runner, system.progress? runner = none) (task : Task) :
    ¬ system.host.Executes task := fun executes =>
  rest (.begin (.task task)) rfl (Option.isSome_iff_exists.mp (by
    simp [step, beginTurn, idle, isRunning_iff.mpr executes]))

/-- The main thread has begun all chains. -/
theorem unseeded (rest : system.AtRest) (linked : system.Linked) (tracked : system.host.Tracked)
    (sought : system.host.Sought) (idle : ∀ runner, system.progress? runner = none) :
    system.main.unseeded system.chains = 0 := by
  have proceeds (can : (system.proceed system.main).isSome = true) : False :=
    rest .proceed rfl (Option.isSome_iff_exists.mp can)
  cases main : system.main with
  | starting =>
    refine (proceeds ?_).elim
    simp [main, proceed, call, moveHost_invoke, tracked.dispatcherHeld]
  | callingStart call =>
    cases rest.eq_stop_of_holds tracked.filed sought
      (linked.main call .start (by rw [main]; rfl))
  | seeding left =>
    cases left with
    | zero => rfl
    | succ left =>
      refine (rest (.begin .main) rfl (Option.isSome_iff_exists.mp ?_)).elim
      simp [step, beginTurn, idle, main]
  | _ => rfl

/-- No step is live. -/
theorem live_eq_nil (rest : system.AtRest)
    (order : Hosted.System.InOrder capacity moves system.host told)
    (timed : system.host.dispatcher.Timed) (sound : system.host.Sound)
    (enough : capacity < system.host.pool.threads.length)
    (idle : ∀ runner, system.progress? runner = none) : system.live = [] := by
  have unused := rest.not_executes idle
  have runners : system.runners = [] := by
    refine List.eq_nil_iff_forall_not_mem.mpr fun runner member => ?_
    rcases mem_runners_iff.mp member with ⟨task, -, executes⟩ | ⟨-, turn⟩
    · exact unused task executes
    · rw [idle] at turn
      cases turn
  have whole : capacity + system.host.pool.threads.countP Pool.Thread.isBroken <
      system.host.pool.threads.length := by rwa [sound.whole]
  rw [live, runners, rest.host.waiting_eq_nil order timed whole unused]
  rfl

end AtRest

/-- All of the budget that was taken is counted when no turn is taken. -/
theorem counted_of_idle (order : InOrder capacity loops system deeds events)
    (idle : ∀ runner, system.progress? runner = none) :
    system.remaining + system.counted = loops := by
  have offered := order.flows.offered
  have waited := order.flows.counted
  simp only [Passes, countIn_eq_zero _ idle, Nat.add_zero] at offered waited
  rw [counted, ← order.counts_split, ← waited, ← offered]
  exact order.counted.claimed

/-- As long as fewer dispatches than chains have failed, a load run goes on until all dispatches
are counted. -/
theorem exists_prompt (order : InOrder capacity loops system deeds events)
    {seeded exhausted : Nat} (chained : Chained seeded exhausted system)
    (tracked : system.host.Tracked) (sought : system.host.Sought)
    (timed : system.host.dispatcher.Timed) (sound : system.host.Sound)
    (enough : capacity < system.host.pool.threads.length)
    (few : system.failed < system.chains) (more : system.counted < loops) :
    ∃ move, move.isPrompt = true ∧ system.Can move := by
  by_contra stuck
  have rest : system.AtRest := fun move prompt can => stuck ⟨move, prompt, can⟩
  obtain ⟨moves, told, host⟩ := order.host
  have idle := rest.progress?_eq_none order.linked order.seated tracked sought
  have ended := length_live chained order.linked order.seated tracked.housed sound
  have begun := chained.seeded
  rw [rest.live_eq_nil host timed sound enough idle, List.length_nil] at ended
  rw [rest.unseeded order.linked tracked sought idle, mainTurns, idle] at begun
  have empty : system.remaining = 0 := chained.spent (by simp at begun; omega)
  have all := counted_of_idle order idle
  omega

end System

end Standby.LoadRun
