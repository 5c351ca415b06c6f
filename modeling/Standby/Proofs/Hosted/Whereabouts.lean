import Standby.Proofs.Hosted.Places

/-!
# Where the tasks are

A task with a place waits, in the slot of a worker or on its way to a thread of the pool, or is
executed, or it has gone with the queue of a pool that has lost its last thread. It has one place
only, since it gets it when it is handed over, which happens once. So nobody finds a task in the
lists twice.
-/

namespace Standby.Dispatcher.System

/-- Somebody holds the dispatcher until the last holder lets it go. -/
theorem held_of_section {system : System} {move : Move} {result : System × List Event}
    (made : Section system move result) (kept : move ≠ .letGo) : result.1.held = system.held := by
  cases made with
  | turnedDown call fallsBack | declined call fallsBack => cases fallsBack <;> rfl
  | stopBegun | looked =>
    unfold awaitLastWorker
    split <;> rfl
  | departed number epoch departure => cases departure <;> rfl
  | letGo | abandoned => exact absurd rfl kept
  | _ => rfl

end Standby.Dispatcher.System

namespace Standby.Pool.System

/-- Somebody holds the pool until the last holder lets it go. -/
theorem held_of_section {α : Type} {system : System α} {move : Move α}
    {result : System α × List Event} (made : Section system move result) (kept : move ≠ .letGo) :
    result.1.held = system.held := by
  cases made with
  | letGo => exact absurd rfl kept
  | _ => rfl

end Standby.Pool.System

namespace Standby.Hosted

open Dispatcher (Task)

/-- The job as a task. -/
def Job.task? : Job → Option Task
  | .task own => some own
  | _ => none

/-- The job that a thread has taken and not begun. -/
def received? : Pool.Thread Job → Option Job
  | .received _ job => some job
  | _ => none

namespace System

/-- The tasks that wait to be executed. -/
def waiting (system : System) : List Task :=
  system.dispatcher.given ++ system.pool.queue.filterMap (fun entry => entry.2.task?) ++
    system.pool.threads.filterMap fun thread => (received? thread).bind Job.task?

/-- The tasks that workers and threads execute. -/
def executing (system : System) : List Task :=
  system.dispatcher.executed ++ system.pool.threads.filterMap fun thread =>
    (jobOf? thread).bind Job.task?

/-- The tasks that went with the last thread of the pool. -/
def abandoned (system : System) : List Task :=
  system.pool.abandoned.filterMap fun entry => entry.2.task?

variable {system next : System} {task : Task}

/-- A task with a place waits, is executed or has gone with the last thread. -/
theorem places_eq (kind : Task → Bool) (system : System) : system.places kind =
    system.waiting.countP kind + system.executing.countP kind + system.abandoned.countP kind := by
  have listed (entries : List (Nat × Job)) : entries.countP (fun entry => entry.2.isTask kind) =
      (entries.filterMap fun entry => entry.2.task?).countP kind := by
    rw [List.countP_filterMap]
    refine List.countP_congr fun entry _ => ?_
    obtain ⟨number, job⟩ := entry
    cases job <;> simp [Job.isTask, Job.task?]
  have held : system.pool.threads.countP (Pool.Thread.stocks (Job.isTask kind)) =
      (system.pool.threads.filterMap fun thread => (received? thread).bind Job.task?).countP kind +
        (system.pool.threads.filterMap fun thread =>
          (jobOf? thread).bind Job.task?).countP kind := by
    rw [List.countP_filterMap, List.countP_filterMap]
    refine Counting.countP_add _ _ _ _ fun thread _ => ?_
    cases thread with
    | received number job | running number job =>
      cases job <;>
        simp [Pool.Thread.stocks, Pool.Thread.job?, Job.isTask, Job.task?, received?, jobOf?]
    | _ => rfl
  rw [places, Dispatcher.System.borne_eq, Pool.System.stock, listed, held, waiting, executing,
    abandoned, List.filterMap_append]
  simp only [List.countP_append]
  omega

/-- What is executed is what some worker or thread executes. -/
theorem mem_executing_iff : task ∈ system.executing ↔ system.Executes task := by
  rw [executing, List.mem_append, Dispatcher.System.executed, List.mem_filterMap,
    List.mem_filterMap]
  refine or_congr ⟨?_, ?_⟩ ⟨?_, ?_⟩
  · rintro ⟨worker, member, has⟩
    obtain ⟨number, found⟩ := List.mem_iff_getElem?.mp member
    exact ⟨number, worker, found, has⟩
  · rintro ⟨number, worker, found, has⟩
    exact ⟨worker, List.mem_of_getElem? found, has⟩
  · rintro ⟨stage, member, has⟩
    obtain ⟨thread, found⟩ := List.mem_iff_getElem?.mp member
    cases stage with
    | running number job =>
      cases job with
      | task own =>
        obtain rfl : own = task := Option.some.inj has
        exact ⟨thread, number, found⟩
      | loop | other => cases has
    | _ => cases has
  · rintro ⟨thread, number, found⟩
    exact ⟨_, List.mem_of_getElem? found, rfl⟩

/-- The task has not been handed over. -/
def IsOpen (system : System) (task : Task) : Prop :=
  system.dispatcher.calls.next ≤ task ∨
    (∃ stage, system.dispatcher.calls.get? task = some stage) ∧ system.isTaken task = false

/-- Every task that was handed over has one place at most, and no other has any. -/
structure Housed (system : System) : Prop where
  once : ∀ task, system.places (· == task) ≤ 1
  unplaced : ∀ task, system.IsOpen task → system.places (· == task) = 0

/-- Numbers of calls are not given out again. -/
theorem next_le_of_recorded {capacity : Nat}
    (order : Dispatcher.System.InOrder capacity system.dispatcher) {move : Move}
    {result : System × List Event} (made : Recorded system move result) :
    system.dispatcher.calls.next ≤ result.1.dispatcher.calls.next := by
  cases made with
  | dispatcher own next events agrees stepped
  | submitted own call job next events agrees stepped =>
    exact Dispatcher.System.next_le_of_section
      (Dispatcher.System.section_of_step order.parkedReady stepped)
  | pool => exact Nat.le_refl _

/-- A task that is open after a section was open before, unless it is the section that hands it
over. -/
theorem isOpen_of_recorded {capacity : Nat}
    (order : Dispatcher.System.InOrder capacity system.dispatcher) {move : Move}
    {result : System × List Event} (made : Recorded system move result)
    (opened : result.1.IsOpen task) (same : result.1.isTaken task = system.isTaken task) :
    system.IsOpen task := by
  have moved {own : Dispatcher.Move} {next : Dispatcher.System}
      {events : List Dispatcher.Event} (stepped : system.dispatcher.step own = some (next, events))
      (dispatcher : result.1.dispatcher = next) : system.IsOpen task := by
    have section_made := Dispatcher.System.section_of_step order.parkedReady stepped
    rcases opened with unmade | ⟨⟨later, stands⟩, untaken⟩
    · refine .inl (Nat.le_trans (Dispatcher.System.next_le_of_section section_made) ?_)
      exact dispatcher ▸ unmade
    · rw [dispatcher] at stands
      have goesOn (found : ∃ stage, system.dispatcher.calls.get? task = some stage) :
          system.IsOpen task := .inr ⟨found, same ▸ untaken⟩
      cases mine : own.isFor task with
      | true => exact goesOn (Dispatcher.System.found_of_own section_made mine)
      | false =>
        rcases Dispatcher.System.get?_of_foreign section_made mine with
          kept | ⟨-, woken⟩ | ⟨begins, -⟩
        · exact goesOn ⟨later, kept.symm.trans stands⟩
        · obtain ⟨stage, found, -⟩ := Option.map_eq_some_iff.mp (woken.symm.trans stands)
          exact goesOn ⟨stage, found⟩
        · exact .inl (Nat.le_of_eq begins.symm)
  cases made with
  | dispatcher own next events agrees stepped => exact moved stepped rfl
  | submitted own call job next events agrees stepped => exact moved stepped rfl
  | pool own next events agrees stepped =>
    rcases opened with unmade | ⟨found, untaken⟩
    · exact .inl unmade
    · exact .inr ⟨found, same ▸ untaken⟩

namespace Housed

/-- No task has a place at the beginning. -/
theorem fresh (capacity threads queueCapacity : Nat) (idleTimeout : Option Duration.Millis) :
    Housed (.fresh (.fresh capacity idleTimeout) (.fresh threads queueCapacity)) := by
  have nothing (kind : Task → Bool) : places kind
      (.fresh (.fresh capacity idleTimeout) (.fresh threads queueCapacity)) = 0 := by
    simp [places, System.fresh, Pool.System.stock_fresh, Dispatcher.System.borne,
      Dispatcher.System.fresh, Counting.total]
  exact ⟨fun task => by simp [nothing], fun task _ => nothing _⟩

/-- Every section keeps the tasks at one place. -/
theorem of_recorded (housed : system.Housed) (filed : system.Filed) {capacity : Nat}
    (order : Dispatcher.System.InOrder capacity system.dispatcher) {move : Move}
    {result : System × List Event} (made : Recorded system move result) : result.1.Housed := by
  have opened {task : Task} (opened : result.1.IsOpen task)
      (same : result.1.isTaken task = system.isTaken task) : system.IsOpen task :=
    isOpen_of_recorded order made opened same
  -- A call that has returned or whose task was taken is open no more.
  have closed {call : Nat} {stage : Dispatcher.Call}
      (found : system.dispatcher.calls.get? call = some stage)
      (done : result.1.dispatcher.calls.get? call = none ∨ result.1.isTaken call = true) :
      ¬ result.1.IsOpen call := by
    have given : call < result.1.dispatcher.calls.next :=
      Nat.lt_of_lt_of_le (Register.lt_of_get? found) (next_le_of_recorded order made)
    rintro (unmade | ⟨⟨later, stands⟩, untaken⟩)
    · omega
    · rcases done with gone | taken
      · cases gone.symm.trans stands
      · cases taken.symm.trans untaken
  have fewer (less : ∀ task, result.1.places (· == task) ≤ system.places (· == task))
      (still : ∀ task, result.1.IsOpen task → system.IsOpen task) : result.1.Housed :=
    ⟨fun task => Nat.le_trans (less task) (housed.once task), fun task opened =>
      Nat.eq_zero_of_le_zero (housed.unplaced task (still task opened) ▸ less task)⟩
  have handed {call : Nat} (before : system.IsOpen call) (after : ¬ result.1.IsOpen call)
      (places : ∀ kind, result.1.places kind = system.places kind + (kind call).toNat)
      (others : ∀ other, other ≠ call → result.1.isTaken other = system.isTaken other) :
      result.1.Housed := by
    refine ⟨fun task => ?_, fun task still => ?_⟩
    · rw [places]
      by_cases same : task = call
      · subst same
        simp [housed.unplaced task before]
      · rw [beq_false_of_ne (Ne.symm same)]
        exact housed.once task
    · have different : task ≠ call := fun same => after (same ▸ still)
      rw [places, housed.unplaced task (opened still (others task different))]
      simpa using Ne.symm different
  obtain ⟨replies, same⟩ : ∃ replies, result.2.filterMap Event.reply? = replies := ⟨_, rfl⟩
  have conveys := conveys_of_recorded filed order made
  rw [same] at conveys
  cases conveys with
  | quiet _ places taken =>
    exact fewer (fun task => Nat.le_of_eq (places _)) fun task still => opened still (taken task)
  | answered call stage answer found gone apart passed places others =>
    refine fewer (fun task => Nat.le_of_eq (places _)) fun task still => opened still ?_
    exact others task fun same => closed found (.inl gone) (same ▸ still)
  | accepted call stage found untaken gone places others =>
    exact handed (.inr ⟨⟨stage, found⟩, untaken⟩) (closed found (.inl gone)) places others
  | taken call found _ untaken taken places others =>
    exact handed (.inr ⟨⟨_, found⟩, untaken⟩) (closed found (.inr taken)) places others
  | ended task releases places taken =>
    refine fewer (fun other => ?_) fun other still => opened still (taken other)
    exact Nat.le_of_add_right_le (Nat.le_of_eq (places _))

/-- No task is listed twice. -/
theorem nodup (housed : system.Housed) : (system.waiting ++ system.executing).Nodup := by
  refine List.nodup_iff_count_le_one.mpr fun task => ?_
  rw [List.count, List.countP_append]
  exact Nat.le_trans (Nat.le_add_right _ _) (places_eq _ system ▸ housed.once task)

end Housed

/-- The move neither lets anything go nor brings the pool a job of its own. -/
def Loyal : Move → Prop
  | .dispatcher .letGo | .pool .letGo | .pool (.invoke (.submit _)) => False
  | _ => True

/-- What the tasks are known from: somebody holds the dispatcher and the pool, the calls of the
one are on record with those of the other, and every task has one place at most. -/
structure Tracked (system : System) : Prop where
  dispatcherHeld : system.dispatcher.held = true
  poolHeld : system.pool.held = true
  filed : system.Filed
  housed : system.Housed

namespace Tracked

/-- A new dispatcher over a new pool is tracked. -/
theorem fresh (capacity threads queueCapacity : Nat) (idleTimeout : Option Duration.Millis) :
    Tracked (.fresh (.fresh capacity idleTimeout) (.fresh threads queueCapacity)) :=
  ⟨rfl, rfl, .fresh .., .fresh ..⟩

/-- Loyal moves keep the tasks tracked. -/
theorem of_recorded (tracked : system.Tracked) {capacity : Nat}
    (order : Dispatcher.System.InOrder capacity system.dispatcher) {move : Move}
    {result : System × List Event} (made : Recorded system move result) (loyal : Loyal move) :
    result.1.Tracked := by
  have own (job : Job) : move ≠ .pool (.invoke (.submit job)) := by
    rintro rfl
    exact loyal
  refine ⟨?_, ?_, tracked.filed.of_recorded order made own,
    tracked.housed.of_recorded tracked.filed order made⟩
  · refine Eq.trans ?_ tracked.dispatcherHeld
    cases made with
    | dispatcher own next events agrees stepped
    | submitted own call job next events agrees stepped =>
      refine Dispatcher.System.held_of_section
        (Dispatcher.System.section_of_step order.parkedReady stepped) ?_
      rintro rfl
      exact loyal
    | pool => rfl
  · refine Eq.trans ?_ tracked.poolHeld
    cases made with
    | dispatcher | submitted => rfl
    | pool own next events agrees stepped =>
      refine Pool.System.held_of_section (Pool.System.section_of_step stepped) ?_
      rintro rfl
      exact loyal

end Tracked

end System

end Standby.Hosted
