import Standby.Proofs.Dispatcher.Exchange
import Standby.Proofs.Dispatcher.Execution

/-!
# What the workers have

A worker has the task in its slot and the task that it executes. A task comes to a worker when
it is accepted and leaves it when it ends, and in between it changes from the slot to the hands.
So however the tasks are told apart, the workers have as many of a kind as were accepted and have
not ended.
-/

namespace Standby.Dispatcher

/-- The task in the slot at this stage. -/
def Stage.given? : Stage → Option Task
  | .serving _ (some (.task task)) _ => some task
  | _ => none

/-- How many tasks of a kind a worker at this stage has. -/
def Stage.bears (kind : Task → Bool) (stage : Stage) : Nat :=
  (stage.given?.any kind).toNat + (stage.task?.any kind).toNat

namespace Event

/-- A task of this kind is accepted. -/
def gives (kind : Task → Bool) : Event → Bool
  | .returned task .accepted => kind task
  | _ => false

/-- A task of this kind ends. -/
def frees (kind : Task → Bool) : Event → Bool
  | .ended _ task _ => kind task
  | _ => false

end Event

namespace System

/-- The tasks in the slots of the workers. -/
def given (system : System) : List Task := system.workers.filterMap (·.stage.given?)

/-- The tasks that the workers execute. -/
def executed (system : System) : List Task := system.workers.filterMap (·.stage.task?)

/-- How many tasks of a kind the workers have. -/
def borne (kind : Task → Bool) (system : System) : Nat :=
  Counting.total (fun worker : Worker => worker.stage.bears kind) system.workers

/-- What the workers have lies in their slots or is executed. -/
theorem borne_eq (kind : Task → Bool) (system : System) :
    system.borne kind = system.given.countP kind + system.executed.countP kind := by
  have counts (find : Worker → Option Task) (workers : List Worker) :
      (workers.filterMap find).countP kind =
        workers.countP fun worker => (find worker).any kind := by
    rw [List.countP_filterMap]
    refine List.countP_congr fun worker _ => ?_
    cases find worker <;> simp
  rw [given, executed, counts, counts, borne]
  induction system.workers with
  | nil => rfl
  | cons first rest inductionHypothesis =>
    rw [Counting.total, inductionHypothesis, Counting.countP_cons, Counting.countP_cons,
      Stage.bears]
    omega

section Changes

variable {system next : System} {events : List Event} {number : WorkerId} {epoch : Nat}
  {before : Stage} {kind : Task → Bool}

/-- One worker moves to another stage. -/
theorem borne_of_modify (found : system.workers[number]? = some ⟨epoch, before⟩)
    (change : Worker → Worker) (workers : next.workers = system.workers.modify number change) :
    next.borne kind + before.bears kind =
      system.borne kind + (change ⟨epoch, before⟩).stage.bears kind := by
  have changed := Counting.total_modify (fun worker : Worker => worker.stage.bears kind) change
    system.workers number _ found
  simpa [borne, workers] using changed

/-- A worker moves to a stage at which it has the same. -/
theorem borne_of_same (found : system.workers[number]? = some ⟨epoch, before⟩)
    {change : Worker → Worker} (workers : next.workers = system.workers.modify number change)
    (same : (change ⟨epoch, before⟩).stage.bears kind = before.bears kind) :
    next.borne kind = system.borne kind := by
  have changed : next.borne kind + before.bears kind =
      system.borne kind + (change ⟨epoch, before⟩).stage.bears kind :=
    borne_of_modify found change workers
  omega

/-- Workers that are told to retire have what they had. -/
theorem borne_of_told (workers : next.workers = system.workers.mapIdx system.roster.tell) :
    next.borne kind = system.borne kind := by
  rw [borne, borne, workers]
  refine Counting.total_mapIdx _ _ _ fun position worker _ => ?_
  rcases system.roster.tell_cases position worker with
    same | ⟨epoch, idleTimeout, duty, rfl, told⟩
  · rw [same]
  · rw [told]
    cases duty <;> rfl

end Changes

variable {capacity : Nat} {system : System} {move : Move} {result : System × List Event}

/-- The workers have what was accepted and has not ended. -/
theorem borne_of_section (order : InOrder capacity system) (made : Section system move result)
    (kind : Task → Bool) :
    result.1.borne kind + result.2.countP (·.frees kind) =
      system.borne kind + result.2.countP (·.gives kind) := by
  have census := order.census
  -- A worker that leaves its slot behind has nothing there.
  have empty {number : WorkerId} {epoch : Nat} {idleTimeout : Option Duration.Millis}
      {slot : Option Handoff} {duty : Duty}
      (found : system.workers[number]? = some ⟨epoch, .serving idleTimeout slot duty⟩)
      (busy : duty.isWaiting = false) : slot = none :=
    (census.orderly_of_found found).placed.slot_eq_none busy
  have quiet {next : System} {events : List Event} (same : next.borne kind = system.borne kind)
      (silent : ∀ event ∈ events, event.frees kind = false ∧ event.gives kind = false) :
      next.borne kind + events.countP (·.frees kind) =
        system.borne kind + events.countP (·.gives kind) := by
    rw [same, List.countP_eq_zero.mpr fun event member => by simp [silent event member],
      List.countP_eq_zero.mpr fun event member => by simp [silent event member]]
  cases made with
  | invoked | illegal | started | retimed | restful | joined | taken | refused | announced
  | brokenOff | letGo =>
    exact quiet rfl (by simp [reply, Event.frees, Event.gives])
  | turnedDown call fallsBack | declined call fallsBack =>
    cases fallsBack <;>
      exact quiet rfl (by simp [decline, giveBack, reply, Event.frees, Event.gives])
  | counted call fallsBack count event stage found answered =>
    rcases answered with ⟨_, _, _, rfl⟩ | ⟨_, _, _, _, rfl⟩ <;>
      exact quiet rfl (by simp [Event.frees, Event.gives])
  | passedOn call refusal =>
    cases refusal <;> exact quiet rfl (by simp [reply, Event.frees, Event.gives])
  | created call fallsBack =>
    refine quiet ?_ (by simp [Event.frees, Event.gives])
    exact (Counting.total_concat _ _ _).trans (Nat.add_zero _)
  | claimed call fallsBack worker remaining found running parked ready =>
    obtain ⟨⟨epoch, before⟩, held, slot⟩ := Option.bind_eq_some_iff.mp ready
    obtain ⟨idleTimeout, duty, rfl⟩ := Worker.serving_of_slot slot
    have changed : (system.handOver call worker remaining).1.borne kind + _ = _ :=
      borne_of_modify held (Worker.receive (.task call)) rfl
    have grown : (Stage.serving idleTimeout (some (.task call)) duty).bears kind =
        (Stage.serving idleTimeout none duty).bears kind + (kind call).toNat := by
      cases duty <;> simp [Stage.bears, Stage.given?, Stage.task?, Nat.add_comm]
    have said : (system.handOver call worker remaining).2.countP (·.frees kind) = 0 ∧
        (system.handOver call worker remaining).2.countP (·.gives kind) = (kind call).toNat := by
      simp [handOver, reply, Counting.countP_cons, Event.frees, Event.gives]
    simp only [Worker.receive] at changed
    omega
  | stopBegun call found active =>
    exact quiet (borne_of_told (awaitLastWorker_workers _ call))
      (by simp [retireAll, Event.frees, Event.gives])
  | looked call found =>
    refine quiet ?_ (by simp)
    rw [borne, awaitLastWorker_workers]
    rfl
  | abandoned unused active =>
    exact quiet (borne_of_told (letGo_workers active))
      (by simp [letGo_of_active active, retireAll, Event.frees, Event.gives])
  | ended number epoch idleTimeout slot task outcome found =>
    obtain rfl := empty found rfl
    have changed : (system.setStage number _).borne kind + _ = _ :=
      borne_of_modify found (Worker.move (.serving idleTimeout none (.ofOutcome task outcome))) rfl
    have less : (Stage.serving idleTimeout none (.ofOutcome task outcome)).bears kind = 0 ∧
        (Stage.serving idleTimeout none (.executing task)).bears kind = (kind task).toNat := by
      cases outcome <;> simp [Stage.bears, Stage.given?, Stage.task?, Duty.ofOutcome]
    simp only [Worker.move] at changed
    simp only [Counting.countP_cons, List.countP_nil, Event.frees, Event.gives, Bool.toNat_false]
    omega
  | began number epoch idleTimeout task duty waits found =>
    refine quiet (borne_of_same found rfl ?_) (by simp [Event.frees, Event.gives])
    rcases waits with rfl | rfl <;>
      simp [Worker.move, Stage.bears, Stage.given?, Stage.task?]
  | told number epoch idleTimeout duty waits found =>
    refine quiet (borne_of_same found rfl ?_) (by simp)
    rcases waits with rfl | rfl <;> rfl
  | withdrawn number epoch timeout slot found parked =>
    obtain ⟨_, _, same, _⟩ := (Stage.parked_iff _).mp ((census.parked_iff found).mp parked)
    obtain ⟨-, rfl, -⟩ := Stage.serving.inj same
    exact quiet (borne_of_same found rfl rfl) (by simp [Event.frees, Event.gives])
  | kept number epoch timeout slot found =>
    refine quiet (borne_of_same found rfl ?_) (by simp [Event.frees, Event.gives])
    rcases slot with - | ⟨- | -⟩ <;> rfl
  | spilled number epoch idleTimeout slot task failure found
  | broke number epoch idleTimeout slot task failure found
  | failed number epoch idleTimeout slot task failure found
  | reported number epoch idleTimeout slot task failure found
  | parkedAgain number idleTimeout slot task found
  | leftAfterTask number epoch idleTimeout slot task found
  | leftRetired number epoch idleTimeout slot found =>
    obtain rfl := empty found rfl
    exact quiet (borne_of_same found rfl rfl) (by simp [Event.frees, Event.gives])
  | departed number epoch departure found =>
    cases departure <;>
      exact quiet (borne_of_same found rfl rfl) (by simp [depart, Event.frees, Event.gives])
  | stale number epoch found | registered number found | turnedAway number found
  | discarded number found | forgotten number epoch found | expired number epoch timeout found
  | idled number epoch timeout found =>
    exact quiet (borne_of_same found rfl rfl) (by simp [Event.frees, Event.gives])

end System

end Standby.Dispatcher
