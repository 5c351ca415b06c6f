import Standby.Proofs.Dispatcher.Crew
import Standby.Proofs.Dispatcher.Origin

/-!
# Tasks that are executed

A worker goes on to execute its task until a move ends it. As long as all tasks that end
return, no worker ever has a failed task, and none is counted.
-/

namespace Standby.Dispatcher

/-- The task that is executed at this stage. -/
def Stage.task? : Stage → Option Task
  | .serving _ _ (.executing task) => some task
  | _ => none

/-- The worker has a failed task that is not yet reported, or was brought down by one. -/
def Stage.isFailing : Stage → Bool
  | .serving _ _ (.failed _ _) | .serving _ _ (.reporting _ _) | .gone .broken => true
  | _ => false

/-- The move lets no task fail. -/
def Move.Returns : Move → Prop
  | .finish _ outcome => outcome = .returned
  | _ => True

namespace System

variable {system : System} {move : Move} {result : System × List Event}

/-- A task ends in a move that ends it. -/
theorem eq_finish_of_ended (made : Section system move result) {number : WorkerId} {task : Task}
    {outcome : Outcome} (ends : .ended number task outcome ∈ result.2) :
    move = .finish number outcome :=
  move_of_event made ends rfl

/-- A worker goes on to execute its task until a move ends it. -/
theorem task_of_section (made : Section system move result) {number : WorkerId} {worker : Worker}
    {task : Task} (found : system.workers[number]? = some worker)
    (executes : worker.stage.task? = some task) :
    (∃ later, result.1.workers[number]? = some later ∧ later.stage.task? = some task) ∨
      ∃ outcome, move = .finish number outcome := by
  obtain ⟨own, crew⟩ : ∃ own, Crew system result.1 result.2 own := ⟨_, crew_of_section made⟩
  obtain ⟨epoch, before⟩ := worker
  obtain ⟨after, stands, becomes⟩ := crew.worker found
  rcases becomes with ⟨same, _⟩ | advance
  · refine .inl ⟨⟨epoch, after⟩, stands, ?_⟩
    rcases same with rfl | ⟨idleTimeout, duty, rfl, rfl⟩
    · exact executes
    · cases duty <;> exact executes
  · obtain ⟨events, happened⟩ : ∃ events, result.2 = events := ⟨_, rfl⟩
    rw [happened] at advance
    cases advance with
    | claimed given idleTimeout duty =>
      refine .inl ⟨⟨epoch, .serving idleTimeout (some (.task given)) duty⟩, stands, ?_⟩
      cases duty <;> exact executes
    | ended _ _ _ outcome =>
      exact .inr ⟨outcome, eq_finish_of_ended made (by simp [happened]; rfl)⟩
    | began _ _ duty waits | told _ duty waits => rcases waits with rfl | rfl <;> cases executes
    | _ => cases executes

/-- No task has failed. -/
structure Unfailed (system : System) : Prop where
  uncounted : system.tally.taskFailures = 0
  nobody : ∀ worker ∈ system.workers, worker.stage.isFailing = false

namespace Unfailed

/-- In a new dispatcher no task has failed. -/
theorem fresh (capacity : Nat) (idleTimeout : Option Duration.Millis) :
    (System.fresh capacity idleTimeout).Unfailed := ⟨rfl, nofun⟩

/-- Unless a worker counts a failed task, the number of failures stays. -/
theorem taskFailures_of_section (unfailed : system.Unfailed) (made : Section system move result) :
    result.1.tally.taskFailures = 0 := by
  refine Eq.trans ?_ unfailed.uncounted
  cases made with
  | turnedDown call fallsBack | declined call fallsBack => cases fallsBack <;> rfl
  | counted call fallsBack count event stage found answered =>
    rcases answered with ⟨_, _, rfl, _⟩ | ⟨_, _, _, rfl, _⟩ <;> rfl
  | stopBegun | looked =>
    unfold awaitLastWorker
    split <;> rfl
  | departed number epoch departure => cases departure <;> rfl
  | abandoned unused active =>
    rw [letGo_of_active active]
    dsimp only
    split <;> rfl
  | failed number epoch idleTimeout slot task failure found =>
    have failing := unfailed.nobody _ (List.mem_of_getElem? found)
    cases failing
  | _ => rfl

/-- A task that returns has not failed. -/
theorem of_finish (unfailed : system.Unfailed) {number : WorkerId}
    (made : system.step (.finish number .returned) = some result) : result.1.Unfailed := by
  obtain ⟨worker, found, finished⟩ := Option.bind_eq_some_iff.mp made
  unfold finish at finished
  split at finished
  · rename_i idleTimeout slot task same
    obtain rfl := Option.some.inj finished
    exact ⟨unfailed.uncounted, Counting.forall_modify found unfailed.nobody rfl⟩
  · cases finished

/-- When all tasks that end return, none fails. -/
theorem of_step (unfailed : system.Unfailed) (ready : system.ParkedReady)
    (made : system.step move = some result) (returns : move.Returns) : result.1.Unfailed := by
  have section_made : Section system move result := section_of_step ready made
  have kept (elsewhere : ∀ number outcome, move ≠ .finish number outcome) :
      result.1.Unfailed := by
    refine ⟨unfailed.taskFailures_of_section section_made, ?_⟩
    obtain ⟨own, crew⟩ : ∃ own, Crew system result.1 result.2 own :=
      ⟨_, crew_of_section section_made⟩
    refine Crew.forall (P := fun stage => stage.isFailing = false) crew unfailed.nobody rfl
      (fun _ duty sound => by cases duty <;> first | rfl | cases sound)
      fun number epoch before after advance sound => ?_
    obtain ⟨events, happened⟩ : ∃ events, result.2 = events := ⟨_, rfl⟩
    rw [happened] at advance
    cases advance with
    | claimed given idleTimeout duty => cases duty <;> first | rfl | cases sound
    | ended task _ _ outcome =>
      exact absurd (eq_finish_of_ended section_made (by simp [happened]; rfl))
        (elsewhere number outcome)
    | failed | reported | broke => cases sound
    | _ => rfl
  cases move with
  | finish number outcome =>
    obtain rfl : outcome = .returned := returns
    exact unfailed.of_finish made
  | _ => exact kept nofun

end Unfailed

end System

end Standby.Dispatcher
