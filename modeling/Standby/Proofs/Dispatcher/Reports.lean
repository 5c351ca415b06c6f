import Standby.Proofs.Dispatcher.Crew
import Standby.Proofs.Dispatcher.Standing

/-!
# Reports of failed tasks

A worker that has executed a task tells how it ended, reports it if it has failed, and then gives
the task back, before it tells anything of this kind about another task. So what a worker has told
falls into conclusions of single tasks, the last of which may be incomplete. What is missing from
it can be read off what the worker is doing.

A worker that its task brings down concludes nothing any more.
-/

namespace Standby.Dispatcher

/-- The event tells how a task that this worker has executed comes to its end. -/
def Event.concludes (number : WorkerId) : Event → Bool
  | .ended worker _ _ | .faulted worker _ | .finished worker _ => worker = number
  | _ => false

/-- What a worker tells about the end of a task: a failure is reported before the task is given
back. -/
def conclusion (number : WorkerId) (task : Task) (outcome : Outcome) : List Event :=
  match outcome with
  | .returned => [.ended number task outcome, .finished number task]
  | .failed failure =>
    [.ended number task outcome, .faulted number failure.message, .finished number task]

/-- What a worker has still to tell about a task that has ended. -/
def Duty.untold (number : WorkerId) : Duty → List Event
  | .failed task failure | .reporting task failure =>
    [.faulted number failure.message, .finished number task]
  | .ended task => [.finished number task]
  | _ => []

/-- What a worker at a stage still has to tell of its task. -/
def Stage.untold (number : WorkerId) : Stage → List Event
  | .serving _ _ duty => duty.untold number
  | _ => []

/-- What the worker with a number still has to tell of its task. -/
def System.untold (system : System) (number : WorkerId) : List Event :=
  (system.workers[number]?.map (·.stage.untold number)).getD []

/-- Only what this worker does concludes its tasks. -/
theorem Event.concludes_of_foreign {event : Event} {number : WorkerId}
    (foreign : event.actor? ≠ some number) : event.concludes number = false := by
  cases event with
  | ended worker | faulted worker | finished worker => simpa [actor?, concludes] using foreign
  | _ => rfl

/-- What happens to others concludes nothing for a worker. -/
theorem filter_concludes_of_foreign {events : List Event} {number : WorkerId}
    (foreign : ∀ event ∈ events, event.actor? ≠ some number) :
    events.filter (Event.concludes number) = [] := by
  apply List.filter_eq_nil_iff.mpr
  intro event happened
  simp [Event.concludes_of_foreign (foreign event happened)]

/-- A worker that advances and is not brought down tells what it has still to tell, or begins to
conclude a task. -/
theorem Advance.concluded {roster : Roster} {number : WorkerId} {epoch : Nat} {own : Bool}
    {before after : Stage} {events : List Event}
    (advance : Advance roster number epoch own before after events)
    (whole : after ≠ .gone .broken) :
    ∃ ends : List (Task × Outcome),
      events.filter (Event.concludes number) ++ after.untold number =
        before.untold number ++ ends.flatMap fun last => conclusion number last.1 last.2 := by
  cases advance with
  | ended task idleTimeout slot outcome =>
    refine ⟨[(task, outcome)], ?_⟩
    cases outcome <;> simp [Event.concludes, Stage.untold, Duty.untold, Duty.ofOutcome, conclusion]
  | broke => exact absurd rfl whole
  | began task idleTimeout duty waits | told idleTimeout duty waits =>
    rcases waits with rfl | rfl <;>
      exact ⟨[], by simp [Event.concludes, Stage.untold, Duty.untold]⟩
  | _ => exact ⟨[], by simp [Event.concludes, Stage.untold, Duty.untold]⟩

namespace System

variable {system next : System} {events : List Event}

/-- What a section adds to what a worker tells about the ends of tasks. -/
theorem concluded_of_crew {own : Bool} (crew : Crew system next events own)
    (whole : next.Unbroken) (number : WorkerId) :
    ∃ ends : List (Task × Outcome),
      events.filter (Event.concludes number) ++ next.untold number =
        system.untold number ++ ends.flatMap fun last => conclusion number last.1 last.2 := by
  cases found : system.workers[number]? with
  | none =>
    -- A loop that is created has nothing to tell.
    obtain ⟨later, foreign⟩ := crew.newcomer found
    refine ⟨[], ?_⟩
    rw [filter_concludes_of_foreign foreign]
    rcases later with missing | queued
    · simp [untold, found, missing]
    · simp [untold, found, queued, Stage.untold]
  | some worker =>
    obtain ⟨epoch, before⟩ := worker
    obtain ⟨after, stands, becomes⟩ := crew.worker found
    have unbroken : after ≠ .gone .broken :=
      Stage.ne_broken_of_whole (whole _ (List.mem_of_getElem? stands))
    simp only [untold, found, stands, Option.map_some, Option.getD_some]
    rcases becomes with ⟨same, foreign⟩ | advance
    · refine ⟨[], ?_⟩
      rw [filter_concludes_of_foreign foreign]
      rcases same with rfl | ⟨idleTimeout, duty, rfl, rfl⟩ <;> simp [Stage.untold]
    · exact advance.concluded unbroken

/-- Unless somebody is brought down, what a worker has told and has still to tell are conclusions of
tasks, one after the other. -/
theorem play_concluded {capacity : Nat} {idleTimeout : Option Duration.Millis} {moves : List Move}
    {result : System × List Event} (sound : ∀ move ∈ moves, move.bringsDown = false)
    (run : (fresh capacity idleTimeout).play moves = some result) (number : WorkerId) :
    ∃ ends : List (Task × Outcome),
      result.2.filter (Event.concludes number) ++ result.1.untold number =
        ends.flatMap fun last => conclusion number last.1 last.2 := by
  let invariant (system : System) (events : List Event) : Prop :=
    system.Unbroken ∧ ∃ ends : List (Task × Outcome),
      events.filter (Event.concludes number) ++ system.untold number =
        ends.flatMap fun last => conclusion number last.1 last.2
  have start : invariant (fresh capacity idleTimeout) [] :=
    ⟨fun _ member => by simp [fresh] at member, [], rfl⟩
  refine (play_sections invariant [] moves ?_ (.fresh capacity idleTimeout) start run).2.2
  rintro move member system events result order ⟨whole, ends, told⟩ made
  have unbroken : result.1.Unbroken :=
    unbroken_of_section whole made (sound move member)
  obtain ⟨more, tells⟩ := concluded_of_crew (crew_of_section made) unbroken number
  refine ⟨unbroken, ends ++ more, ?_⟩
  rw [List.filter_append, List.append_assoc, tells, ← List.append_assoc, told, List.flatMap_append]

end System

end Standby.Dispatcher
