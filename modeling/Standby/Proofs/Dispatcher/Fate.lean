import Standby.Proofs.Dispatcher.Order

/-!
# The fates of tasks

What becomes of the task that a call brings. Until its call is answered it is with the
caller. An accepted task goes to the slot of one worker, from there into the hands of
that worker, and ends; a declined one goes back, or on to the executor. Each of these
fates leaves its own history behind.

A task keeps its fate in every section that neither says anything about it nor moves it
nor decides about its call. The lemmas here tell when that is so.
-/

namespace Standby.Dispatcher

open Duration (Millis)
open Executor (Refusal)

/-- How a worker can have a task. -/
inductive Hold where
  /-- The task lies in the slot of the worker. -/
  | slot
  /-- The worker executes it. -/
  | hands
deriving DecidableEq, Repr

/-- What has become of the task that a call brings. -/
inductive Fate where
  /-- The call has not been answered. -/
  | open
  /-- It lies in the slot of a worker. -/
  | waiting (worker : WorkerId)
  | executing (worker : WorkerId)
  | ended (worker : WorkerId) (outcome : Outcome)
  /-- The caller has it again. -/
  | declined
  /-- The executor is asked to take it. -/
  | passing
  /-- The executor has taken or refused it. -/
  | passed (refusal : Option Refusal)
  /-- The call brought no task, and has been answered. -/
  | answered (fault : Option IllegalPhase)
deriving DecidableEq, Repr

/-- What happens to the task of a call, and the answer of the call. -/
def Event.concerns (task : Task) (event : Event) : Bool :=
  match event with
  | .claimed _ other | .returned other _ | .fellBack other | .began _ other
  | .ended _ other _ => other = task
  | _ => false

namespace Fate

/-- All that has happened to a task that has met this fate. -/
def history (task : Task) : Fate → List Event
  | .open => []
  | .waiting worker => [.claimed worker task, .returned task .accepted]
  | .executing worker =>
    [.claimed worker task, .returned task .accepted, .began worker task]
  | .ended worker outcome =>
    [.claimed worker task, .returned task .accepted, .began worker task,
      .ended worker task outcome]
  | .declined => [.returned task (.declined task)]
  | .passing => [.fellBack task]
  | .passed refusal =>
    [.fellBack task, .returned task ((refusal.map Answer.refused).getD .fallback)]
  | .answered fault => [.returned task ((fault.map Answer.illegal).getD .done)]

/-- The worker that has the task. -/
def holder? : Fate → Option (WorkerId × Hold)
  | .waiting worker => some (worker, .slot)
  | .executing worker => some (worker, .hands)
  | _ => none

/-- A task in the slot of a worker waits there. -/
theorem eq_waiting {fate : Fate} {worker : WorkerId}
    (held : fate.holder? = some (worker, .slot)) : fate = .waiting worker := by
  cases fate <;> simp_all [holder?]

/-- A task in the hands of a worker is executed by it. -/
theorem eq_executing {fate : Fate} {worker : WorkerId}
    (held : fate.holder? = some (worker, .hands)) : fate = .executing worker := by
  cases fate <;> simp_all [holder?]

end Fate

namespace Call

/-- The fate of the task of a call that has not returned. -/
def fate : Call → Fate
  | .fallingBack => .passing
  | _ => .open

/-- No worker has the task of a call that has not returned. -/
theorem holder?_fate (call : Call) : call.fate.holder? = none := by
  cases call <;> rfl

/-- Waking up decides nothing. -/
theorem fate_wake (call : Call) : call.wake.fate = call.fate := by
  cases call <;> rfl

end Call

/-- A worker has a task. -/
def Worker.Holds (worker : Worker) (task : Task) : Hold → Prop
  | .slot => worker.slot? = some (some (.task task))
  | .hands => worker.duty? = some (.executing task)

namespace System

/-- A worker of this system has a task. -/
def Holds (system : System) (number : WorkerId) (task : Task) : Hold → Prop
  | .slot => system.slot? number = some (some (.task task))
  | .hands => system.duty? number = some (.executing task)

/-- A task has met this fate: its history, those that have it, and its call agree. -/
structure Keeps (system : System) (events : List Event) (task : Task) (fate : Fate) :
    Prop where
  history : events.filter (·.concerns task) = fate.history task
  holder : ∀ worker hold, system.Holds worker task hold ↔ fate.holder? = some (worker, hold)
  call : ∀ stage, system.calls.get? task = some stage → fate = stage.fate
  future : system.calls.next ≤ task → fate = .open

/-- A task is with the same worker as before. -/
def SameHolder (system next : System) (task : Task) : Prop :=
  ∀ worker hold, next.Holds worker task hold ↔ system.Holds worker task hold

/-- Nothing has been decided about the task of a call. -/
def SameCall (system next : System) (task : Task) : Prop :=
  (∀ stage, next.calls.get? task = some stage →
      ∃ before, system.calls.get? task = some before ∧ before.fate = stage.fate) ∧
    system.calls.next ≤ next.calls.next

section Holders

variable {system next : System} {number : WorkerId} {worker : Worker}

/-- What a worker holds is seen from its stage. -/
theorem holds_of_found (found : system.workers[number]? = some worker) (task : Task)
    (hold : Hold) : system.Holds number task hold ↔ worker.Holds task hold := by
  cases hold <;> simp [Holds, Worker.Holds, slot?, duty?, found]

/-- Where there is no worker, nothing is held. -/
theorem holds_of_none (absent : system.workers[number]? = none) (task : Task) (hold : Hold) :
    ¬ system.Holds number task hold := by
  cases hold <;> simp [Holds, slot?, duty?, absent]

/-- As long as the workers stay, so does whoever holds a task. -/
theorem sameHolder_of_workers (workers : next.workers = system.workers) (task : Task) :
    SameHolder system next task := by
  intro other hold
  cases hold <;> simp [Holds, slot?, duty?, workers]

/-- One worker changes, and the others have what they had. -/
theorem holds_of_modify (found : system.workers[number]? = some worker)
    (change : Worker → Worker) (workers : next.workers = system.workers.modify number change)
    (other : WorkerId) (task : Task) (hold : Hold) :
    next.Holds other task hold ↔
      if other = number then (change worker).Holds task hold
      else system.Holds other task hold := by
  split
  · rename_i same
    subst same
    exact holds_of_found (by simp [workers, found]) task hold
  · rename_i different
    cases hold <;>
      simp only [Holds, slot?, duty?, workers, List.getElem?_modify_ne _ _ (Ne.symm different)]

/-- A task stays where it is when a worker changes that has nothing to do with it. -/
theorem sameHolder_of_modify (found : system.workers[number]? = some worker)
    (change : Worker → Worker) (workers : next.workers = system.workers.modify number change)
    (task : Task) (same : ∀ hold, (change worker).Holds task hold ↔ worker.Holds task hold) :
    SameHolder system next task := by
  intro other hold
  rw [holds_of_modify found change workers]
  split
  · rename_i here
    rw [here, same, holds_of_found found]
  · rfl

/-- A new loop has no task. -/
theorem sameHolder_of_created (workers : next.workers = system.workers ++ [⟨number, .queued⟩])
    (task : Task) : SameHolder system next task := by
  intro other hold
  by_cases newest : other = system.workers.length
  · have absent : system.workers[other]? = none := by simp [newest]
    have present : next.workers[other]? = some ⟨number, .queued⟩ := by simp [workers, newest]
    rw [holds_of_found present]
    refine iff_of_false ?_ (holds_of_none absent task hold)
    cases hold <;> simp [Worker.Holds, Worker.slot?, Worker.duty?]
  · cases hold <;> simp [Holds, slot?, duty?, workers, Counting.getElem?_concat, newest]

/-- The word to retire goes to empty slots only. -/
theorem sameHolder_of_told {capacity : Nat}
    (census : Census capacity system.roster system.workers)
    (workers : next.workers = system.workers.mapIdx system.roster.tell) (task : Task) :
    SameHolder system next task := by
  intro other hold
  cases found : system.workers[other]? with
  | none =>
    have absent : next.workers[other]? = none := by simp [workers, found]
    exact iff_of_false (holds_of_none absent task hold) (holds_of_none found task hold)
  | some worker =>
    have present : next.workers[other]? = some (system.roster.tell other worker) := by
      simp [workers, found]
    rw [holds_of_found present, holds_of_found found]
    rcases census.told found with ⟨_, _, same⟩ | ⟨_, epoch, idleTimeout, duty, _, rfl, _, told⟩
    · rw [same]
    · rw [told]
      cases hold <;> simp [Worker.Holds, Worker.slot?, Worker.duty?]

end Holders

section Calls

variable {system next : System} {call : Nat}

/-- As long as the calls stay, so does the call of a task. -/
theorem sameCall_of_calls (calls : next.calls = system.calls) (task : Task) :
    SameCall system next task :=
  ⟨fun stage found => ⟨stage, calls ▸ found, rfl⟩, Nat.le_of_eq (by rw [calls])⟩

/-- A call goes on without a decision. -/
theorem sameCall_of_put {before stage : Call} (found : system.calls.get? call = some before)
    (calls : next.calls = system.calls.put call stage) (undecided : before.fate = stage.fate)
    (task : Task) : SameCall system next task := by
  refine ⟨fun later held => ?_, by rw [calls]; exact Nat.le_refl _⟩
  rw [calls, Register.get?_put] at held
  split at held
  · rename_i same
    subst same
    obtain ⟨_, _, rfl⟩ := Option.map_eq_some_iff.mp held
    exact ⟨before, found, undecided⟩
  · exact ⟨later, held, rfl⟩

/-- Another call may go on as it likes. -/
theorem sameCall_of_put_ne {stage : Call} {task : Task} (different : task ≠ call)
    (calls : next.calls = system.calls.put call stage) : SameCall system next task := by
  refine ⟨fun later held => ⟨later, ?_, rfl⟩, by rw [calls]; exact Nat.le_refl _⟩
  rwa [calls, Register.get?_put, if_neg different] at held

/-- Calls wake up. -/
theorem sameCall_of_wake (calls : next.calls = system.calls.map fun _ call => call.wake)
    (task : Task) : SameCall system next task := by
  refine ⟨fun later held => ?_, by rw [calls]; exact Nat.le_refl _⟩
  rw [calls, Register.get?_map] at held
  obtain ⟨before, found, rfl⟩ := Option.map_eq_some_iff.mp held
  exact ⟨before, found, before.fate_wake.symm⟩

/-- The answer of one call decides nothing about another. -/
theorem SameCall.remove {task : Task} (same : SameCall system next task) (last : System)
    (calls : last.calls = next.calls.remove call) : SameCall system last task := by
  refine ⟨fun later held => ?_, by rw [calls]; exact same.2⟩
  rw [calls, Register.get?_remove] at held
  split at held
  · cases held
  · exact same.1 later held

/-- Looking for the last worker is no decision. -/
theorem sameCall_of_awaitLastWorker {stage : Call}
    (found : system.calls.get? call = some stage) (undecided : stage.fate = .open)
    (calls : next.calls = system.calls) (task : Task) :
    SameCall system (next.awaitLastWorker call) task := by
  unfold awaitLastWorker
  split
  · have put : (setCall (next.setPhase .stopped) call .announcing).calls =
        system.calls.put call .announcing := by
      rw [← calls]
      rfl
    exact sameCall_of_put found put undecided task
  · have put : (next.setCall call (.sleeping .lastWorker)).calls =
        system.calls.put call (.sleeping .lastWorker) := by
      rw [← calls]
      rfl
    exact sameCall_of_put found put undecided task

end Calls

namespace Keeps

variable {system next : System} {events new : List Event} {task : Task} {before fate : Fate}

/-- A task keeps its fate when nothing happens to it. -/
theorem untouched (keeps : system.Keeps events task fate)
    (holder : SameHolder system next task) (call : SameCall system next task)
    (quiet : new.filter (·.concerns task) = []) : next.Keeps (events ++ new) task fate where
  history := by rw [List.filter_append, quiet, List.append_nil, keeps.history]
  holder worker hold := (holder worker hold).trans (keeps.holder worker hold)
  call stage found := by
    obtain ⟨before, held, same⟩ := call.1 stage found
    rw [← same]
    exact keeps.call before held
  future later := keeps.future (Nat.le_trans call.2 later)

/-- The call that brought a task has returned when a worker has the task. -/
theorem call_eq_none (keeps : system.Keeps events task fate) (held : fate.holder?.isSome) :
    system.calls.get? task = none ∧ ¬ system.calls.next ≤ task := by
  constructor
  · apply Option.eq_none_iff_forall_ne_some.mpr
    intro stage found
    rw [keeps.call stage found, stage.holder?_fate] at held
    cases held
  · intro later
    rw [keeps.future later] at held
    cases held

/-- A task meets another fate with one worker. -/
theorem turn (keeps : system.Keeps events task before) {number : WorkerId} {worker : Worker}
    (found : system.workers[number]? = some worker) (change : Worker → Worker)
    (workers : next.workers = system.workers.modify number change)
    (history : before.history task ++ new.filter (·.concerns task) = fate.history task)
    (here : ∀ hold, (change worker).Holds task hold ↔ fate.holder? = some (number, hold))
    (elsewhere : ∀ other hold, other ≠ number →
      before.holder? ≠ some (other, hold) ∧ fate.holder? ≠ some (other, hold))
    (returned : next.calls.get? task = none) (given : ¬ next.calls.next ≤ task) :
    next.Keeps (events ++ new) task fate where
  history := by rw [List.filter_append, keeps.history, history]
  holder other hold := by
    rw [holds_of_modify found change workers]
    split
    · rename_i same
      rw [same, here]
    · rename_i different
      rw [keeps.holder]
      exact iff_of_false (elsewhere other hold different).1 (elsewhere other hold different).2
  call stage pending := by simp [returned] at pending
  future later := absurd later given

end Keeps

end System

end Standby.Dispatcher
