import Standby.Proofs.Dispatcher.Custody

/-!
# Handing tasks over

An accepted task is handed to one worker and to nobody else: it lies in the slot of
this worker, or is in its hands, or has ended there, and never in two of these places.
What has happened to it is always the beginning of the same short story, in which it is
begun once and ends once. A task that is not accepted goes back to its caller or on to
the executor, and no worker ever has it.
-/

namespace Standby.Dispatcher

open Duration (Millis)

/-- Where a task can be that was given to a worker. -/
inductive Place where
  | slot
  | hands
  | finished
deriving DecidableEq, Repr

/-- The worker that a task was given to, and where the task is. -/
def Fate.place? : Fate → Option (WorkerId × Place)
  | .waiting worker => some (worker, .slot)
  | .executing worker => some (worker, .hands)
  | .ended worker _ => some (worker, .finished)
  | _ => none

namespace System

/-- The place of a task with a worker. -/
def Lies (system : System) (events : List Event) (task : Task) (worker : WorkerId) :
    Place → Prop
  | .slot => system.slot? worker = some (some (.task task))
  | .hands => system.duty? worker = some (.executing task)
  | .finished => ∃ outcome, .ended worker task outcome ∈ events

/-- A worker was given a task, and so was nobody else. -/
structure HandedTo (system : System) (events : List Event) (task : Task) (worker : WorkerId) :
    Prop where
  claimed : ∀ other, .claimed other task ∈ events ↔ other = worker
  /-- The task is in exactly one place with this worker. -/
  placed : ∃! place, system.Lies events task worker place
  /-- It is nowhere else. -/
  sole : ∀ other place, system.Lies events task other place → other = worker
  /-- This worker, and no other, begins it as soon as it has left the slot. -/
  begun : ∀ other, .began other task ∈ events ↔
    other = worker ∧ ¬ system.Lies events task worker .slot
  /-- It is begun at most once and ends at most once. -/
  story : ∃ outcome, events.filter (·.concerns task) <+:
    [.claimed worker task, .returned task .accepted, .began worker task,
      .ended worker task outcome]

/-- No worker was ever given a task. -/
structure Withheld (system : System) (events : List Event) (task : Task) : Prop where
  unclaimed : ∀ worker, .claimed worker task ∉ events
  nowhere : ∀ worker place, ¬ system.Lies events task worker place
  unbegun : ∀ worker, .began worker task ∉ events

/-- Tasks are handed over once or not at all. -/
structure HandsOverOnce (system : System) (events : List Event) : Prop where
  /-- An accepted task has gone to one worker. -/
  accepted : ∀ task, .returned task .accepted ∈ events →
    ∃ worker, system.HandedTo events task worker
  /-- A declined task is back with its caller. -/
  declined : ∀ task given, .returned task (.declined given) ∈ events →
    given = task ∧ system.Withheld events task
  /-- A task that was passed on is with the executor. -/
  passed : ∀ task, .fellBack task ∈ events → system.Withheld events task

variable {system : System} {events : List Event} {task : Task} {fate : Fate}

namespace Keeps

/-- What has happened to a task is its history. -/
theorem mem_iff (keeps : system.Keeps events task fate) {event : Event}
    (concerned : event.concerns task = true) :
    event ∈ events ↔ event ∈ fate.history task := by
  rw [← keeps.history, List.mem_filter]
  simp [concerned]

/-- The place of a task can be seen from its fate. -/
theorem lies_iff (keeps : system.Keeps events task fate) (worker : WorkerId) (place : Place) :
    system.Lies events task worker place ↔ fate.place? = some (worker, place) := by
  cases place with
  | slot =>
    apply (keeps.holder worker .slot).trans
    cases fate <;> simp [Fate.holder?, Fate.place?]
  | hands =>
    apply (keeps.holder worker .hands).trans
    cases fate <;> simp [Fate.holder?, Fate.place?]
  | finished =>
    have ended (outcome : Outcome) : .ended worker task outcome ∈ events ↔
        .ended worker task outcome ∈ fate.history task :=
      keeps.mem_iff (by simp [Event.concerns])
    simp only [Lies, ended]
    cases fate <;> simp [Fate.history, Fate.place?, eq_comm]

/-- The only places of a task are with the worker that it was given to. -/
theorem handedTo (keeps : system.Keeps events task fate) {worker : WorkerId} {place : Place}
    (given : fate.place? = some (worker, place)) : system.HandedTo events task worker where
  claimed other := by
    rw [keeps.mem_iff (by simp [Event.concerns])]
    cases fate <;> simp_all [Fate.place?, Fate.history]
  placed := by
    refine ⟨place, (keeps.lies_iff worker place).mpr given, fun other lies => ?_⟩
    have also := (keeps.lies_iff worker other).mp lies
    simp_all
  sole other elsewhere lies := by
    have also := (keeps.lies_iff other elsewhere).mp lies
    simp_all
  begun other := by
    rw [keeps.mem_iff (by simp [Event.concerns]), keeps.lies_iff, given]
    cases fate with
    | waiting holder | executing holder | ended holder outcome =>
      obtain ⟨rfl, rfl⟩ : holder = worker ∧ _ = place := by simpa [Fate.place?] using given
      simp [Fate.history]
    | _ => cases given
  story := by
    rw [keeps.history]
    cases fate with
    | waiting holder | executing holder =>
      obtain ⟨rfl, rfl⟩ : holder = worker ∧ _ = place := by simpa [Fate.place?] using given
      exact ⟨.returned, by simp [Fate.history]⟩
    | ended holder outcome =>
      obtain ⟨rfl, rfl⟩ : holder = worker ∧ _ = place := by simpa [Fate.place?] using given
      exact ⟨outcome, by simp [Fate.history]⟩
    | _ => cases given

/-- A task that is in no place was never given to a worker. -/
theorem withheld (keeps : system.Keeps events task fate) (nowhere : fate.place? = none) :
    system.Withheld events task where
  unclaimed worker := by
    rw [keeps.mem_iff (by simp [Event.concerns])]
    cases fate <;> simp_all [Fate.place?, Fate.history]
  nowhere worker place := by simp [keeps.lies_iff, nowhere]
  unbegun worker := by
    rw [keeps.mem_iff (by simp [Event.concerns])]
    cases fate <;> simp_all [Fate.place?, Fate.history]

/-- An accepted task was given to a worker. -/
theorem given_of_accepted (keeps : system.Keeps events task fate)
    (accepted : .returned task .accepted ∈ events) :
    ∃ worker place, fate.place? = some (worker, place) := by
  rw [keeps.mem_iff (by simp [Event.concerns])] at accepted
  cases fate with
  | waiting worker => exact ⟨worker, .slot, rfl⟩
  | executing worker => exact ⟨worker, .hands, rfl⟩
  | ended worker outcome => exact ⟨worker, .finished, rfl⟩
  | passed refusal => cases refusal <;> simp [Fate.history] at accepted
  | answered fault => cases fault <;> simp [Fate.history] at accepted
  | _ => simp [Fate.history] at accepted

/-- A caller that is given a task back gets its own. -/
theorem eq_declined_of_returned (keeps : system.Keeps events task fate) {given : Task}
    (declined : .returned task (.declined given) ∈ events) :
    given = task ∧ fate = .declined := by
  rw [keeps.mem_iff (by simp [Event.concerns])] at declined
  cases fate with
  | declined => exact ⟨by simpa [Fate.history] using declined, rfl⟩
  | passed refusal => cases refusal <;> simp [Fate.history] at declined
  | answered fault => cases fault <;> simp [Fate.history] at declined
  | _ => simp [Fate.history] at declined

/-- A task that was passed on was given to no worker. -/
theorem place_of_fellBack (keeps : system.Keeps events task fate)
    (passed : .fellBack task ∈ events) : fate.place? = none := by
  rw [keeps.mem_iff (by simp [Event.concerns])] at passed
  cases fate with
  | passing | passed refusal => rfl
  | answered fault => rfl
  | _ => simp [Fate.history] at passed

end Keeps

/-- Every run hands its tasks over once or not at all. -/
theorem play_handsOverOnce (capacity : Nat) (idleTimeout : Option Millis) (moves : List Move)
    (system : System) (events : List Event)
    (run : (fresh capacity idleTimeout).play moves = some (system, events)) :
    system.HandsOverOnce events := by
  have custody : system.InCustody events := inCustody_of_play run
  constructor
  · intro task accepted
    obtain ⟨fate, keeps⟩ := custody task
    obtain ⟨worker, place, given⟩ := keeps.given_of_accepted accepted
    exact ⟨worker, keeps.handedTo given⟩
  · intro task given declined
    obtain ⟨fate, keeps⟩ := custody task
    obtain ⟨same, rfl⟩ := keeps.eq_declined_of_returned declined
    exact ⟨same, keeps.withheld rfl⟩
  · intro task passed
    obtain ⟨fate, keeps⟩ := custody task
    exact keeps.withheld (keeps.place_of_fellBack passed)

/-- One offer creates the only worker loop and is declined. The next is accepted while
the worker is about to leave for being idle, and a third one finds the worker busy. The
dispatcher is told to stop before the accepted task is begun. -/
def lastMoment : List Move :=
  [.invoke .start, .proceed 0, .invoke (.offer false), .proceed 1, .launch 0, .answer 1 none,
    .proceed 1, .proceed 1, .expire 0, .invoke (.offer false), .invoke (.offer true),
    .proceed 2, .proceed 3, .work 0, .invoke .stop, .proceed 4, .work 0]

/-- The accepted task of this run is in the hands of the worker, and of the others one is
back with its caller and one with the executor. -/
theorem lastMoment_handsOverOnce :
    ∃ system events, (fresh 1 (some 5)).play lastMoment = some (system, events) ∧
      .returned 2 .accepted ∈ events ∧ .returned 1 (.declined 1) ∈ events ∧
      .fellBack 3 ∈ events ∧ system.duty? 0 = some (.executing 2) ∧
      system.HandsOverOnce events :=
  ⟨_, _, rfl, by decide, by decide, by decide, rfl,
    play_handsOverOnce 1 (some 5) lastMoment _ _ rfl⟩

end System

end Standby.Dispatcher
