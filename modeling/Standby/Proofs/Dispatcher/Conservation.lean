import Standby.Proofs.Dispatcher.Accounts
import Standby.Proofs.Dispatcher.Custody
import Standby.Proofs.Dispatcher.Exchange
import Standby.Proofs.Dispatcher.Lots

/-!
# Conservation

What a dispatcher counts over its whole life is conserved. At every moment the accepted
tasks are those that are pending and those that were given back, and no more tasks have
failed than were accepted. Once nobody calls and no worker is about to count, the counts
are exactly the numbers of offers, of worker loops and of failed tasks. Two things stay
apart. An offer that the executor breaks off with its worker loop counts neither, and
a failed task is counted before it is reported.
-/

namespace Standby.Dispatcher

open Duration (Millis)

namespace Event

/-- The task that was accepted. -/
def accepted? : Event → Option Task
  | .returned task .accepted => some task
  | _ => none

/-- The task that has failed. -/
def failed? : Event → Option Task
  | .ended _ task (.failed _) => some task
  | _ => none

/-- The task that a worker has given back. -/
def finished? : Event → Option Task
  | .finished _ task => some task
  | _ => none

/-- The task of this worker has come to its end. -/
def endsTask (number : WorkerId) (task : Task) : Event → Bool
  | .ended other own _ => other = number ∧ own = task
  | _ => false

end Event

/-- A worker at this stage has a task that has ended and was not given back. -/
def Stage.isOver (task : Task) : Stage → Bool
  | .serving _ _ (.failed own _) | .serving _ _ (.reporting own _)
  | .serving _ _ (.ended own) => own = task
  | _ => false

/-- A worker gives back only what has ended. -/
theorem Advance.finished_le_ended {roster : Roster} {number : WorkerId} {epoch : Nat} {own : Bool}
    {before after : Stage} {events : List Event}
    (advance : Advance roster number epoch own before after events) (task : Task) :
    (after.isOver task).toNat + events.count (.finished number task) ≤
      (before.isOver task).toNat + events.countP (·.endsTask number task) := by
  cases advance with
  | claimed own idleTimeout duty => cases duty <;> simp [Stage.isOver, Event.endsTask]
  | began own idleTimeout duty waits | told idleTimeout duty waits =>
    rcases waits with rfl | rfl <;> simp [Stage.isOver, Event.endsTask]
  | ended own idleTimeout slot outcome =>
    by_cases same : own = task <;> cases outcome <;>
      simp [Stage.isOver, Event.endsTask, Duty.ofOutcome, same]
  | parkedAgain own | leftAfterTask own =>
    by_cases same : own = task <;> simp [Stage.isOver, Event.endsTask, same]
  | _ => simp [Stage.isOver, Event.endsTask]

namespace System

variable {system : System} {events : List Event} {task : Task} {fate : Fate}
  {number : WorkerId} {outcome : Outcome}

namespace Keeps

/-- What concerns a task can be counted in its history. -/
theorem countP_eq (keeps : system.Keeps events task fate) {p : Event → Bool}
    (concerned : ∀ event, p event = true → event.concerns task = true) :
    events.countP p = (fate.history task).countP p := by
  rw [← keeps.history, List.countP_filter]
  refine List.countP_congr fun event _ => ?_
  simp only [Bool.and_eq_true]
  exact ⟨fun holds => ⟨holds, concerned event holds⟩, And.left⟩

/-- What belongs to the history of a task has happened. -/
theorem mem_of_history (keeps : system.Keeps events task fate) {event : Event}
    (told : event ∈ fate.history task) : event ∈ events := by
  rw [← keeps.history] at told
  exact (List.mem_filter.mp told).1

/-- The end of a task with a worker is a fate of its own. -/
theorem eq_ended (keeps : system.Keeps events task fate) {number : WorkerId}
    (ended : 0 < events.countP (·.endsTask number task)) :
    ∃ outcome, fate = .ended number outcome := by
  rw [keeps.countP_eq fun event ends => by
    cases event <;> simp_all [Event.endsTask, Event.concerns]] at ended
  cases fate with
  | ended worker outcome =>
    refine ⟨outcome, congrArg (Fate.ended · outcome) ?_⟩
    by_contra different
    simp [Fate.history, Event.endsTask, different] at ended
  | passed refusal => cases refusal <;> simp [Fate.history, Event.endsTask] at ended
  | answered fault => cases fault <;> simp [Fate.history, Event.endsTask] at ended
  | _ => simp [Fate.history, Event.endsTask] at ended

/-- A task ends at most once with the worker that has it. -/
theorem ended_le (keeps : system.Keeps events task (.ended number outcome)) :
    events.countP (·.endsTask number task) ≤ 1 := by
  rw [keeps.countP_eq fun event ends => by
    cases event <;> simp_all [Event.endsTask, Event.concerns]]
  simp [Fate.history, Event.endsTask]

end Keeps

/-- Where each task is told of at most once, no task is repeated. -/
theorem nodup_of_custody (custody : system.InCustody events) {task? : Event → Option Task}
    (concerned : ∀ event task, task? event = some task → event.concerns task = true)
    (once : ∀ (fate : Fate) task, (fate.history task).countP (task? · == some task) ≤ 1) :
    (events.filterMap task?).Nodup := by
  refine List.nodup_iff_count_le_one.mpr fun task => ?_
  obtain ⟨fate, keeps⟩ := custody task
  calc (events.filterMap task?).count task
      = events.countP (task? · == some task) := by
        rw [List.count, List.countP_filterMap]
        exact List.countP_congr fun event _ => by cases same : task? event <;> simp
    _ = (fate.history task).countP (task? · == some task) :=
        keeps.countP_eq fun event told => concerned event task (eq_of_beq told)
    _ ≤ 1 := once fate task

/-- No task is accepted twice. -/
theorem nodup_accepted (custody : system.InCustody events) :
    (events.filterMap Event.accepted?).Nodup := by
  refine nodup_of_custody custody (fun event task accepted => ?_) fun fate task => ?_
  · cases event with
    | returned call answer => cases answer <;> simp_all [Event.accepted?, Event.concerns]
    | _ => cases accepted
  · cases fate with
    | passed refusal => cases refusal <;> simp [Fate.history, Event.accepted?]
    | answered fault => cases fault <;> simp [Fate.history, Event.accepted?]
    | _ => simp [Fate.history, Event.accepted?]

/-- No task fails twice. -/
theorem nodup_failed (custody : system.InCustody events) :
    (events.filterMap Event.failed?).Nodup := by
  refine nodup_of_custody custody (fun event task failed => ?_) fun fate task => ?_
  · cases event with
    | ended worker own outcome => cases outcome <;> simp_all [Event.failed?, Event.concerns]
    | _ => cases failed
  · cases fate with
    | ended worker outcome => cases outcome <;> simp [Fate.history, Event.failed?]
    | passed refusal => cases refusal <;> simp [Fate.history, Event.failed?]
    | answered fault => cases fault <;> simp [Fate.history, Event.failed?]
    | _ => simp [Fate.history, Event.failed?]

section Run

variable {capacity : Nat} {idleTimeout : Option Millis} {moves : List Move}
  (run : (fresh capacity idleTimeout).play moves = some (system, events))
include run

/-- A worker gives back only what has ended with it, and each task once. -/
theorem finished_le (number : WorkerId) (task : Task) :
    events.count (.finished number task) ≤ events.countP (·.endsTask number task) := by
  let invariant (system : System) (events : List Event) : Prop :=
    (system.hasStage (Stage.isOver task) number).toNat + events.count (.finished number task) ≤
      events.countP (·.endsTask number task)
  have start : invariant (fresh capacity idleTimeout) [] := by simp [invariant, fresh, hasStage]
  have final : invariant system events := by
    refine (play_sections invariant [] moves ?_ (.fresh capacity idleTimeout) start run).2
    rintro move - system events result - before made
    obtain ⟨own, crew⟩ : ∃ own, Crew system result.1 result.2 own := ⟨_, crew_of_section made⟩
    simp only [invariant, List.count_append, List.countP_append] at before ⊢
    rcases hasStage_of_crew crew (Stage.isOver task) rfl (fun _ duty => by cases duty <;> rfl)
        number with ⟨same, quiet⟩ | ⟨epoch, earlier, later, advance, stood, stands⟩
    · have silent : result.2.count (.finished number task) = 0 :=
        List.count_eq_zero.mpr fun held => quiet _ held rfl
      rw [same, silent]
      omega
    · have ended := advance.finished_le_ended task
      rw [stood] at before
      rw [stands]
      omega
  simp only [invariant] at final
  omega

/-- A task is given back by the worker with which it has ended. -/
theorem ended_of_finished (keeps : system.Keeps events task fate) {number : WorkerId}
    (finished : .finished number task ∈ events) : ∃ outcome, fate = .ended number outcome := by
  have told : 0 < events.count (.finished number task) := List.count_pos_iff.mpr finished
  exact keeps.eq_ended (Nat.lt_of_lt_of_le told (finished_le run number task))

/-- No task is given back twice. -/
theorem nodup_finished : (events.filterMap Event.finished?).Nodup := by
  refine List.nodup_iff_count_le_one.mpr fun task => ?_
  have custody : system.InCustody events := inCustody_of_play run
  obtain ⟨fate, keeps⟩ := custody task
  by_cases given : ∃ number, .finished number task ∈ events
  · obtain ⟨number, finished⟩ := given
    obtain ⟨outcome, rfl⟩ := ended_of_finished run keeps finished
    -- Only the worker with which the task has ended can have given it back.
    have sole (event : Event) (held : event ∈ events) (gives : event.finished? = some task) :
        event = .finished number task := by
      cases event with
      | finished other own =>
        obtain rfl : own = task := Option.some.inj gives
        obtain ⟨_, same⟩ := ended_of_finished run keeps held
        cases same
        rfl
      | _ => cases gives
    calc (events.filterMap Event.finished?).count task
        = events.countP (·.finished? == some task) := by
          rw [List.count, List.countP_filterMap]
          exact List.countP_congr fun event _ => by cases same : event.finished? <;> simp
      _ ≤ events.count (.finished number task) :=
          List.countP_mono_left fun event held gives =>
            beq_iff_eq.mpr (sole event held (eq_of_beq gives))
      _ ≤ events.countP (·.endsTask number task) := finished_le run number task
      _ ≤ 1 := keeps.ended_le
  · have absent : task ∉ events.filterMap Event.finished? := by
      intro held
      obtain ⟨event, member, gives⟩ := List.mem_filterMap.mp held
      cases event with
      | finished number own =>
        obtain rfl : own = task := Option.some.inj gives
        exact given ⟨number, member⟩
      | _ => cases gives
    rw [List.count_eq_zero.mpr absent]
    exact Nat.zero_le 1

/-- A failed task was accepted. -/
theorem accepted_of_failed (task : Task) (failed : task ∈ events.filterMap Event.failed?) :
    task ∈ events.filterMap Event.accepted? := by
  have custody : system.InCustody events := inCustody_of_play run
  obtain ⟨fate, keeps⟩ := custody task
  obtain ⟨event, member, gives⟩ := List.mem_filterMap.mp failed
  obtain ⟨worker, failure, rfl⟩ :
      ∃ worker failure, event = .ended worker task (.failed failure) := by
    cases event with
    | ended worker own outcome =>
      cases outcome with
      | returned => cases gives
      | failed failure =>
        obtain rfl : own = task := Option.some.inj gives
        exact ⟨worker, failure, rfl⟩
    | _ => cases gives
  obtain ⟨outcome, rfl⟩ : ∃ outcome, fate = .ended worker outcome :=
    keeps.eq_ended (List.countP_pos_iff.mpr ⟨_, member, by simp [Event.endsTask]⟩)
  exact List.mem_filterMap.mpr ⟨.returned task .accepted,
    keeps.mem_of_history (by simp [Fate.history]), rfl⟩

end Run

/-- Nothing is left to be counted: nobody calls, and no worker is about to count. -/
structure Counted (system : System) : Prop where
  uncalled : system.calls.isEmpty = true
  paid : ∀ worker ∈ system.workers, worker.stage.owed? = none

/-- No offer was broken off while the executor had its worker loop. -/
def Uninterrupted (events : List Event) : Prop :=
  ∀ event ∈ events, event.leavesUncounted = false

instance (events : List Event) : Decidable (Uninterrupted events) :=
  inferInstanceAs (Decidable (∀ event ∈ events, event.leavesUncounted = false))

/-- The counts are exactly what has happened. -/
structure Settled (system : System) (events : List Event) : Prop where
  /-- Every offer was either accepted or declined. -/
  offers : Uninterrupted events →
    system.tally.accepted + system.tally.declined = events.countP Event.isOffered
  /-- Every loop was either taken or refused by the executor. -/
  loops : Uninterrupted events →
    system.tally.spawned + system.tally.spawnFailures = events.countP Event.isCreated
  /-- As many failures were counted as accepted tasks have failed. -/
  failures : system.tally.taskFailures = (events.filterMap Event.failed?).length
  /-- Each of them was reported or is about to be. -/
  reports : system.tally.taskFailures =
    events.countP Event.isFaulted + system.workers.countP (·.stage.isReporting)
  /-- As many idle departures were counted as workers have left for being idle. -/
  departures : system.tally.idleRetired = events.countP (·.incurs .idleRetired)

/-- What was counted is conserved. -/
structure Conserves (system : System) (events : List Event) : Prop where
  /-- Every accepted task was accepted once and is counted. -/
  accepted : (events.filterMap Event.accepted?).Nodup ∧
    system.tally.accepted = (events.filterMap Event.accepted?).length
  /-- Of the accepted tasks, those are not pending that their workers have given back, each
  once and by the worker that was given it. -/
  finished : system.tally.accepted - system.roster.pending =
      (events.filterMap Event.finished?).length ∧
    (events.filterMap Event.finished?).Nodup ∧
      ∀ worker task, .finished worker task ∈ events →
        .claimed worker task ∈ events ∧ .returned task .accepted ∈ events
  /-- Every failed task was accepted and failed once. -/
  failed : (events.filterMap Event.failed?).Nodup ∧
    events.filterMap Event.failed? ⊆ events.filterMap Event.accepted?
  /-- No more tasks are pending, and no more have failed, than were accepted. -/
  bounded : system.snapshot.pending ≤ system.snapshot.tally.accepted ∧
    system.snapshot.tally.taskFailures ≤ system.snapshot.tally.accepted
  /-- This also holds of the failures that an observer reads later, as long as no further
  task is accepted. -/
  read : ∀ later final new, system.play later = some (final, new) →
    final.tally.accepted = system.tally.accepted →
      final.tally.taskFailures ≤ system.snapshot.tally.accepted
  /-- As many loops were created as the number of the next one tells. -/
  created : events.countP Event.isCreated = system.workers.length ∧
    ∀ number, .created number ∈ events ↔ number < system.workers.length
  /-- Every loop is queued, live, has left, or has ended without ever being registered, and
  only one of these. -/
  lots : ∀ number, .created number ∈ events → ∃! lot, system.HasLot events number lot
  /-- The dispatcher counts as live the loops whose lot is to be live. -/
  live : system.roster.live = system.workers.countP (·.stage.lot = .live)
  settled : system.Counted → system.Settled events

/-- As many tasks are told of as there are events that tell of one. -/
theorem length_filterMap_eq (task? : Event → Option Task) (tells : Event → Bool)
    (same : ∀ event, (task? event).isSome = tells event) (events : List Event) :
    (events.filterMap task?).length = events.countP tells := by
  rw [List.length_filterMap_eq_countP]
  exact List.countP_congr fun event _ => by rw [same]

/-- As many tasks were accepted as calls were told so. -/
theorem length_accepted (events : List Event) :
    (events.filterMap Event.accepted?).length = events.countP Event.accepts :=
  length_filterMap_eq _ _ (fun event => by
    cases event with
    | returned call answer => cases answer <;> rfl
    | _ => rfl) events

/-- As many tasks have failed as failures are to be counted. -/
theorem length_failed (events : List Event) :
    (events.filterMap Event.failed?).length = events.countP (·.incurs .taskFailures) :=
  length_filterMap_eq _ _ (fun event => by
    cases event with
    | ended worker task outcome => cases outcome <;> rfl
    | _ => rfl) events

/-- As many tasks were given back as workers have finished one. -/
theorem length_finished (events : List Event) :
    (events.filterMap Event.finished?).length = events.countP Event.isFinished :=
  length_filterMap_eq _ _ (fun event => by cases event <;> rfl) events

/-- When nothing is left to be counted, the counts are what has happened. -/
theorem Accounts.settled (accounts : system.Accounts events) (counted : system.Counted) :
    system.Settled events := by
  have uncalled (weight : Call → Nat) : system.calls.total weight = 0 :=
    Register.total_of_absent weight (Register.isEmpty_iff.mp counted.uncalled)
  have paid (count : Count) : system.workers.countP (·.stage.owes count) = 0 :=
    List.countP_eq_zero.mpr fun worker member => by
      simp [Stage.owes, counted.paid worker member]
  have incurred (count : Count) (own : count.isOfWorkers = true) :
      system.tally.get count = events.countP (·.incurs count) := by
    rw [← accounts.incurred count own, paid, Nat.add_zero]
  have answered (uninterrupted : Uninterrupted events) : events.countP Event.leavesUncounted = 0 :=
    List.countP_eq_zero.mpr fun event held => by simp [uninterrupted event held]
  exact
    { offers := fun uninterrupted => by
        rw [← accounts.offers, uncalled, answered uninterrupted, Nat.add_zero]
      loops := fun uninterrupted => by
        rw [accounts.created, ← accounts.loops, uncalled, answered uninterrupted, Nat.add_zero]
      failures := by
        rw [length_failed]
        exact incurred .taskFailures rfl
      reports := accounts.reported
      departures := incurred .idleRetired rfl }

section Run

variable {capacity : Nat} {idleTimeout : Option Millis} {moves : List Move}
  (run : (fresh capacity idleTimeout).play moves = some (system, events))
include run

/-- The accepted tasks are those that were counted. -/
theorem accepted_of_play :
    system.tally.accepted = (events.filterMap Event.accepted?).length := by
  have tallied : system.Tallied events :=
    (play_sections Tallied [] moves (fun _ _ _ _ _ _ tallied made => tallied.of_section made)
      (.fresh capacity idleTimeout) (.fresh capacity idleTimeout) run).2
  rw [length_accepted, tallied.accepted]

/-- No more tasks were counted as failed than were accepted. -/
theorem taskFailures_le_of_play : system.tally.taskFailures ≤ system.tally.accepted := by
  have custody : system.InCustody events := inCustody_of_play run
  have accounts : system.Accounts events := accounts_of_play run
  calc system.tally.taskFailures
      ≤ system.tally.taskFailures + system.workers.countP (·.stage.owes .taskFailures) :=
        Nat.le_add_right _ _
    _ = events.countP (·.incurs .taskFailures) := accounts.incurred .taskFailures rfl
    _ = (events.filterMap Event.failed?).length := (length_failed events).symm
    _ ≤ (events.filterMap Event.accepted?).length :=
        ((nodup_failed custody).subperm (accepted_of_failed run)).length_le
    _ = system.tally.accepted := (accepted_of_play run).symm

/-- A loop was created when it is among the workers. -/
theorem created_iff_of_play (number : WorkerId) :
    .created number ∈ events ↔ number < system.workers.length := by
  rw [← List.count_pos_iff, count_created_of_play run]
  by_cases present : number < system.workers.length <;> simp [present]

end Run

/-- In every run the counts are conserved. -/
theorem play_conserves (capacity : Nat) (idleTimeout : Option Millis) (moves : List Move)
    (system : System) (events : List Event)
    (run : (fresh capacity idleTimeout).play moves = some (system, events)) :
    system.Conserves events := by
  have custody : system.InCustody events := inCustody_of_play run
  have accounts : system.Accounts events := accounts_of_play run
  have census : Census capacity system.roster system.workers := (inOrder_of_play run).census
  constructor
  case accepted => exact ⟨nodup_accepted custody, accepted_of_play run⟩
  case finished =>
    refine ⟨?_, nodup_finished run, fun worker task finished => ?_⟩
    · rw [length_finished, accounts.accepted, Nat.add_sub_cancel_left]
    · obtain ⟨fate, keeps⟩ := custody task
      obtain ⟨outcome, rfl⟩ := ended_of_finished run keeps finished
      exact ⟨keeps.mem_of_history (by simp [Fate.history]),
        keeps.mem_of_history (by simp [Fate.history])⟩
  case failed => exact ⟨nodup_failed custody, accepted_of_failed run⟩
  case bounded =>
    refine ⟨?_, taskFailures_le_of_play run⟩
    show system.roster.pending ≤ system.tally.accepted
    rw [accounts.accepted]
    exact Nat.le_add_right _ _
  case read =>
    intro later final new rest same
    have bound := taskFailures_le_of_play (play_append run rest)
    rwa [same] at bound
  case created => exact ⟨accounts.created, created_iff_of_play run⟩
  case lots =>
    intro number created
    exact existsUnique_lot run ((created_iff_of_play run number).mp created)
  case live =>
    rw [census.live]
    refine List.countP_congr fun worker _ => ?_
    rw [decide_eq_true_iff, Stage.lot_eq_live]
  case settled => exact accounts.settled

/-- One offer creates a loop, and the next is accepted and fails. Meanwhile the executor
refuses a second loop and takes a third one, which is launched only after the dispatcher has
stopped. Started again, it creates a fourth. -/
def fourLoops : List Move :=
  [.invoke .start, .proceed 0, .invoke (.offer false), .proceed 1, .answer 1 none, .proceed 1,
    .proceed 1, .launch 0, .invoke (.offer false), .proceed 2, .work 0, .invoke (.offer true),
    .proceed 3, .discard 1, .answer 3 (some .closed), .proceed 3, .proceed 3, .answer 3 none,
    .invoke (.offer false), .proceed 4, .answer 4 none, .proceed 4, .proceed 4,
    .finish 0 (.failed (.text "lost")), .work 0, .work 0, .work 0, .invoke .stop, .proceed 5,
    .work 0, .work 0, .work 0, .proceed 5, .proceed 5, .launch 2, .invoke .start, .proceed 6,
    .invoke (.offer false), .proceed 7, .answer 7 none, .proceed 7, .proceed 7]

/-- In the end nothing is left to be counted, and five offers and four loops were counted. -/
theorem fourLoops_conserves :
    ∃ system events, (fresh 2 none).play fourLoops = some (system, events) ∧ system.Counted ∧
      Uninterrupted events ∧ system.tally = ⟨1, 4, 3, 1, 0, 1⟩ ∧
      system.workers.map (·.stage.lot) = [.left, .unregistered, .unregistered, .queued] ∧
      system.Conserves events :=
  ⟨_, _, rfl, ⟨rfl, by decide⟩, by decide, rfl, rfl, play_conserves 2 none fourLoops _ _ rfl⟩

/-- A task has failed, and its worker has counted that. -/
def countedFailure : List Move :=
  [.invoke .start, .proceed 0, .invoke (.offer false), .proceed 1, .answer 1 none, .proceed 1,
    .proceed 1, .launch 0, .invoke (.offer false), .proceed 2, .work 0,
    .finish 0 (.failed (.literal "lost")), .work 0]

/-- The executor breaks down under the first offer, which it was asked to take a loop of. -/
def brokenOffer : List Move :=
  [.invoke .start, .proceed 0, .invoke (.offer false), .proceed 1, .breakOff 1, .discard 0]

/-- Where nothing is left to be counted, a failure can be counted that was not reported yet, and
an offer that was broken off with its loop is missing among the counts, as its loop is. -/
theorem uncounted_unreported :
    (∃ system events, (fresh 1 none).play countedFailure = some (system, events) ∧
      system.Counted ∧ system.tally.taskFailures = 1 ∧ events.countP Event.isFaulted = 0) ∧
    ∃ system events, (fresh 1 none).play brokenOffer = some (system, events) ∧
      system.Counted ∧ system.tally.accepted + system.tally.declined = 0 ∧
        events.countP Event.isOffered = 1 ∧
        system.tally.spawned + system.tally.spawnFailures = 0 ∧
          events.countP Event.isCreated = 1 :=
  ⟨⟨_, _, rfl, ⟨rfl, by decide⟩, rfl, rfl⟩, _, _, rfl, ⟨rfl, by decide⟩, rfl, rfl, rfl, rfl⟩

end System

end Standby.Dispatcher
