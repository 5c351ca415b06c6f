import Standby.Proofs.Dispatcher.Fate

/-!
# The custody of tasks

Every section of a dispatcher takes each task from a fate that it has met to one that it
has met afterwards, and at most one task at a time meets another. So after every run
each task has met a fate, and no history is possible but those of the fates: who has a
task can be read from what has happened to it, and the other way round.
-/

namespace Standby.Dispatcher

open Duration (Millis)

namespace System

/-- Every task has met a fate. -/
def InCustody (system : System) (events : List Event) : Prop :=
  ∀ task, ∃ fate, system.Keeps events task fate

namespace InCustody

variable {system next : System} {events new : List Event} {task : Task}

/-- A section that concerns no task at all. -/
theorem quiet (custody : system.InCustody events) (holder : ∀ task, SameHolder system next task)
    (call : ∀ task, SameCall system next task)
    (quiet : ∀ event ∈ new, ∀ task, event.concerns task = false) :
    next.InCustody (events ++ new) := by
  intro task
  obtain ⟨fate, keeps⟩ := custody task
  refine ⟨fate, keeps.untouched (holder task) (call task) ?_⟩
  rw [List.filter_eq_nil_iff]
  intro event member
  simp [quiet event member task]

/-- A section that concerns one task. -/
theorem act (custody : system.InCustody events) (task : Task)
    (own : ∀ before, system.Keeps events task before → ∃ fate, next.Keeps (events ++ new) task fate)
    (holder : ∀ other, other ≠ task → SameHolder system next other)
    (call : ∀ other, other ≠ task → SameCall system next other)
    (quiet : ∀ other, other ≠ task → new.filter (·.concerns other) = []) :
    next.InCustody (events ++ new) := by
  intro other
  obtain ⟨before, keeps⟩ := custody other
  by_cases same : other = task
  · subst same
    exact own before keeps
  · exact ⟨before, keeps.untouched (holder other same) (call other same) (quiet other same)⟩

/-- A call begins, and with it its task. -/
theorem invoke (custody : system.InCustody events) (request : Request) :
    InCustody { system with calls := system.calls.add (.entering request) }
      (events ++ [.invoked system.calls.next request]) := by
  refine custody.act system.calls.next (fun fate keeps => ⟨.open, ?_⟩)
    (fun other _ => sameHolder_of_workers rfl other) (fun other different => ?_)
    fun other _ => by simp [Event.concerns]
  · obtain rfl : fate = .open := keeps.future (Nat.le_refl _)
    exact
      { history := by
          rw [List.filter_append, keeps.history]
          simp [Fate.history, Event.concerns]
        holder := fun worker hold =>
          (sameHolder_of_workers rfl _ worker hold).trans (keeps.holder worker hold)
        call := fun stage found => by
          obtain rfl : Call.entering request = stage := by
            simpa [Register.get?_add] using found
          rfl
        future := fun _ => rfl }
  · refine ⟨fun stage found => ⟨stage, ?_, rfl⟩, Nat.le_succ _⟩
    simpa [Register.get?_add, different] using found

section Calls

variable {call : Nat} {stage : Call}

/-- The task of a call that has not returned meets its fate, and no worker gets it. -/
theorem settle (custody : system.InCustody events)
    (found : system.calls.get? call = some stage) (workers : next.workers = system.workers)
    (fate : Fate) (free : fate.holder? = none)
    (history : stage.fate.history call ++ new.filter (·.concerns call) = fate.history call)
    (pending : ∀ later, next.calls.get? call = some later → fate = later.fate)
    (numbers : system.calls.next ≤ next.calls.next)
    (others : ∀ other, other ≠ call → SameCall system next other)
    (quiet : ∀ other, other ≠ call → new.filter (·.concerns other) = []) :
    next.InCustody (events ++ new) := by
  refine custody.act call (fun before keeps => ⟨fate, ?_⟩)
    (fun other _ => sameHolder_of_workers workers other) others quiet
  obtain rfl := keeps.call stage found
  exact
    { history := by rw [List.filter_append, keeps.history, history]
      holder := fun worker hold => by
        rw [sameHolder_of_workers workers call worker hold, keeps.holder, stage.holder?_fate, free]
      call := pending
      future := fun later => by
        simp [system.calls.get?_of_le (Nat.le_trans numbers later)] at found }

/-- A call is answered, and no worker gets its task. -/
theorem reply (custody : system.InCustody events)
    (found : system.calls.get? call = some stage) (workers : next.workers = system.workers)
    {woken : Register Call} (calls : next.calls = woken.remove call)
    (same : woken = system.calls ∨ woken = system.calls.map fun _ call => call.wake)
    (fate : Fate) (free : fate.holder? = none)
    (history : stage.fate.history call ++ new.filter (·.concerns call) = fate.history call)
    (quiet : ∀ other, other ≠ call → new.filter (·.concerns other) = []) :
    next.InCustody (events ++ new) := by
  let middle : System := { system with calls := woken }
  have unchanged (other : Nat) : SameCall system middle other := by
    rcases same with same | same
    · exact sameCall_of_calls same other
    · exact sameCall_of_wake same other
  refine custody.settle found workers fate free history ?_ ?_
    (fun other _ => (unchanged other).remove next calls) quiet
  · intro later held
    simp [calls, Register.get?_remove] at held
  · rw [calls]
    exact (unchanged call).2

/-- A declined task goes back to the caller or on to the executor. -/
theorem decline (custody : system.InCustody events)
    (found : system.calls.get? call = some stage) (undecided : stage.fate = .open)
    (fallsBack : Bool) :
    (system.decline call fallsBack).1.InCustody (events ++ (system.decline call fallsBack).2) := by
  cases fallsBack with
  | false =>
    refine custody.reply found rfl rfl (.inl rfl) .declined rfl ?_ fun other different => ?_
    · simp [undecided, Fate.history, Event.concerns, System.decline, giveBack, System.reply]
    · simp [Event.concerns, System.decline, giveBack, System.reply, different.symm]
  | true =>
    refine custody.settle found rfl .passing rfl ?_ ?_ (Nat.le_refl _)
      (fun other different => sameCall_of_put_ne different rfl) fun other different => ?_
    · simp [undecided, Fate.history, Event.concerns, System.decline, giveBack]
    · intro later held
      obtain ⟨_, rfl⟩ : (∃ before, system.calls.get? call = some before) ∧
          Call.fallingBack = later := by
        simpa [System.decline, giveBack, setCall, System.count, Register.get?_put] using held
      rfl
    · simp [Event.concerns, System.decline, giveBack, different.symm]

/-- A parked worker gets the task of an offer. -/
theorem handOver (custody : system.InCustody events)
    (found : system.calls.get? call = some stage) (undecided : stage.fate = .open)
    {worker : WorkerId} (ready : system.slot? worker = some none) (remaining : List WorkerId) :
    (system.handOver call worker remaining).1.InCustody
      (events ++ (system.handOver call worker remaining).2) := by
  obtain ⟨⟨epoch, before⟩, held, empty⟩ := Option.bind_eq_some_iff.mp ready
  obtain ⟨idleTimeout, duty, rfl⟩ := Worker.serving_of_slot empty
  refine custody.act call (fun fate keeps => ⟨.waiting worker, ?_⟩)
    (fun other different => sameHolder_of_modify held (Worker.receive _) rfl other fun hold => ?_)
    (fun other _ => (sameCall_of_calls rfl other).remove _ rfl) fun other different => ?_
  · obtain rfl : fate = .open := (keeps.call stage found).trans undecided
    have idle : duty ≠ .executing call := by
      rintro rfl
      have executes : system.Holds worker call .hands := (holds_of_found held call .hands).mpr rfl
      cases (keeps.holder worker .hands).mp executes
    refine keeps.turn held (Worker.receive (.task call)) rfl ?_ (fun hold => ?_)
      (fun other hold different => ⟨nofun, ?_⟩) ?_ fun later => ?_
    · simp [Fate.history, Event.concerns, System.handOver, System.reply]
    · cases hold <;>
        simp [Worker.Holds, Worker.receive, Worker.slot?, Worker.duty?, Fate.holder?, idle]
    · simp [Fate.holder?, different.symm]
    · simp [System.handOver, System.reply, Register.get?_remove]
    · simp [system.calls.get?_of_le later] at found
  · cases hold <;>
      simp [Worker.Holds, Worker.receive, Worker.slot?, Worker.duty?, different.symm]
  · simp [Event.concerns, System.handOver, System.reply, different.symm]

end Calls

section Working

variable {number : WorkerId} {epoch : Nat} {idleTimeout : Option Millis}

/-- A worker takes the task from its slot. -/
theorem begin (custody : system.InCustody events) {duty : Duty}
    (waits : duty = .waiting ∨ duty = .awaiting)
    (found : system.workers[number]? =
      some ⟨epoch, .serving idleTimeout (some (.task task)) duty⟩) :
    (system.setStage number (.serving idleTimeout none (.executing task))).InCustody
      (events ++ [.began number task]) := by
  refine custody.act task (fun before keeps => ⟨.executing number, ?_⟩)
    (fun other different => sameHolder_of_modify found (Worker.move _) rfl other fun hold => ?_)
    (fun other _ => sameCall_of_calls rfl other) fun other different => ?_
  · have waiting : before.holder? = some (number, .slot) :=
      (keeps.holder number .slot).mp ((holds_of_found found task .slot).mpr rfl)
    obtain ⟨returned, given⟩ := keeps.call_eq_none (by simp [waiting])
    obtain rfl : before = .waiting number := Fate.eq_waiting waiting
    refine keeps.turn found (Worker.move _) rfl ?_ (fun hold => ?_)
      (fun other hold different => ⟨?_, ?_⟩) returned given
    · simp [Fate.history, Event.concerns]
    · cases hold <;> simp [Worker.Holds, Worker.move, Worker.slot?, Worker.duty?, Fate.holder?]
    · simp [Fate.holder?, different.symm]
    · simp [Fate.holder?, different.symm]
  · rcases waits with rfl | rfl <;> cases hold <;>
      simp [Worker.Holds, Worker.move, Worker.slot?, Worker.duty?, different.symm]
  · simp [Event.concerns, different.symm]

/-- The task that a worker executes ends. -/
theorem finish (custody : system.InCustody events) {slot : Option Handoff} (outcome : Outcome)
    (found : system.workers[number]? =
      some ⟨epoch, .serving idleTimeout slot (.executing task)⟩) :
    (system.setStage number (.serving idleTimeout slot (.ofOutcome task outcome))).InCustody
      (events ++ [.ended number task outcome]) := by
  have idle (other : Task) : Duty.ofOutcome task outcome ≠ .executing other := by
    cases outcome <;> simp [Duty.ofOutcome]
  refine custody.act task (fun before keeps => ⟨.ended number outcome, ?_⟩)
    (fun other different => sameHolder_of_modify found (Worker.move _) rfl other fun hold => ?_)
    (fun other _ => sameCall_of_calls rfl other) fun other different => ?_
  · have executing : before.holder? = some (number, .hands) :=
      (keeps.holder number .hands).mp ((holds_of_found found task .hands).mpr rfl)
    obtain ⟨returned, given⟩ := keeps.call_eq_none (by simp [executing])
    obtain rfl : before = .executing number := Fate.eq_executing executing
    -- The task cannot lie in the slot as well: it would have met two fates.
    have empty : slot ≠ some (.task task) := by
      rintro rfl
      have waits : system.Holds number task .slot := (holds_of_found found task .slot).mpr rfl
      cases (keeps.holder number .slot).mp waits
    refine keeps.turn found (Worker.move _) rfl ?_ (fun hold => ?_)
      (fun other hold different => ⟨?_, by simp [Fate.holder?]⟩) returned given
    · simp [Fate.history, Event.concerns]
    · cases hold <;>
        simp [Worker.Holds, Worker.move, Worker.slot?, Worker.duty?, Fate.holder?, idle, empty]
    · simp [Fate.holder?, different.symm]
  · cases hold <;>
      simp [Worker.Holds, Worker.move, Worker.slot?, Worker.duty?, idle, different.symm]
  · simp [Event.concerns, different.symm]

end Working

/-- Every section keeps all tasks in custody. -/
theorem of_section {capacity : Nat} (order : InOrder capacity system)
    (custody : system.InCustody events) {move : Move} {result : System × List Event}
    (made : Section system move result) : result.1.InCustody (events ++ result.2) := by
  have census := order.census
  cases made with
  | invoked request => exact custody.invoke request
  | illegal call request operation found =>
    exact custody.reply found rfl rfl (.inl rfl)
      (.answered (some ⟨operation, system.roster.phase⟩)) rfl
      (by simp [Fate.history, Event.concerns, System.reply, Call.fate])
      fun other different => by simp [Event.concerns, System.reply, different.symm]
  | started call found | retimed call timeout found =>
    exact custody.reply found rfl rfl (.inl rfl) (.answered none) rfl
      (by simp [Fate.history, Event.concerns, System.reply, Call.fate])
      fun other different => by simp [Event.concerns, System.reply, different.symm]
  | turnedDown call fallsBack found | declined call fallsBack found =>
    exact custody.decline found rfl fallsBack
  | claimed call fallsBack worker remaining found running parked ready =>
    exact custody.handOver found rfl ready remaining
  | created call fallsBack found =>
    exact custody.quiet (sameHolder_of_created rfl) (sameCall_of_put found rfl rfl)
      (by simp [Event.concerns])
  | counted call fallsBack count event stage found answered =>
    have undecided : stage.fate = .open := by
      rcases answered with ⟨_, rfl, _⟩ | ⟨_, _, rfl, _⟩ <;> rfl
    refine custody.quiet (sameHolder_of_workers rfl) (sameCall_of_put found rfl undecided) ?_
    rcases answered with ⟨_, _, _, rfl⟩ | ⟨_, _, _, _, rfl⟩ <;> simp [Event.concerns]
  | restful call found =>
    rcases found with found | found <;>
      exact custody.reply found rfl rfl (.inl rfl) (.answered none) rfl
        (by simp [Fate.history, Event.concerns, System.reply, Call.fate])
        fun other different => by simp [Event.concerns, System.reply, different.symm]
  | joined call found =>
    rcases found with ⟨found, _⟩ | ⟨found, _⟩ <;>
      exact custody.quiet (sameHolder_of_workers rfl) (sameCall_of_put found rfl rfl) (by simp)
  | stopBegun call found =>
    exact custody.quiet (sameHolder_of_told census (awaitLastWorker_workers _ call))
      (sameCall_of_awaitLastWorker found rfl rfl) (by simp [System.retireAll, Event.concerns])
  | looked call found =>
    exact custody.quiet (sameHolder_of_workers (awaitLastWorker_workers _ call))
      (sameCall_of_awaitLastWorker found rfl rfl) (by simp)
  | announced call found =>
    exact custody.reply found rfl rfl (.inr rfl) (.answered none) rfl
      (by simp [Fate.history, Event.concerns, Call.fate])
      fun other different => by simp [Event.concerns, different.symm]
  | taken call fallsBack worker found | refused call fallsBack worker refusal found =>
    exact custody.quiet (sameHolder_of_workers rfl) (sameCall_of_put found rfl rfl) (by simp)
  | passedOn call refusal found =>
    exact custody.reply found rfl rfl (.inl rfl) (.passed refusal) rfl
      (by simp [Fate.history, Event.concerns, System.reply, Call.fate])
      fun other different => by simp [Event.concerns, System.reply, different.symm]
  | brokenOff call stage loop? found =>
    have unchanged (task : Task) : SameCall system system task := sameCall_of_calls rfl task
    exact custody.quiet (sameHolder_of_workers rfl) (fun task => (unchanged task).remove _ rfl)
      (by simp [Event.concerns])
  | began number epoch idleTimeout task duty waits found => exact custody.begin waits found
  | ended number epoch idleTimeout slot task outcome found => exact custody.finish outcome found
  | told number epoch idleTimeout duty waits found =>
    refine custody.quiet (fun task => sameHolder_of_modify found _ rfl task fun hold => ?_)
      (sameCall_of_calls rfl) (by simp)
    rcases waits with rfl | rfl <;> cases hold <;>
      simp [Worker.Holds, Worker.slot?, Worker.duty?, Worker.move]
  | withdrawn number epoch timeout slot found parked =>
    obtain ⟨_, _, same, _⟩ := (Stage.parked_iff _).mp ((census.parked_iff found).mp parked)
    obtain ⟨_, rfl, _⟩ := Stage.serving.inj same
    refine custody.quiet (fun task => sameHolder_of_modify found _ rfl task fun hold => ?_)
      (sameCall_of_calls rfl) (by simp [Event.concerns])
    cases hold <;> simp [Worker.Holds, Worker.slot?, Worker.duty?, Worker.move]
  | spilled number epoch idleTimeout slot task failure found
  | broke number epoch idleTimeout slot task failure found
  | leftAfterTask number epoch idleTimeout slot task found
  | leftRetired number epoch idleTimeout slot found =>
    obtain rfl := (census.orderly_of_found found).placed.slot_eq_none rfl
    refine custody.quiet (fun task => sameHolder_of_modify found _ rfl task fun hold => ?_)
      (sameCall_of_calls rfl) (by simp [Event.concerns])
    cases hold <;> simp [Worker.Holds, Worker.slot?, Worker.duty?, Worker.move]
  | stale number epoch found
  | registered number found
  | turnedAway number found
  | discarded number found
  | forgotten number epoch found
  | expired number epoch timeout found
  | kept number epoch timeout slot found
  | failed number epoch idleTimeout slot task failure found
  | reported number epoch idleTimeout slot task failure found
  | parkedAgain number idleTimeout slot task found
  | idled number epoch timeout found =>
    refine custody.quiet (fun task => sameHolder_of_modify found _ rfl task fun hold => ?_)
      (sameCall_of_calls rfl) (by simp [Event.concerns])
    cases hold <;> simp [Worker.Holds, Worker.slot?, Worker.duty?, Worker.move]
  | departed number epoch departure found =>
    cases departure <;>
      refine custody.quiet (fun task => sameHolder_of_modify found _ rfl task fun hold => ?_)
        (sameCall_of_wake rfl) (by simp [System.depart, Event.concerns]) <;>
      cases hold <;> simp [Worker.Holds, Worker.slot?, Worker.duty?, Worker.move]
  | letGo => exact custody.quiet (sameHolder_of_workers rfl) (sameCall_of_calls rfl) (by simp)
  | abandoned unused active =>
    refine custody.quiet (sameHolder_of_told census (letGo_workers active))
      (sameCall_of_calls (letGo_calls active)) ?_
    simp [letGo_of_active active, System.retireAll, Event.concerns]

/-- A new dispatcher has no tasks. -/
theorem fresh (capacity : Nat) (idleTimeout : Option Millis) :
    InCustody (.fresh capacity idleTimeout) [] := fun task =>
  ⟨.open,
    { history := rfl
      holder := fun worker hold =>
        iff_of_false (holds_of_none (by simp [System.fresh]) task hold) nofun
      call := fun stage found => by simp [System.fresh] at found
      future := fun _ => rfl }⟩

end InCustody

/-- Every run keeps all tasks in custody. -/
theorem inCustody_of_play {capacity : Nat} {idleTimeout : Option Millis} {moves : List Move}
    {result : System × List Event}
    (run : (fresh capacity idleTimeout).play moves = some result) :
    result.1.InCustody result.2 := by
  have start : (fresh capacity idleTimeout).InCustody [] := .fresh capacity idleTimeout
  refine (play_sections InCustody [] moves ?_ (.fresh capacity idleTimeout) start run).2
  rintro move - system events result order custody made
  exact custody.of_section order made

end System

end Standby.Dispatcher
