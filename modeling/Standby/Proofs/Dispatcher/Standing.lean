import Standby.Proofs.Dispatcher.Order

/-!
# Where workers stand

Every live worker stands at exactly one station after every run, the list of parked
workers names those that stand parked, and the numbers of the roster are the numbers of
workers at their stations. Three consequences are what the dispatcher relies on: an offer
never meets a parked worker that cannot take a task, the word to retire reaches every
parked worker, and an offer is accepted exactly when the dispatcher runs and somebody is
parked.

A worker can be brought down with the task that it executes, and then stands there for
ever. That takes a task that fails, and somebody who hears of it and fails in turn, or a
failure that spills as it is disposed of.
-/

namespace Standby.Dispatcher

open Duration (Millis)

namespace Stage

end Stage

/-- A worker at this stage was not brought down, nor will it be by what its task has left
behind. -/
def Stage.isWhole : Stage → Bool
  | .gone .broken => false
  | .serving _ _ (.failed _ failure) | .serving _ _ (.reporting _ failure) => !failure.spills
  | _ => true

/-- The move can bring a worker down. -/
def Move.bringsDown : Move → Bool
  | .breakDown _ => true
  | .finish _ (.failed failure) => failure.spills
  | _ => false

/-- A worker at a stage that is whole was not brought down. -/
theorem Stage.ne_broken_of_whole {stage : Stage} (whole : stage.isWhole = true) :
    stage ≠ .gone .broken := by
  rintro rfl
  cases whole

/-- Nobody is brought down by what is put into the slot. -/
theorem Worker.receive_whole (worker : Worker) (handoff : Handoff)
    (whole : worker.stage.isWhole = true) : (worker.receive handoff).stage.isWhole = true := by
  unfold receive
  split
  · rename_i duty same
    rw [same] at whole
    cases duty <;> exact whole
  · exact whole

/-- Nor by the word to retire. -/
theorem Worker.tell_whole (worker : Worker) (roster : Roster) (number : WorkerId)
    (whole : worker.stage.isWhole = true) :
    (roster.tell number worker).stage.isWhole = true := by
  unfold Roster.tell
  split
  · exact worker.receive_whole .retire whole
  · exact whole

namespace System

variable {capacity : Nat} {system : System} {number : WorkerId} {worker : Worker}

/-- What some events tell of the section in which they happen. A parked worker always
takes its task, stopping reaches all workers at once, and only an offer that finds a
parked worker in a running dispatcher is accepted. -/
def Tells (system : System) (move : Move) (next : System) : Event → Prop
  | .slotOccupied _ | .vanished _ => False
  | .stopping _ _ => next.workers = system.workers.mapIdx system.roster.tell
  | .returned call .accepted =>
    (∃ fallsBack, move = .proceed call ∧
        system.calls.get? call = some (.entering (.offer fallsBack))) ∧
      system.roster.phase = .running ∧ system.roster.parked ≠ []
  | _ => True

/-- Every section keeps to what its events tell. -/
theorem tells_of_section {move : Move} {result : System × List Event}
    (made : Section system move result) :
    ∀ event ∈ result.2, system.Tells move result.1 event := by
  cases made with
  | invoked | illegal | started | retimed | restful | announced | stale | registered
  | discarded | forgotten | began | withdrawn | kept | ended | reported | spilled | broke
  | parkedAgain | leftAfterTask | idled | brokenOff => simp [reply, Tells]
  | joined | taken | refused | looked | turnedAway | told | expired | failed | leftRetired
  | letGo => simp
  | turnedDown call fallsBack | declined call fallsBack =>
    cases fallsBack <;> simp [decline, giveBack, reply, Tells]
  | claimed call fallsBack worker remaining found running parked =>
    simp [handOver, reply, Tells, found, running, parked]
  | created => simp [Tells]
  | counted call fallsBack count event stage found answered =>
    rcases answered with ⟨_, _, _, rfl⟩ | ⟨_, _, _, _, rfl⟩ <;> simp [Tells]
  | stopBegun call =>
    simp only [retireAll, List.mem_singleton, forall_eq]
    exact awaitLastWorker_workers _ call
  | passedOn call refusal => cases refusal <;> simp [reply, Tells]
  | departed number epoch departure => cases departure <;> simp [depart, Tells]
  | abandoned unused active =>
    have events : system.letGo.2 =
        [.stopping system.roster.parked.length system.roster.pending] := by
      rw [letGo_of_active active]
      rfl
    simpa [events, Tells] using letGo_workers active

/-- No worker was brought down, nor will one be by what its task has left behind. -/
def Unbroken (system : System) : Prop := ∀ worker ∈ system.workers, worker.stage.isWhole = true

/-- Nobody is brought down unless the move can do that. -/
theorem unbroken_of_section {move : Move} {result : System × List Event}
    (whole : system.Unbroken) (made : Section system move result)
    (sound : move.bringsDown = false) : result.1.Unbroken := by
  have told : ∀ worker ∈ system.workers.mapIdx system.roster.tell,
      worker.stage.isWhole = true := by
    intro worker member
    obtain ⟨number, found⟩ := List.mem_iff_getElem?.mp member
    rw [List.getElem?_mapIdx] at found
    obtain ⟨before, held, rfl⟩ := Option.map_eq_some_iff.mp found
    exact before.tell_whole system.roster number (whole before (List.mem_of_getElem? held))
  cases made with
  | invoked | illegal | started | retimed | counted | restful | joined | announced | taken
  | refused | passedOn | brokenOff | letGo => exact whole
  | turnedDown call fallsBack | declined call fallsBack => cases fallsBack <;> exact whole
  | claimed call fallsBack number remaining found running parked ready =>
    obtain ⟨held, found, _⟩ := Option.bind_eq_some_iff.mp ready
    exact Counting.forall_modify found whole
      (held.receive_whole _ (whole held (List.mem_of_getElem? found)))
  | created call fallsBack found running nobody room =>
    intro worker member
    rcases List.mem_append.mp member with older | newest
    · exact whole worker older
    · obtain rfl := List.mem_singleton.mp newest
      rfl
  | stopBegun call =>
    intro worker member
    rw [awaitLastWorker_workers] at member
    exact told worker member
  | looked call =>
    intro worker member
    rw [awaitLastWorker_workers] at member
    exact whole worker member
  | abandoned unused active =>
    intro worker member
    rw [letGo_workers active] at member
    exact told worker member
  | broke number => cases sound
  | spilled number epoch idleTimeout slot task failure found spills =>
    have quiet := whole _ (List.mem_of_getElem? found)
    simp [Stage.isWhole, spills] at quiet
  | failed number epoch idleTimeout slot task failure found =>
    have quiet := whole _ (List.mem_of_getElem? found)
    exact Counting.forall_modify found whole quiet
  | ended number epoch idleTimeout slot task outcome found =>
    refine Counting.forall_modify found whole ?_
    cases outcome with
    | returned => rfl
    | failed failure =>
      have quiet : failure.spills = false := sound
      simp [Worker.move, Duty.ofOutcome, Stage.isWhole, quiet]
  | departed number epoch departure found =>
    cases departure <;> exact Counting.forall_modify found whole rfl
  | stale number epoch found
  | registered number found
  | turnedAway number found
  | discarded number found
  | forgotten number epoch found
  | began number epoch idleTimeout task duty waits found
  | told number epoch idleTimeout duty waits found
  | expired number epoch timeout found
  | withdrawn number epoch timeout slot found
  | kept number epoch timeout slot found
  | reported number epoch idleTimeout slot task failure found
  | parkedAgain number idleTimeout slot task found
  | leftAfterTask number epoch idleTimeout slot task found
  | leftRetired number epoch idleTimeout slot found
  | idled number epoch timeout found => exact Counting.forall_modify found whole rfl

end System

end Standby.Dispatcher
