import Standby.Proofs.Dispatcher.Crew
import Standby.Proofs.Register

/-!
# The work of a dispatcher

Every section of a dispatcher uses up some of the work that lies in its calls and with its workers.
Only a call brings work, and a worker that is given a task does more than it would have done
otherwise, but less than the call that gives it up. Whoever announces wakes a call that waits for
the dispatcher to stop, which is paid for as long as no two calls do.
-/

namespace Standby.Dispatcher

open Duration (Millis)

/-- The work that a request brings at most, that of the worker loop and of the task included. -/
def Request.load : Request → Nat
  | .offer _ => 13
  | .stop => 4
  | .start | .setIdleTimeout _ => 1

/-- The work that remains to a call at most. -/
def Call.load : Call → Nat
  | .entering request => request.load
  | .submitting _ _ => 4
  | .countingSpawned _ _ | .countingRefused _ _ _ | .woken _ => 3
  | .countingDeclined _ | .sleeping _ | .announcing => 2
  | .fallingBack => 1

/-- The call sleeps. -/
def Call.sleeps : Call → Nat
  | .sleeping _ => 1
  | _ => 0

/-- The work that remains to a worker until its loop is over, if it gets no other task. -/
def Duty.load : Duty → Nat
  | .executing _ => 11
  | .failed _ _ => 10
  | .reporting _ _ => 9
  | .ended _ => 8
  | .waiting => 7
  | .expired => 6
  | .awaiting => 5
  | .retiring => 4

/-- The work that a task in the slot brings. -/
def Handoff.load : Handoff → Nat
  | .task _ => 7
  | .retire => 0

/-- The work that remains to a worker loop. -/
def Stage.load : Stage → Nat
  | .queued => 8
  | .serving _ slot duty => (slot.map Handoff.load).getD 0 + duty.load
  | .announcing _ => 3
  | .counting _ => 1
  | .gone _ => 0

/-- A call that sleeps has more to do when it wakes. -/
theorem Call.load_wake (call : Call) : call.wake.load = call.load + call.sleeps := by
  cases call <;> rfl

namespace System

variable {system next : System} {move : Move} {result : System × List Event}

/-- The work that remains to the workers. -/
def workersLoad (system : System) : Nat :=
  Counting.total (fun worker : Worker => worker.stage.load) system.workers

/-- The work that remains in a dispatcher. -/
def load (system : System) : Nat := system.calls.total Call.load + system.workersLoad

/-- The calls that sleep. -/
def sleepers (system : System) : Nat := system.calls.total Call.sleeps

/-- Nothing remains to be done at the beginning. -/
theorem load_fresh (capacity : Nat) (idleTimeout : Option Millis) :
    (fresh capacity idleTimeout).load = 0 := rfl

/-- A call adds the work of its request. -/
theorem load_invoked (system : System) (request : Request) :
    load { system with calls := system.calls.add (.entering request) } =
      system.load + request.load := by
  simp only [load, Register.total_add, workersLoad, Call.load]
  omega

/-- A call goes on with less work, and may leave some to the workers. -/
theorem load_of_put {call : Nat} {stage later : Call}
    (found : system.calls.get? call = some stage)
    (calls : next.calls = system.calls.put call later)
    (less : next.workersLoad + later.load < system.workersLoad + stage.load) :
    next.load < system.load := by
  have changed : (system.calls.put call later).total Call.load + stage.load =
      system.calls.total Call.load + later.load := Register.total_put Call.load found
  simp only [load, calls]
  omega

/-- A call returns, and may leave some work to the workers. -/
theorem load_of_remove {call : Nat} {stage : Call}
    (found : system.calls.get? call = some stage)
    (calls : next.calls = system.calls.remove call)
    (less : next.workersLoad < system.workersLoad + stage.load) : next.load < system.load := by
  have changed := Register.total_remove Call.load found
  simp only [load, calls]
  omega

/-- A task that is declined is given back or passed on. -/
theorem load_of_decline {call : Nat} {stage : Call} (found : system.calls.get? call = some stage)
    (more : 1 < stage.load) (fallsBack : Bool) :
    (system.decline call fallsBack).1.load < system.load := by
  cases fallsBack with
  | true => exact load_of_put found rfl (Nat.add_lt_add_left more _)
  | false => exact load_of_remove found rfl (Nat.lt_add_of_pos_right (Nat.zero_lt_of_lt more))

/-- What remains when a worker changes. -/
theorem load_of_modify {number : WorkerId} {before after : Worker} (change : Worker → Worker)
    (found : system.workers[number]? = some before) (changed : change before = after)
    (workers : next.workers = system.workers.modify number change) :
    next.workersLoad + before.stage.load = system.workersLoad + after.stage.load := by
  rw [workersLoad, workers, ← changed]
  exact Counting.total_modify (fun worker : Worker => worker.stage.load) change system.workers
    number before found

/-- A worker goes on with less work. -/
theorem load_of_stage {number : WorkerId} {epoch : Nat} {before after : Stage}
    (found : system.workers[number]? = some ⟨epoch, before⟩)
    (workers : next.workers = system.workers.modify number (Worker.move after))
    (calls : next.calls = system.calls) (less : after.load < before.load) :
    next.load < system.load := by
  have changed : next.workersLoad + before.load = system.workersLoad + after.load :=
    load_of_modify _ found rfl workers
  rw [load, load, calls]
  omega

/-- Whoever is told to retire has no more to do than before. -/
theorem workersLoad_of_told (workers : next.workers = system.workers.mapIdx system.roster.tell) :
    next.workersLoad = system.workersLoad := by
  rw [workersLoad, workers]
  refine Counting.total_mapIdx _ _ _ fun number worker _ => ?_
  rcases system.roster.tell_cases number worker with same | ⟨_, _, _, rfl, told⟩
  · rw [same]
  · rw [told]
    simp [Stage.load, Handoff.load]

/-- A stop goes on with less work. -/
theorem load_of_await {call : Nat} {stage : Call} {looking : System}
    (found : system.calls.get? call = some stage) (more : 2 < stage.load)
    (calls : looking.calls = system.calls) (workers : looking.workersLoad = system.workersLoad) :
    (looking.awaitLastWorker call).load < system.load := by
  have settles (later : Call) (two : later.load = 2) (settled : System)
      (puts : settled.calls = looking.calls.put call later)
      (kept : settled.workersLoad = looking.workersLoad) : settled.load < system.load :=
    load_of_put found (calls ▸ puts) (by rw [kept, workers, two]; exact Nat.add_lt_add_left more _)
  unfold awaitLastWorker
  split
  · exact settles .announcing rfl _ rfl rfl
  · exact settles (.sleeping .lastWorker) rfl _ rfl rfl

/-- Whoever sleeps has more to do after an announcement. -/
theorem load_announce (system : System) :
    system.announce.load = system.load + system.sleepers := by
  have added := Register.total_map_add Call.load Call.sleeps system.calls
    fun _ call => call.load_wake
  change (system.calls.map fun _ call => call.wake).total Call.load + system.workersLoad = _
  rw [added, load, sleepers]
  omega

/-- Every section but a call uses up some work, as long as somebody holds the dispatcher. -/
theorem load_of_section (made : Section system move result)
    (own : ∀ request, move ≠ .invoke request) (kept : move ≠ .letGo)
    (few : system.sleepers ≤ 1) : result.1.load < system.load := by
  have woken := system.load_announce
  cases made with
  | invoked request => exact absurd rfl (own request)
  | letGo | abandoned => exact absurd rfl kept
  | illegal call request operation found needs =>
    exact load_of_remove found rfl (Nat.lt_add_of_pos_right (by
      rcases needs with rfl | ⟨_, rfl⟩ <;> exact Nat.one_pos))
  | started call found | retimed call timeout found | passedOn call refusal found =>
    exact load_of_remove found rfl (Nat.lt_add_of_pos_right Nat.one_pos)
  | brokenOff call stage loop? found has =>
    refine load_of_remove found rfl (Nat.lt_add_of_pos_right ?_)
    cases stage <;> first | exact Nat.succ_pos _ | cases has
  | turnedDown call fallsBack found | declined call fallsBack found =>
    exact load_of_decline found (by simp [Call.load, Request.load]) fallsBack
  | claimed call fallsBack worker remaining found running parked ready =>
    obtain ⟨⟨epoch, stage⟩, held, empty⟩ := Option.bind_eq_some_iff.mp ready
    obtain ⟨idleTimeout, duty, rfl⟩ := Worker.serving_of_slot empty
    have given : (system.handOver call worker remaining).1.workersLoad + _ = _ :=
      load_of_modify _ held rfl rfl
    refine load_of_remove found rfl ?_
    simp only [Worker.receive, Stage.load, Handoff.load, Call.load, Request.load,
      Option.map_some, Option.map_none, Option.getD_some, Option.getD_none] at given ⊢
    omega
  | created call fallsBack found =>
    refine load_of_put found rfl ?_
    have grown := Counting.total_concat (fun worker : Worker => worker.stage.load) system.workers
      ⟨system.roster.epoch, .queued⟩
    simp only [workersLoad, setCall, create, Call.load, Request.load, Stage.load] at grown ⊢
    omega
  | counted call fallsBack count event stage found answered =>
    rcases answered with ⟨_, rfl, -⟩ | ⟨_, _, rfl, -⟩ <;>
      exact load_of_put found rfl (Nat.lt_succ_self _)
  | restful call found =>
    rcases found with found | found <;>
      exact load_of_remove found rfl (Nat.lt_add_of_pos_right (Nat.succ_pos _))
  | joined call found =>
    rcases found with ⟨found, -⟩ | ⟨found, -⟩ <;>
      exact load_of_put found rfl (Nat.add_lt_add_left (by simp [Call.load, Request.load]) _)
  | stopBegun call found =>
    exact load_of_await found (by simp [Call.load, Request.load]) rfl (workersLoad_of_told rfl)
  | looked call found => exact load_of_await found (Nat.lt_succ_self 2) rfl rfl
  | announced call found =>
    have held : system.announce.calls.get? call = some .announcing := by
      simp [announce, found, Call.wake]
    have removed := Register.total_remove Call.load held
    simp only [load, reply, workersLoad, announce, Call.load] at removed woken ⊢
    omega
  | taken call fallsBack worker found | refused call fallsBack worker refusal found =>
    exact load_of_put found rfl (Nat.lt_succ_self _)
  | departed number epoch departure found =>
    -- The worker gives up more than one sleeping call gets.
    have leaves (after : Stage) (few : after.load ≤ 1) :
        (system.announce.setStage number after).load < system.load := by
      have changed : (system.announce.setStage number after).workersLoad + 3 =
          system.announce.workersLoad + after.load := by
        have stands : system.announce.workers[number]? =
            some ⟨epoch, .announcing departure⟩ := found
        exact load_of_modify (Worker.move after) stands rfl rfl
      have same : (system.announce.setStage number after).calls = system.announce.calls := rfl
      simp only [load, same] at woken ⊢
      omega
    cases departure with
    | afterTask | retired => exact leaves _ (Nat.zero_le 1)
    | idle => exact leaves _ (Nat.le_refl 1)
  | began number epoch idleTimeout task duty waits found =>
    refine load_of_stage found rfl rfl ?_
    rcases waits with rfl | rfl <;> simp [Stage.load, Handoff.load, Duty.load]
  | told number epoch idleTimeout duty waits found =>
    refine load_of_stage found rfl rfl ?_
    rcases waits with rfl | rfl <;> simp [Stage.load, Handoff.load, Duty.load]
  | ended number epoch idleTimeout slot task outcome found =>
    refine load_of_stage found rfl rfl ?_
    cases outcome <;> simp [Stage.load, Duty.ofOutcome, Duty.load]
  | stale number epoch found | registered number found | turnedAway number found
  | discarded number found | forgotten number epoch found | expired number epoch timeout found
  | withdrawn number epoch timeout slot found | kept number epoch timeout slot found
  | failed number epoch idleTimeout slot task failure found
  | reported number epoch idleTimeout slot task failure found
  | spilled number epoch idleTimeout slot task failure found
  | broke number epoch idleTimeout slot task failure found
  | parkedAgain number idleTimeout slot task found
  | leftAfterTask number epoch idleTimeout slot task found
  | leftRetired number epoch idleTimeout slot found | idled number epoch timeout found =>
    exact load_of_stage found rfl rfl (by simp [Stage.load, Duty.load])

end System

end Standby.Dispatcher
