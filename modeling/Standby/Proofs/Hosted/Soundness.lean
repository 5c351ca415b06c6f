import Standby.Proofs.Hosted.Submissions
import Standby.Proofs.Hosted.Tasks
import Standby.Proofs.Pool.Stock

/-!
# Pools that lose no thread

A pool loses a thread only through a job that fails and spills. As long as nobody but the
dispatcher brings jobs to it, and no task fails, there is no such job: a worker loop fails
only when a failed task has brought its worker down. So all threads are kept, and no job goes
with one.
-/

namespace Standby.Hosted

open Dispatcher (WorkerId Task)

/-- Somebody else has submitted the job. -/
def Job.isOther : Job → Bool
  | .other _ => true
  | _ => false

/-- What a call of the dispatcher submits is a loop or a task. -/
theorem Owes.isOther_eq_false {call : Nat} {stage : Dispatcher.Call} {job : Job}
    (owes : Owes call stage job) : job.isOther = false := by
  cases owes <;> rfl

namespace System

variable {system : System}

/-- The move lets no task fail on a thread of the pool. -/
def TaskReturns (system : System) : Move → Prop
  | .pool (.finish thread outcome) => ∀ task, system.ThreadHas thread task → outcome = .returned
  | _ => True

/-- The pool has no job of anybody else, and has lost neither a thread nor a job. -/
structure Sound (system : System) : Prop where
  own : system.pool.stock Job.isOther = 0
  whole : system.pool.threads.countP Pool.Thread.isBroken = 0
  kept : system.pool.abandoned = []

namespace Sound

/-- A new pool is sound. -/
theorem fresh (dispatcher : Dispatcher.System) (threads queueCapacity : Nat) :
    Sound (.fresh dispatcher (.fresh threads queueCapacity)) where
  own := Pool.System.stock_fresh _ threads queueCapacity
  whole := by
    simp [System.fresh, Pool.System.fresh, List.countP_replicate, Pool.Thread.isBroken]
  kept := rfl

/-- The job that a thread runs does not fail. -/
theorem eq_returned (sound : system.Sound) (unfailed : system.dispatcher.Unfailed)
    {thread : Nat} {outcome : Outcome} {number : Nat} {job : Job}
    (agrees : system.dispatcherAgrees (.finish thread outcome) = true)
    (returns : system.TaskReturns (.pool (.finish thread outcome)))
    (runs : system.pool.threads[thread]? = some (.running number job)) : outcome = .returned := by
  cases job with
  | loop worker =>
    -- The job of a loop fails only with its worker, and no worker was brought down.
    have whole : system.hasBroken worker = false := by
      refine Bool.eq_false_iff.mpr fun broken => ?_
      obtain ⟨held, found, stage⟩ := Option.map_eq_some_iff.mp (eq_of_beq broken)
      have sane := unfailed.nobody held (List.mem_of_getElem? found)
      simp [stage, Dispatcher.Stage.isFailing] at sane
    simp only [dispatcherAgrees, runs, Option.bind_some, jobOf?, whole, Bool.not_false,
      Bool.and_eq_true, beq_iff_eq] at agrees
    exact agrees.2
  | task task => exact returns task ⟨number, runs⟩
  | other label =>
    have stocked : 0 < system.pool.threads.countP (Pool.Thread.stocks Job.isOther) :=
      List.countP_pos_iff.mpr ⟨_, List.mem_of_getElem? runs, rfl⟩
    have own : _ + system.pool.threads.countP (Pool.Thread.stocks Job.isOther) = 0 := sound.own
    omega

/-- No section that lets no task fail lets any other job fail. -/
theorem not_isSpill (sound : system.Sound) (unfailed : system.dispatcher.Unfailed)
    {move : Pool.Move Job} {result : Pool.System Job × List Pool.Event}
    (agrees : system.dispatcherAgrees move = true) (returns : system.TaskReturns (.pool move))
    (made : Pool.Section system.pool move result) : move.isSpill = false := by
  cases made with
  | failed thread number job failure found =>
    cases sound.eq_returned unfailed agrees returns found
  | _ => rfl

/-- Nobody else's job comes into the pool with a section of its own. -/
theorem own_of_pool (sound : system.Sound) (filed : system.Filed) {move : Pool.Move Job}
    {result : Pool.System Job × List Pool.Event}
    (made : Pool.Section system.pool move result) : result.1.stock Job.isOther = 0 := by
  obtain ⟨events, same⟩ : ∃ events, result.2 = events := ⟨_, rfl⟩
  have stocks := Pool.System.stocks_of_section made
  rw [same] at stocks
  cases stocks with
  | silent _ _ _ _ stock | answered _ _ _ stock => rw [stock, sound.own]
  | sent number job found stock =>
    obtain ⟨call, waits⟩ := filed.caller number job ⟨_, found, rfl⟩
    obtain ⟨owed, ⟨stage, -, owes⟩, brings⟩ := filed.owner call _ waits
    -- The job that was sent is the one that the call has to submit.
    obtain rfl : job = owed := by
      obtain ⟨_, held, serves⟩ := brings number rfl
      obtain rfl := Option.some.inj (found.symm.trans held)
      exact serves
    rw [stock, sound.own, owes.isOther_eq_false]
    rfl
  | ended thread number job outcome found stock =>
    have fewer := stock Job.isOther
    rw [sound.own] at fewer
    omega

/-- Every section keeps the pool sound, as long as no task fails. -/
theorem of_section (sound : system.Sound) (filed : system.Filed)
    (unfailed : system.dispatcher.Unfailed) {move : Move} {result : System × List Event}
    (made : Section system move result) (returns : system.TaskReturns move) :
    result.1.Sound := by
  cases made with
  | dispatcher => exact ⟨sound.own, sound.whole, sound.kept⟩
  | submitted move call stage job next events pool later submissions agrees stepped caller found
      owes invoked =>
    have invoked_made := Pool.System.section_of_step invoked
    refine ⟨sound.own_of_pool filed invoked_made, ?_, ?_⟩
    · exact (Pool.System.broken_of_section invoked_made).trans sound.whole
    · cases invoked_made
      exact sound.kept
  | pool move next events submissions agrees stepped =>
    have made := Pool.System.section_of_step stepped
    refine ⟨sound.own_of_pool filed made, ?_, ?_⟩
    · have same := Pool.System.broken_of_section made
      rw [sound.not_isSpill unfailed agrees returns made] at same
      exact same.trans sound.whole
    · cases made with
      | abandoned thread found last =>
        have broken : 0 < system.pool.threads.countP Pool.Thread.isBroken :=
          List.countP_pos_iff.mpr ⟨_, List.mem_of_getElem? found, rfl⟩
        exact absurd sound.whole (Nat.ne_of_gt broken)
      | _ => exact sound.kept

end Sound

end System

end Standby.Hosted
