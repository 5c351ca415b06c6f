import Standby.Proofs.Pool.Closing

/-!
# Pools go on

Every section of a pool that is not asked for from outside uses up some of the work that
lies in its calls, its queue and its threads, and a new call brings only so much of it.
As long as there is work that a thread or a call could do, one of them can do it: nobody
waits for somebody who waits in turn. So a pool that is left alone comes to rest, with no
job left behind, and once it is closed its threads stop, if they were not brought down.
-/

namespace Standby.Pool

variable {α : Type}

/-- The pool moves on by itself: nobody calls, and nobody lets it go. -/
def Move.isOwn : Move α → Bool
  | .proceed _ | .work _ | .finish _ _ => true
  | .invoke _ | .letGo => false

/-- The work that a call brings at most, the way of its job through the queue and a thread
included. -/
def Call.load : Call α → Nat
  | .entering _ => 8
  | .reaching _ => 7
  | .counting _ => 6
  | .sending _ => 5
  | .uncounting _ | .closing => 1

/-- The work that remains to a thread, for its job and to stop. -/
def Thread.load : Thread α → Nat
  | .created | .failed _ _ => 2
  | .idle | .collapsing => 1
  | .received _ _ => 4
  | .running _ _ => 3
  | .stopped | .lost => 0

namespace System

variable {system next : System α} {moves : List (Move α)} {move : Move α}

/-- The work that remains in a pool. -/
def load (system : System α) : Nat :=
  system.calls.total Call.load + 4 * system.queue.length +
    Counting.total Thread.load system.threads

/-- A new pool has to begin its threads and to stop them. -/
theorem load_fresh (threads queueCapacity : Nat) :
    (System.fresh threads queueCapacity : System α).load = 2 * threads := by
  have begun (count : Nat) :
      Counting.total (Thread.load (α := α)) (List.replicate count .created) = 2 * count := by
    induction count with
    | zero => rfl
    | succ count inductionHypothesis =>
      rw [List.replicate_succ, Counting.total, inductionHypothesis, Thread.load]
      omega
  simp [load, fresh, Register.total_empty, begun]

/-- A call goes on with less work. -/
theorem load_of_put {call : Nat} {stage later : Call α}
    (found : system.calls.get? call = some stage)
    (calls : next.calls = system.calls.put call later) (queue : next.queue = system.queue)
    (threads : next.threads = system.threads) (less : later.load < stage.load) :
    next.load < system.load := by
  have changed : (system.calls.put call later).total Call.load + stage.load =
      system.calls.total Call.load + later.load := Register.total_put Call.load found
  simp only [load, calls, queue, threads]
  omega

/-- A call returns, and may leave a job in the queue. -/
theorem load_of_remove {call : Nat} {stage : Call α}
    (found : system.calls.get? call = some stage)
    (calls : next.calls = system.calls.remove call)
    (queue : 4 * next.queue.length < 4 * system.queue.length + stage.load)
    (threads : next.threads = system.threads) : next.load < system.load := by
  have changed := Register.total_remove Call.load found
  simp only [load, calls, threads]
  omega

/-- A thread goes on, and may take jobs off the queue. -/
theorem load_of_set {thread : Nat} {stage later : Thread α}
    (found : system.threads[thread]? = some stage) (calls : next.calls = system.calls)
    (threads : next.threads = system.threads.set thread later)
    (less : 4 * next.queue.length + later.load < 4 * system.queue.length + stage.load) :
    next.load < system.load := by
  have changed := Counting.total_set Thread.load system.threads thread stage later found
  simp only [load, calls, threads]
  omega

/-- Every section that the pool makes by itself uses up work, and a call brings some. -/
theorem load_of_section {result : System α × List Event} (made : Section system move result) :
    result.1.load + move.isOwn.toNat ≤ system.load + 8 * move.request?.toList.length := by
  cases made with
  | invoked request =>
    have calls := Register.total_add Call.load system.calls (.entering request)
    simp only [load, calls, Call.load, Move.isOwn, Move.request?, Bool.toNat_false,
      Option.toList_some, List.length_singleton]
    omega
  | admitted call job found | declared call found | reached call job found
  | counted call job found | obstructed call job refusal found =>
    exact load_of_put found rfl rfl rfl (by simp [Call.load])
  | late call job found | closedBefore call found | missed call job found
  | uncounted call refusal found | parted call found =>
    exact load_of_remove found rfl (Nat.lt_add_of_pos_right (by simp [Call.load])) rfl
  | sent call job found =>
    exact load_of_remove found rfl (by simp [reply, Call.load, Nat.mul_add]) rfl
  | started thread found | stopped thread found | began thread number job found
  | recorded thread number failure found | spilled thread number failure found
  | lost thread found | abandoned thread found | returned thread number job found
  | failed thread number job failure found =>
    exact load_of_set found rfl rfl (by simp [setThread, Thread.load])
  | took thread number job rest found first =>
    exact load_of_set found rfl rfl (by simp [setThread, first, Thread.load, Nat.mul_add])
  | letGo => exact Nat.le_add_right _ _

/-- The pool can make this move. -/
def Can (system : System α) (move : Move α) : Prop := ∃ result, system.step move = some result

/-- While there are calls, one of them can go on: who holds the sending end is never kept
waiting, and when nobody holds it, it is there for everybody. -/
theorem exists_proceed {call : Nat} {stage : Call α}
    (found : system.calls.get? call = some stage) : ∃ other, system.Can (.proceed other) := by
  by_cases free : system.senderFree = true
  · refine ⟨call, ?_⟩
    simp only [Can, step, found, Option.bind_some]
    cases stage with
    | entering request => exact ⟨_, rfl⟩
    | reaching job => cases there : system.sender <;> simp [proceed, free, there]
    | counting job => exact ⟨_, rfl⟩
    | sending job => cases obstacle : system.obstacle? <;> simp [proceed, obstacle]
    | uncounting refusal => exact ⟨_, rfl⟩
    | closing => simp [proceed, free]
  · obtain ⟨holder, held, holds⟩ : ∃ holder ∈ system.calls.values, holder.holdsSender = true := by
      simpa [senderFree] using free
    obtain ⟨other, stands⟩ := Register.mem_values_iff.mp held
    refine ⟨other, ?_⟩
    simp only [Can, step, stands, Option.bind_some]
    cases holder with
    | counting job => exact ⟨_, rfl⟩
    | sending job => cases obstacle : system.obstacle? <;> simp [proceed, obstacle]
    | uncounting refusal => exact ⟨_, rfl⟩
    | _ => cases holds

/-- A thread goes on when the program of its stage does. -/
theorem can_work {thread : Nat} {stage : Thread α}
    (found : system.threads[thread]? = some stage)
    (goesOn : (system.work thread stage).isSome = true) : system.Can (.work thread) :=
  Option.isSome_iff_exists.mp (by simpa [step, found] using goesOn)

/-- A running job can end in every way. -/
theorem can_finish {thread number : Nat} {job : α}
    (found : system.threads[thread]? = some (.running number job)) (outcome : Outcome) :
    system.Can (.finish thread outcome) := by
  refine Option.isSome_iff_exists.mp ?_
  cases outcome <;> simp [step, found, finish]

/-- A thread that neither waits nor is at its end can go on, or its job can end. -/
theorem can_of_busy {thread : Nat} {stage : Thread α}
    (found : system.threads[thread]? = some stage) (waits : stage ≠ .idle)
    (goesOn : stage.isOver = false) :
    system.Can (.work thread) ∨ ∀ outcome, system.Can (.finish thread outcome) := by
  cases stage with
  | created | received | failed | collapsing => exact .inl (can_work found rfl)
  | idle => exact absurd rfl waits
  | running number job => exact .inr (can_finish found)
  | stopped | lost => cases goesOn

/-- A waiting thread can go on as soon as there is a job, or no job can come any more. -/
theorem can_of_idle {thread : Nat} (found : system.threads[thread]? = some .idle)
    (reason : system.queue ≠ [] ∨ system.sender = false) : system.Can (.work thread) := by
  refine can_work found ?_
  cases first : system.queue with
  | cons entry rest => simp [work, takeFirst, first]
  | nil =>
    have gone : system.sender = false := reason.resolve_left (not_not_intro first)
    simp [work, takeFirst, first, gone]

/-- The pool cannot move on by itself. -/
def AtRest (system : System α) : Prop := ∀ move, move.isOwn = true → ¬ system.Can move

namespace AtRest

/-- Whoever has called a pool at rest has been answered. -/
theorem unused (rest : system.AtRest) (call : Nat) : system.calls.get? call = none := by
  cases found : system.calls.get? call with
  | none => rfl
  | some stage =>
    obtain ⟨other, can⟩ := exists_proceed found
    exact absurd can (rest (.proceed other) rfl)

/-- The threads of a pool at rest wait or are at their end. -/
theorem idle_or_over (rest : system.AtRest) {thread : Nat} {stage : Thread α}
    (found : system.threads[thread]? = some stage) : stage = .idle ∨ stage.isOver = true := by
  by_contra busy
  obtain ⟨waits, goesOn⟩ := not_or.mp busy
  rcases can_of_busy found waits (Bool.eq_false_iff.mpr goesOn) with can | can
  · exact rest (.work thread) rfl can
  · exact rest (.finish thread .returned) rfl (can .returned)

/-- No thread of a pool at rest has a job. -/
theorem countP_eq_zero (rest : system.AtRest) {p : Thread α → Bool} (idle : p .idle = false)
    (uncounted : ∀ stage : Thread α, stage.isOver = true → p stage = false) :
    system.threads.countP p = 0 := by
  refine List.countP_eq_zero.mpr fun stage member => ?_
  obtain ⟨thread, found⟩ := List.mem_iff_getElem?.mp member
  rcases rest.idle_or_over found with rfl | ended
  · simp [idle]
  · simp [uncounted stage ended]

/-- No job waits in a pool at rest. -/
theorem queue_eq_nil (rest : system.AtRest) (leaves : system.LeavesNothing) :
    system.queue = [] := by
  by_cases deserted : system.deserted = true
  · exact leaves.deserted deserted
  · obtain ⟨stage, member, goesOn⟩ : ∃ stage ∈ system.threads, ¬ stage.isOver = true := by
      simpa [System.deserted] using deserted
    obtain ⟨thread, found⟩ := List.mem_iff_getElem?.mp member
    obtain rfl := (rest.idle_or_over found).resolve_right goesOn
    by_contra waiting
    exact rest (.work thread) rfl (can_of_idle found (.inl waiting))

/-- In a closed pool at rest all threads are at their end. -/
theorem deserted (rest : system.AtRest) (shutting : system.Shutting moves)
    (closed : system.closed = true) : system.deserted = true := by
  have gone : system.sender = false := by
    apply Bool.eq_false_iff.mpr
    intro there
    obtain ⟨call, parting⟩ := shutting.parts closed there
    simp [rest.unused call] at parting
  refine List.all_eq_true.mpr fun stage member => ?_
  obtain ⟨thread, found⟩ := List.mem_iff_getElem?.mp member
  rcases rest.idle_or_over found with rfl | ended
  · exact absurd (can_of_idle found (.inr gone)) (rest (.work thread) rfl)
  · exact ended

end AtRest

end System

end Standby.Pool
