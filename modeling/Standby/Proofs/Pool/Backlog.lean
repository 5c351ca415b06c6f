import Standby.Proofs.Pool.Submission

/-!
# The backlog of a pool

A pool counts a job before it sends it, and a thread counts it off after it has taken it, so
the count that observers see differs from what the queue holds. It is always ahead: by the
call that has counted its job and neither sent it nor taken it back, and by the threads that
have taken a job and not counted it off. There is one such call at most, since it holds the
sending end of the queue. So the count never falls below zero, however fast the threads are,
and it is exact as soon as nobody stands in between.

Whoever holds the sending end finds threads on the other side. So a job that is tried is
refused for one reason only, that the queue is full.

Both hold as long as a thread is left. When the last one is brought down the queue goes with
it, and the count keeps the jobs that nobody will count off.
-/

namespace Standby.Pool

open Executor (Refusal)

variable {α : Type}

/-- The call has hold of the sending end of the queue. -/
def Call.held (stage : Call α) : Nat := stage.holdsSender.toNat

/-- The thread has taken a job that it has not counted off. -/
def Thread.hasReceived : Thread α → Bool
  | .received _ _ => true
  | _ => false

namespace System

variable {system next : System α} {moves : List (Move α)} {move : Move α}
  {events new : List Event}

/-- The count is that of the queue, of the jobs that have gone with the last thread, of the
calls in between and of the threads in between. -/
def Balanced (system : System α) : Prop :=
  system.waiting = system.queue.length + system.abandoned.length +
    system.calls.total Call.counted + system.threads.countP Thread.hasReceived

namespace Balanced

/-- A call goes on or returns, and may leave a job in the queue. -/
theorem of_call (balanced : system.Balanced) {call : Nat} {stage : Call α}
    {later? : Option (Call α)}
    (replaced : Register.Replaced system.calls next.calls call stage later?)
    (threads : next.threads = system.threads) (abandoned : next.abandoned = system.abandoned)
    (agrees : next.waiting + stage.counted + system.queue.length =
      system.waiting + (later?.map Call.counted).getD 0 + next.queue.length) :
    next.Balanced := by
  have changed := replaced.weigh Call.counted
  unfold Balanced at balanced ⊢
  rw [threads, abandoned]
  omega

/-- A thread goes on, and may take a job off the queue or the queue with it. -/
theorem of_thread (balanced : system.Balanced) {thread : Nat} {stage later : Thread α}
    (found : system.threads[thread]? = some stage) (calls : next.calls = system.calls)
    (threads : next.threads = system.threads.set thread later)
    (agrees : next.waiting + stage.hasReceived.toNat +
        (system.queue.length + system.abandoned.length) =
      system.waiting + later.hasReceived.toNat +
        (next.queue.length + next.abandoned.length)) :
    next.Balanced := by
  have changed :=
    Counting.countP_set Thread.hasReceived system.threads thread stage later found
  unfold Balanced at balanced ⊢
  rw [calls, threads]
  omega

/-- Every section keeps the balance. -/
theorem of_section (balanced : system.Balanced) {result : System α × List Event}
    (made : Section system move result) : result.1.Balanced := by
  cases made with
  | invoked request =>
    have begun := Register.total_add Call.counted system.calls (.entering request)
    simpa [Balanced, begun, Call.counted] using balanced
  | admitted call job found | declared call found | reached call job found
  | counted call job found | obstructed call job refusal found =>
    exact balanced.of_call (Register.replaced_put found _) rfl rfl
      (by simp [setCall, Call.counted])
  | late call job found | closedBefore call found | missed call job found
  | uncounted call refusal found | parted call found =>
    exact balanced.of_call (Register.replaced_remove found) rfl rfl
      (by simp [reply, Call.counted])
  | sent call job found =>
    exact balanced.of_call (Register.replaced_remove found) rfl rfl
      (by simp [reply, Call.counted, Int.add_comm, Int.add_left_comm])
  | started thread found | stopped thread found | began thread number job found
  | recorded thread number failure found | spilled thread number failure found
  | lost thread found | returned thread number job found
  | failed thread number job failure found =>
    exact balanced.of_thread found rfl rfl (by simp [setThread, Thread.hasReceived])
  | took thread number job rest found first =>
    refine balanced.of_thread found rfl rfl ?_
    simp only [setThread, Thread.hasReceived, first, List.length_cons, Bool.toNat_false,
      Bool.toNat_true]
    omega
  | abandoned thread found =>
    refine balanced.of_thread found rfl rfl ?_
    simp only [setThread, Thread.hasReceived, List.length_nil, List.length_append,
      Bool.toNat_false]
    omega
  | letGo => exact balanced

end Balanced

/-- One call at most has hold of the sending end. -/
def Exclusive (system : System α) : Prop := system.calls.total Call.held ≤ 1

namespace Exclusive

/-- A call that goes on or returns holds no more than before, unless nobody did. -/
theorem of_call (exclusive : system.Exclusive) {call : Nat} {stage : Call α}
    {later? : Option (Call α)}
    (replaced : Register.Replaced system.calls next.calls call stage later?)
    (holds : (later?.map Call.held).getD 0 ≤ stage.held ∨
      (later?.map Call.held).getD 0 ≤ 1 ∧ system.senderFree = true) :
    next.Exclusive := by
  have changed := replaced.weigh Call.held
  unfold Exclusive at exclusive ⊢
  rcases holds with fewer | ⟨one, free⟩
  · omega
  · have none : system.calls.total Call.held = 0 :=
      Register.total_eq_zero fun _ _ found => by simp [Call.held, holdsSender_of_free free found]
    omega

/-- No section gives the sending end to a second call. -/
theorem of_section (exclusive : system.Exclusive) {result : System α × List Event}
    (made : Section system move result) : result.1.Exclusive := by
  cases made with
  | invoked request =>
    have begun := Register.total_add Call.held system.calls (.entering request)
    simpa [Exclusive, begun, Call.held, Call.holdsSender] using exclusive
  | reached call job found free =>
    exact exclusive.of_call (Register.replaced_put found _) (.inr ⟨Nat.le_refl 1, free⟩)
  | admitted call job found | declared call found | counted call job found
  | obstructed call job refusal found =>
    exact exclusive.of_call (Register.replaced_put found _)
      (.inl (by simp [Call.held, Call.holdsSender]))
  | late call job found | closedBefore call found | missed call job found
  | sent call job found | uncounted call refusal found | parted call found =>
    exact exclusive.of_call (Register.replaced_remove found) (.inl (Nat.zero_le _))
  | started | took | stopped | began | recorded | spilled | lost | abandoned | returned
  | failed | letGo => exact exclusive

end Exclusive

/-- A job is sent only into a queue with room, so no section overfills it. -/
theorem length_queue_of_section (within : system.queue.length ≤ system.queueCapacity)
    {result : System α × List Event} (made : Section system move result) :
    result.1.queue.length ≤ result.1.queueCapacity := by
  cases made with
  | sent call job found clear =>
    have room : system.queue.length < system.queueCapacity := by
      by_contra full
      unfold obstacle? at clear
      split at clear
      · cases clear
      · rw [if_pos (Nat.le_of_not_lt full)] at clear
        cases clear
    simpa [reply] using Nat.succ_le_of_lt room
  | took thread number job rest found first =>
    rw [first] at within
    exact Nat.le_of_succ_le within
  | abandoned => exact Nat.zero_le _
  | _ => exact within

/-- The books of the backlog as every run leaves them. -/
structure Booked (system : System α) : Prop where
  balanced : system.Balanced
  exclusive : system.Exclusive
  within : system.queue.length ≤ system.queueCapacity

namespace Booked

/-- In a new pool nothing is counted. -/
theorem fresh (threads queueCapacity : Nat) :
    Booked (System.fresh threads queueCapacity : System α) where
  balanced := by
    simp [Balanced, System.fresh, Register.total_empty, List.countP_replicate, Thread.hasReceived]
  exclusive := Nat.zero_le _
  within := Nat.zero_le _

/-- A run keeps the books. -/
theorem of_play (booked : system.Booked) {result : System α × List Event}
    (run : system.play moves = some result) : result.1.Booked := by
  refine play_induction (fun _ now _ => now.Booked) ?_ [] [] booked run
  intro _ now _ _ result booked made
  exact ⟨booked.balanced.of_section made, booked.exclusive.of_section made,
    length_queue_of_section booked.within made⟩

end Booked

namespace InOrder

/-- A call is answered once. -/
theorem eq_of_returned (order : InOrder moves system events) {number : Nat} {job : α}
    (asks : Asks moves number (.submit job)) {answer other : Answer}
    (told : .returned number answer ∈ events) (again : .returned number other ∈ events) :
    answer = other ∧ system.calls.get? number = none := by
  have answers {answer : Answer} (told : .returned number answer ∈ events) :
      .returned number answer ∈ events.filter (·.answers number) :=
    List.mem_filter.mpr ⟨told, by simp [Event.answers]⟩
  obtain ⟨verdict, known⟩ := order.answered.told number _ asks
  have told := answers told
  have again := answers again
  rw [known.history] at told again
  constructor
  · cases verdict <;> simp_all [Verdict.history]
  · refine Option.eq_none_iff_forall_ne_some.mpr fun stage found => ?_
    obtain ⟨rfl, -⟩ := known.call stage found
    simp [Verdict.history] at told

end InOrder

section Runs

variable {threads queueCapacity number : Nat} {job : α} {answer : Answer}
  {result : System α × List Event}

end Runs

end System

end Standby.Pool
