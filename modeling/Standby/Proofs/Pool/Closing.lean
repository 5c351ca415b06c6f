import Standby.Proofs.Pool.Ledger

/-!
# Closing a pool

A pool is declared closed first and loses the sending end of its queue later, in a section
of its own. In between, calls that found it open may still send their jobs. What was sent
is kept: a thread stops only when the sending end has gone and the queue is empty, and
since nobody can get hold of the sending end then, no job comes to a queue that a thread
has left. Only when the last thread is brought down the queue goes with it, and then nobody
can send any more either.

A call that begins after some call has closed the pool finds it closed and is refused.
-/

namespace Standby.Pool

open Executor (Refusal)

variable {α : Type}

namespace System

variable {system next : System α} {moves : List (Move α)} {move : Move α}
  {events new : List Event}

/-- How far the closing of a pool has got, seen from its calls. -/
structure Shutting (moves : List (Move α)) (system : System α) : Prop where
  /-- While the pool is open, whoever wants to close it has only called. -/
  waits : system.closed = false → ∀ call, Asks moves call .close →
    system.calls.get? call = some (.entering .close)
  opened : system.closed = false → system.sender = true
  /-- While a closed pool has its sending end, somebody is about to take it away. -/
  parts : system.closed = true → system.sender = true →
    ∃ call, system.calls.get? call = some .closing
  /-- Nobody holds a sending end that has gone. -/
  gone : system.sender = false → ∀ call stage, system.calls.get? call = some stage →
    stage.holdsSender = false

/-- When the sending end is free, no call holds it. -/
theorem holdsSender_of_free (free : system.senderFree = true) {call : Nat} {stage : Call α}
    (found : system.calls.get? call = some stage) : stage.holdsSender = false := by
  have nobody : ∀ held ∈ system.calls.values, held.holdsSender = false := by
    simpa [senderFree] using free
  exact nobody stage (Register.mem_values_iff.mpr ⟨call, found⟩)

namespace Shutting

/-- A new pool is open. -/
theorem fresh (threads queueCapacity : Nat) :
    Shutting [] (System.fresh threads queueCapacity : System α) where
  waits _ _ asks := by cases asks
  opened _ := rfl
  parts closed := by cases closed
  gone gone := by cases gone

/-- The threads have no part in it. -/
theorem keep (shutting : system.Shutting moves) (none : move.request? = none)
    (calls : next.calls = system.calls) (closed : next.closed = system.closed)
    (sender : next.sender = system.sender) : next.Shutting (moves ++ [move]) where
  waits opened call asks := by
    rw [calls]
    exact shutting.waits (closed ▸ opened) call ((asks_concat_of_none none).mp asks)
  opened opened := sender ▸ shutting.opened (closed ▸ opened)
  parts shut there := calls ▸ shutting.parts (closed ▸ shut) (sender ▸ there)
  gone gone := calls ▸ shutting.gone (sender ▸ gone)

/-- One call goes on or returns, and it is not one that closes the pool. -/
theorem turn (shutting : system.Shutting moves) (none : move.request? = none) {call : Nat}
    {stage : Call α} (found : system.calls.get? call = some stage)
    (others : ∀ number, number ≠ call → next.calls.get? number = system.calls.get? number)
    (closed : next.closed = system.closed) (sender : next.sender = system.sender)
    (bystander : system.closed = false → stage ≠ .entering .close) (stays : stage ≠ .closing)
    (holds : ∀ later, next.calls.get? call = some later → later.holdsSender = true →
      stage.holdsSender = true ∨ system.sender = true) :
    next.Shutting (moves ++ [move]) where
  waits opened number asks := by
    have waited := shutting.waits (closed ▸ opened) number ((asks_concat_of_none none).mp asks)
    have other : number ≠ call := by
      rintro rfl
      exact bystander (closed ▸ opened) (Option.some.inj (found.symm.trans waited))
    rw [others number other]
    exact waited
  opened opened := sender ▸ shutting.opened (closed ▸ opened)
  parts shut there := by
    obtain ⟨number, parting⟩ := shutting.parts (closed ▸ shut) (sender ▸ there)
    have other : number ≠ call := by
      rintro rfl
      exact stays (Option.some.inj (found.symm.trans parting))
    exact ⟨number, (others number other).trans parting⟩
  gone gone number later held := by
    have parted : system.sender = false := sender ▸ gone
    by_cases here : number = call
    · subst here
      apply Bool.eq_false_iff.mpr
      intro holding
      rcases holds later held holding with before | there
      · simp [shutting.gone parted number stage found] at before
      · simp [parted] at there
    · rw [others number here] at held
      exact shutting.gone parted number later held

/-- A call moves to another stage. -/
theorem put (shutting : system.Shutting moves) (none : move.request? = none) {call : Nat}
    {stage later : Call α} (found : system.calls.get? call = some stage)
    (calls : next.calls = system.calls.put call later) (closed : next.closed = system.closed)
    (sender : next.sender = system.sender)
    (bystander : system.closed = false → stage ≠ .entering .close) (stays : stage ≠ .closing)
    (holds : later.holdsSender = true → stage.holdsSender = true ∨ system.sender = true) :
    next.Shutting (moves ++ [move]) := by
  refine shutting.turn none found (fun number other => ?_) closed sender bystander stays
    fun after held => ?_
  · rw [calls, Register.get?_put, if_neg other]
  · obtain rfl : later = after := by simpa [calls, Register.get?_put, found] using held
    exact holds

/-- A call returns. -/
theorem remove (shutting : system.Shutting moves) (none : move.request? = none) {call : Nat}
    {stage : Call α} (found : system.calls.get? call = some stage)
    (calls : next.calls = system.calls.remove call) (closed : next.closed = system.closed)
    (sender : next.sender = system.sender)
    (bystander : system.closed = false → stage ≠ .entering .close) (stays : stage ≠ .closing) :
    next.Shutting (moves ++ [move]) :=
  shutting.turn none found
    (fun number other => by rw [calls, Register.get?_remove, if_neg other]) closed sender
    bystander stays fun later held => by simp [calls, Register.get?_remove] at held

/-- A call begins. -/
theorem invoke (shutting : system.Shutting moves) (request : Request α)
    (numbered : system.calls.next = (requests moves).length) :
    Shutting (moves ++ [.invoke request])
      { system with calls := system.calls.add (.entering request) } where
  waits opened call asks := by
    rw [asks_invoke, ← numbered] at asks
    rw [Register.get?_add]
    split at asks
    · rename_i newest
      rw [if_pos newest, asks]
    · rename_i older
      rw [if_neg older]
      exact shutting.waits opened call asks
  opened := shutting.opened
  parts shut there := by
    obtain ⟨call, parting⟩ := shutting.parts shut there
    have given : call ≠ system.calls.next := by
      rintro rfl
      simp [system.calls.get?_of_le (Nat.le_refl _)] at parting
    exact ⟨call, by rw [Register.get?_add, if_neg given]; exact parting⟩
  gone gone call stage held := by
    rw [Register.get?_add] at held
    split at held
    · obtain rfl := Option.some.inj held
      rfl
    · exact shutting.gone gone call stage held

/-- Every section keeps the order in which a pool is closed. -/
theorem of_section (shutting : system.Shutting moves)
    (answered : Answered moves system events) {result : System α × List Event}
    (made : Section system move result) : result.1.Shutting (moves ++ [move]) := by
  cases made with
  | invoked request => exact shutting.invoke request answered.numbered
  | late call job found closed =>
    exact shutting.remove rfl found rfl rfl rfl (by simp) (by simp)
  | admitted call job found opened =>
    exact shutting.put rfl found rfl rfl rfl (by simp) (by simp) (by simp [Call.holdsSender])
  | closedBefore call found closed =>
    exact shutting.remove rfl found rfl rfl rfl (by simp [closed]) (by simp)
  | declared call found opened =>
    refine ⟨by simp [setCall], by simp [setCall],
      fun _ _ => ⟨call, by simp [setCall, Register.get?_put, found]⟩, ?_⟩
    intro gone
    have there : system.sender = true := shutting.opened opened
    exact absurd gone (by simp [setCall, there])
  | missed call job found free gone =>
    exact shutting.remove rfl found rfl rfl rfl (by simp) (by simp)
  | reached call job found free there =>
    exact shutting.put rfl found rfl rfl rfl (by simp) (by simp) fun _ => .inr there
  | counted call job found | obstructed call job refusal found =>
    exact shutting.put rfl found rfl rfl rfl (by simp) (by simp) fun _ => .inl rfl
  | sent call job found clear =>
    exact shutting.remove rfl found rfl rfl rfl (by simp) (by simp)
  | uncounted call refusal found =>
    exact shutting.remove rfl found rfl rfl rfl (by simp) (by simp)
  | parted call found free =>
    have closed : system.closed = true := by
      -- A call that is about to take the sending end away has declared the pool closed.
      obtain ⟨request, asks, serves⟩ := answered.exists_asks found
      cases request with
      | submit job => cases serves
      | close =>
        apply Bool.of_not_eq_false
        intro opened
        cases found.symm.trans (shutting.waits opened call asks)
    refine ⟨fun opened => ?_, fun opened => ?_, by simp [reply], fun _ number stage held => ?_⟩
    · exact absurd opened (by simp [reply, closed])
    · exact absurd opened (by simp [reply, closed])
    · simp only [reply, Register.get?_remove] at held
      split at held
      · cases held
      · exact holdsSender_of_free free held
  | letGo held unused =>
    refine ⟨by simp, by simp, by simp, fun _ number stage found => ?_⟩
    simp [Register.isEmpty_iff.mp unused number] at found
  | started | took | stopped | began | recorded | spilled | lost | abandoned | returned
  | failed => exact shutting.keep rfl rfl rfl rfl

/-- Somebody who has closed the pool has left it closed. -/
theorem closed_of_returned (shutting : system.Shutting moves)
    (answered : Answered moves system events) {call : Nat} {answer : Answer}
    (asks : Asks moves call .close) (returned : .returned call answer ∈ events) :
    system.closed = true := by
  apply Bool.of_not_eq_false
  intro opened
  obtain ⟨verdict, told⟩ := answered.told call _ asks
  obtain ⟨rfl, _⟩ := told.call _ (shutting.waits opened call asks)
  have unanswered : events.filter (·.answers call) = [] := told.history
  exact absurd (List.filter_eq_nil_iff.mp unanswered _ returned) (by simp [Event.answers])

end Shutting

/-- A pool without threads is deserted. -/
theorem deserted_of_nil (none : system.threads = []) : system.deserted = true := by
  simp [deserted, none]

/-- A pool is deserted once none of its threads goes on. -/
theorem deserted_eq_false {thread : Thread α} (member : thread ∈ system.threads)
    (goesOn : thread.isOver = false) : system.deserted = false := by
  refine Bool.eq_false_iff.mpr fun deserted => ?_
  simp [List.all_eq_true.mp deserted thread member] at goesOn

/-- The threads of a deserted pool have stopped, unless they were brought down. -/
theorem stopped_of_deserted (deserted : system.deserted = true) {thread : Thread α}
    (member : thread ∈ system.threads) (kept : thread ≠ .lost) : thread = .stopped := by
  have ended := List.all_eq_true.mp deserted thread member
  cases thread <;> first | rfl | exact absurd rfl kept | cases ended

/-- When a deserted pool has a thread left, that has stopped. -/
theorem Attended.stopped (attended : system.Attended) (deserted : system.deserted = true) :
    .stopped ∈ system.threads := by
  obtain ⟨thread, member, kept⟩ := attended
  exact stopped_of_deserted deserted member kept ▸ member

/-- Threads leave nothing to do behind, unless all of them are lost. -/
structure LeavesNothing (system : System α) : Prop where
  /-- A thread that has stopped leaves no job and no way for jobs to come. -/
  stopped : .stopped ∈ system.threads → system.sender = false ∧ system.queue = []
  /-- No job waits when nobody could take it. -/
  deserted : system.deserted = true → system.queue = []
  /-- Jobs have gone only with the last of all threads. -/
  kept : system.Attended → system.abandoned = []

namespace LeavesNothing

/-- A new pool has no jobs. -/
theorem fresh (threads queueCapacity : Nat) :
    LeavesNothing (System.fresh threads queueCapacity : System α) where
  stopped member := by cases List.eq_of_mem_replicate member
  deserted _ := rfl
  kept _ := rfl

/-- The threads have no part in it, and no job comes. -/
theorem keep (leaves : system.LeavesNothing) (threads : next.threads = system.threads)
    (sender : system.sender = false → next.sender = false) (queue : next.queue = system.queue)
    (abandoned : next.abandoned = system.abandoned) : next.LeavesNothing where
  stopped member := by
    obtain ⟨gone, empty⟩ := leaves.stopped (threads ▸ member)
    exact ⟨sender gone, queue ▸ empty⟩
  deserted deserted := by
    rw [System.deserted, threads] at deserted
    exact queue ▸ leaves.deserted deserted
  kept attended := by
    rw [Attended, threads] at attended
    exact abandoned ▸ leaves.kept attended

/-- A thread goes on and is not at its end, or it is and leaves an empty queue. -/
theorem turn (leaves : system.LeavesNothing) {thread : Nat} {before after : Thread α}
    (found : system.threads[thread]? = some before) (there : before ≠ .lost)
    (threads : next.threads = system.threads.set thread after)
    (sender : next.sender = system.sender) (queue : system.queue = [] → next.queue = [])
    (abandoned : next.abandoned = system.abandoned)
    (stops : after = .stopped → system.sender = false ∧ system.queue = [])
    (ends : after.isOver = true → next.deserted = true → next.queue = []) :
    next.LeavesNothing where
  stopped member := by
    have left : system.sender = false ∧ system.queue = [] := by
      rw [threads] at member
      rcases List.mem_or_eq_of_mem_set member with before | same
      · exact leaves.stopped before
      · exact stops same.symm
    exact ⟨sender ▸ left.1, queue left.2⟩
  deserted deserted := by
    have member : after ∈ next.threads := by
      rw [threads]
      exact List.mem_set (List.getElem?_eq_some_iff.mp found).1 after
    exact ends (List.all_eq_true.mp deserted after member) deserted
  kept _ := abandoned ▸ leaves.kept (attended_of_found found there)

/-- Every section keeps it so. -/
theorem of_section (leaves : system.LeavesNothing) (shutting : system.Shutting moves)
    {result : System α × List Event} (made : Section system move result) :
    result.1.LeavesNothing := by
  cases made with
  | invoked | late | admitted | closedBefore | declared | missed | reached | counted
  | obstructed | uncounted => exact leaves.keep rfl id rfl rfl
  | parted | letGo => exact leaves.keep rfl (fun _ => rfl) rfl rfl
  | sent call job found clear =>
    refine ⟨fun member => ?_, fun deserted => ?_, leaves.kept⟩
    · -- Whoever sends a job holds the sending end, so it has not gone.
      have holds := shutting.gone (leaves.stopped member).1 call _ found
      cases holds
    · have lonely : system.deserted = true := deserted
      simp [obstacle?, lonely] at clear
  | stopped thread found empty gone =>
    exact leaves.turn found nofun rfl rfl id rfl (fun _ => ⟨gone, empty⟩) fun _ _ => empty
  | took thread number job rest found first =>
    exact leaves.turn found nofun rfl rfl (fun empty => by simp [first] at empty) rfl nofun nofun
  | started thread found | began thread number job found | recorded thread number failure found
  | spilled thread number failure found | returned thread number job found
  | failed thread number job failure found =>
    exact leaves.turn found nofun rfl rfl id rfl nofun nofun
  | lost thread found others =>
    exact leaves.turn found nofun rfl rfl id rfl nofun fun _ deserted =>
      absurd deserted (Bool.eq_false_iff.mp others)
  | abandoned thread found last =>
    have before := leaves.kept (attended_of_found found nofun)
    refine ⟨fun member => ?_, fun _ => rfl, fun attended => ?_⟩
    · exact ⟨(leaves.stopped ((List.mem_or_eq_of_mem_set member).resolve_right nofun)).1, rfl⟩
    · have stopped : .stopped ∈ system.threads.set thread .lost := attended.stopped last
      have empty := (leaves.stopped ((List.mem_or_eq_of_mem_set stopped).resolve_right nofun)).2
      simp [setThread, before, empty]

end LeavesNothing

/-- A pool can give this refusal: it was closed or has no thread left, or it has threads and
a full queue. -/
def Grounds (system : System α) (refusal : Refusal) : Prop :=
  refusal = .closed ∧ (system.closed = true ∨ ¬ system.Attended) ∨
    refusal = .queueFull system.queueCapacity ∧ system.threads ≠ []

/-- Nobody is or will be refused without grounds. -/
structure Reasoned (system : System α) (events : List Event) : Prop where
  pending : ∀ call refusal, system.calls.get? call = some (.uncounting refusal) →
    system.Grounds refusal
  refused : ∀ call refusal, .returned call (.refused refusal) ∈ events → system.Grounds refusal
  /-- Without threads nothing is accepted. -/
  queued : ∀ number, .queued number ∈ events → system.threads ≠ []

/-- A job that cannot be sent is refused with grounds. -/
theorem grounds_of_obstacle (shutting : system.Shutting moves)
    (leaves : system.LeavesNothing) {refusal : Refusal}
    (obstacle : system.obstacle? = some refusal) : system.Grounds refusal := by
  unfold obstacle? at obstacle
  split at obstacle
  · rename_i deserted
    obtain rfl := Option.some.inj obstacle
    refine .inl ⟨rfl, or_iff_not_imp_right.mpr fun attended => ?_⟩
    apply Bool.of_not_eq_false
    intro opened
    have gone := (leaves.stopped ((not_not.mp attended).stopped deserted)).1
    simp [shutting.opened opened] at gone
  · rename_i attended
    split at obstacle
    · obtain rfl := Option.some.inj obstacle
      exact .inr ⟨rfl, fun none => attended (deserted_of_nil none)⟩
    · cases obstacle

/-- A thread that is lost stays lost. -/
theorem attended_of_section {result : System α × List Event} (made : Section system move result)
    (attended : result.1.Attended) : system.Attended := by
  cases made with
  | started thread found | took thread _ _ _ found | stopped thread found
  | began thread _ _ found | recorded thread _ _ found | spilled thread _ _ found
  | lost thread found | abandoned thread found | returned thread _ _ found
  | failed thread _ _ _ found => exact attended_of_found found nofun
  | _ => exact attended

/-- Grounds for a refusal do not go away. -/
theorem Grounds.later {refusal : Refusal} (grounds : system.Grounds refusal)
    (closed : system.closed = true → next.closed = true)
    (attended : next.Attended → system.Attended)
    (threads : next.threads.length = system.threads.length)
    (queueCapacity : next.queueCapacity = system.queueCapacity) : next.Grounds refusal := by
  have vacant : next.threads = [] ↔ system.threads = [] := by
    rw [← List.length_eq_zero_iff, threads, List.length_eq_zero_iff]
  rcases grounds with ⟨refused, shut | none⟩ | ⟨refused, some⟩
  · exact .inl ⟨refused, .inl (closed shut)⟩
  · exact .inl ⟨refused, .inr (mt attended none)⟩
  · exact .inr ⟨queueCapacity ▸ refused, mt vacant.mp some⟩

/-- No section opens a pool again, or changes how many threads it has or how many jobs may
wait. -/
theorem fixed_of_section {result : System α × List Event} (made : Section system move result) :
    (system.closed = true → result.1.closed = true) ∧
      result.1.threads.length = system.threads.length ∧
      result.1.queueCapacity = system.queueCapacity := by
  cases made <;> simp_all [setThread, setCall, reply]

namespace Reasoned

/-- In a new pool nobody has been refused. -/
theorem fresh (threads queueCapacity : Nat) :
    Reasoned (System.fresh threads queueCapacity : System α) [] where
  pending call refusal found := by simp [System.fresh] at found
  refused _ _ := nofun
  queued _ := nofun

/-- Whoever is refused by a section is refused with grounds. -/
theorem grounds_of_told (reasoned : system.Reasoned events) (shutting : system.Shutting moves)
    {result : System α × List Event} (made : Section system move result) {call : Nat}
    {refusal : Refusal} (happened : .returned call (.refused refusal) ∈ result.2) :
    system.Grounds refusal := by
  cases made with
  | late _ _ _ shut =>
    obtain ⟨_, rfl⟩ : _ ∧ refusal = .closed := by simpa [reply] using happened
    exact .inl ⟨rfl, .inl shut⟩
  | missed _ _ _ _ gone =>
    obtain ⟨_, rfl⟩ : _ ∧ refusal = .closed := by simpa [reply] using happened
    refine .inl ⟨rfl, .inl (Bool.of_not_eq_false fun opened => ?_)⟩
    simp [shutting.opened opened] at gone
  | uncounted _ own found =>
    obtain ⟨_, rfl⟩ : _ ∧ refusal = own := by simpa [reply] using happened
    exact reasoned.pending _ _ found
  | letGo =>
    split at happened <;> simp at happened
  | _ => simp [reply] at happened

/-- Whoever is about to be refused after a section will be with grounds. -/
theorem grounds_of_pending (reasoned : system.Reasoned events) (shutting : system.Shutting moves)
    (leaves : system.LeavesNothing) {result : System α × List Event}
    (made : Section system move result) {call : Nat} {refusal : Refusal}
    (found : result.1.calls.get? call = some (.uncounting refusal)) :
    system.Grounds refusal := by
  cases made with
  | invoked request =>
    simp only [Register.get?_add] at found
    split at found
    · cases found
    · exact reasoned.pending call refusal found
  | late | closedBefore | missed | sent | uncounted | parted =>
    simp only [reply, Register.get?_remove] at found
    split at found
    · cases found
    · exact reasoned.pending call refusal found
  | obstructed _ _ _ before obstacle =>
    simp only [setCall, Register.get?_put, before] at found
    split at found
    · obtain rfl := by simpa using found
      exact grounds_of_obstacle shutting leaves obstacle
    · exact reasoned.pending call refusal found
  | admitted _ _ before | declared _ before | reached _ _ before | counted _ _ before =>
    simp only [setCall, Register.get?_put, before] at found
    split at found
    · simp at found
    · exact reasoned.pending call refusal found
  | started | took | stopped | began | recorded | spilled | lost | abandoned | returned
  | failed | letGo => exact reasoned.pending call refusal found

/-- A job comes into the queue of a pool with threads only. -/
theorem threads_of_queued {result : System α × List Event} (made : Section system move result)
    {number : Nat} (happened : .queued number ∈ result.2) : system.threads ≠ [] := by
  cases made with
  | sent call job found clear =>
    intro none
    simp [obstacle?, deserted_of_nil none] at clear
  | letGo =>
    split at happened <;> simp at happened
  | _ => simp [reply] at happened

/-- Every section refuses with grounds. -/
theorem of_section (reasoned : system.Reasoned events) (shutting : system.Shutting moves)
    (leaves : system.LeavesNothing) {result : System α × List Event}
    (made : Section system move result) : result.1.Reasoned (events ++ result.2) := by
  obtain ⟨closed, threads, queueCapacity⟩ := fixed_of_section made
  have later {refusal : Refusal} (grounds : system.Grounds refusal) : result.1.Grounds refusal :=
    grounds.later closed (attended_of_section made) threads queueCapacity
  have staffed (some : system.threads ≠ []) : result.1.threads ≠ [] := by
    rw [← List.length_pos_iff] at some ⊢
    exact threads ▸ some
  refine ⟨fun call refusal found => later ?_, fun call refusal happened => later ?_,
    fun number happened => staffed ?_⟩
  · exact reasoned.grounds_of_pending shutting leaves made found
  · rcases List.mem_append.mp happened with before | now
    · exact reasoned.refused call refusal before
    · exact reasoned.grounds_of_told shutting made now
  · rcases List.mem_append.mp happened with before | now
    · exact reasoned.queued number before
    · exact threads_of_queued made now

end Reasoned

/-- A closed pool turns away every call from a number on. -/
structure TurnsAway (bound : Nat) (system : System α) (events : List Event) : Prop where
  closed : system.closed = true
  entering : ∀ call stage, bound ≤ call → system.calls.get? call = some stage →
    ∃ request, stage = .entering request
  unqueued : ∀ call, bound ≤ call → .queued call ∉ events
  refused : ∀ call refusal, bound ≤ call → .returned call (.refused refusal) ∈ events →
    refusal = .closed

namespace TurnsAway

/-- From the moment on at which a pool is found closed, it turns all new calls away. -/
theorem start (closed : system.closed = true) : TurnsAway system.calls.next system [] where
  closed := closed
  entering call stage later found := by simp [system.calls.get?_of_le later] at found
  unqueued _ _ := nofun
  refused _ _ _ := nofun

/-- A call that goes further than to its entrance came earlier. -/
theorem lt_of_inside {bound : Nat} (turnsAway : TurnsAway bound system events) {call : Nat}
    {stage : Call α} (found : system.calls.get? call = some stage)
    (inside : ∀ request, stage ≠ .entering request) : call < bound := by
  apply Nat.lt_of_not_le
  intro later
  obtain ⟨request, entering⟩ := turnsAway.entering call stage later found
  exact inside request entering

/-- No section queues the job of a later call. -/
theorem lt_of_queued {bound : Nat} (turnsAway : TurnsAway bound system events)
    {result : System α × List Event} (made : Section system move result) {call : Nat}
    (happened : .queued call ∈ result.2) : call < bound := by
  cases made with
  | sent number job found clear =>
    obtain rfl : call = number := by simpa using happened
    exact turnsAway.lt_of_inside found (by simp)
  | letGo => split at happened <;> simp at happened
  | _ => simp [reply] at happened

/-- A later call is refused because the pool is closed. -/
theorem eq_closed_of_told {bound : Nat} (turnsAway : TurnsAway bound system events)
    {result : System α × List Event} (made : Section system move result) {call : Nat}
    {refusal : Refusal} (later : bound ≤ call)
    (happened : .returned call (.refused refusal) ∈ result.2) : refusal = .closed := by
  cases made with
  | late number job found | missed number job found =>
    simp only [reply, List.mem_singleton, Event.returned.injEq, Answer.refused.injEq]
      at happened
    exact happened.2
  | uncounted number own found =>
    obtain ⟨rfl, _⟩ : call = number ∧ _ := by simpa [reply] using happened
    exact absurd later (Nat.not_le.mpr (turnsAway.lt_of_inside found (by simp)))
  | letGo => split at happened <;> simp at happened
  | _ => simp [reply] at happened

/-- A later call stays at its entrance. -/
theorem entering_of_section {bound : Nat} (turnsAway : TurnsAway bound system events)
    {result : System α × List Event} (made : Section system move result) {call : Nat}
    {stage : Call α} (later : bound ≤ call) (found : result.1.calls.get? call = some stage) :
    ∃ request, stage = .entering request := by
  cases made with
  | invoked request =>
    simp only [Register.get?_add] at found
    split at found
    · exact ⟨request, (Option.some.inj found).symm⟩
    · exact turnsAway.entering call stage later found
  | late | closedBefore | missed | sent | uncounted | parted =>
    simp only [reply, Register.get?_remove] at found
    split at found
    · cases found
    · exact turnsAway.entering call stage later found
  | admitted _ _ before opened | declared _ before opened =>
    cases turnsAway.closed.symm.trans opened
  | obstructed number _ _ before | reached number _ before | counted number _ before =>
    simp only [setCall, Register.get?_put] at found
    split at found
    · rename_i here
      exact absurd later (Nat.not_le.mpr (here ▸ turnsAway.lt_of_inside before (by simp)))
    · exact turnsAway.entering call stage later found
  | started | took | stopped | began | recorded | spilled | lost | abandoned | returned
  | failed | letGo => exact turnsAway.entering call stage later found

/-- Every section turns them away. -/
theorem of_section {bound : Nat} (turnsAway : TurnsAway bound system events)
    {result : System α × List Event} (made : Section system move result) :
    TurnsAway bound result.1 (events ++ result.2) where
  closed := (fixed_of_section made).1 turnsAway.closed
  entering _ _ later found := turnsAway.entering_of_section made later found
  unqueued call later happened := by
    rcases List.mem_append.mp happened with before | now
    · exact turnsAway.unqueued call later before
    · exact Nat.not_lt.mpr later (turnsAway.lt_of_queued made now)
  refused call refusal later happened := by
    rcases List.mem_append.mp happened with before | now
    · exact turnsAway.refused call refusal later before
    · exact turnsAway.eq_closed_of_told made later now

end TurnsAway

end System

end Standby.Pool
