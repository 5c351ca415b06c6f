import Standby.Proofs.Pool.Progress

/-!
# What a pool accepts it runs

The jobs leave the queue in the order in which they came into it. A job that was accepted
is in one place at any time, and it is begun once, as soon as it has left the queue and the
hand of the thread that took it. A job that was refused was never in the queue, and no
thread ever had it. Failures and the closing of the pool change nothing of this: a pool
that is left alone comes to rest, and then every job was either refused or has been begun
and has ended, each once.

There is one way to lose a job. A failure that spills takes its thread with it, and the
queue is lost with the last of all threads. As long as one is left nothing is lost, and that
is so until as many failures have spilled as there were threads.
-/

namespace Standby.Pool

variable {α : Type}

/-- The job comes into the queue. -/
def Event.queues (number : Nat) (event : Event) : Bool :=
  match event with
  | .queued other => other = number
  | _ => false

namespace System

variable {system next : System α} {moves : List (Move α)} {move : Move α}
  {events new : List Event} {number : Nat} {job : α}

/-- A failure that spills takes its thread with it, and nothing else does. -/
theorem broken_of_section {result : System α × List Event} (made : Section system move result) :
    result.1.threads.countP Thread.isBroken =
      system.threads.countP Thread.isBroken + move.isSpill.toNat := by
  have turned {thread : Nat} {before after : Thread α}
      (found : system.threads[thread]? = some before)
      (agrees : after.isBroken.toNat = before.isBroken.toNat + move.isSpill.toNat) :
      (system.threads.set thread after).countP Thread.isBroken =
        system.threads.countP Thread.isBroken + move.isSpill.toNat := by
    have changed := Counting.countP_set Thread.isBroken system.threads thread before after found
    omega
  cases made with
  | invoked | late | admitted | closedBefore | declared | missed | reached | counted
  | obstructed | sent | uncounted | parted | letGo => rfl
  | recorded thread _ _ found spills | spilled thread _ _ found spills =>
    exact turned found (by simp [Thread.isBroken, Move.isSpill, spills])
  | started thread found | took thread _ _ _ found | stopped thread found
  | began thread _ _ found | lost thread found | abandoned thread found
  | returned thread _ _ found | failed thread _ _ failure found =>
    exact turned found (by simp [Thread.isBroken, Move.isSpill])

/-- A pool as every run of it leaves it. -/
structure InOrder (moves : List (Move α)) (system : System α) (events : List Event) : Prop where
  answered : Answered moves system events
  flow : system.Flow events
  faithful : system.Faithful moves
  shutting : system.Shutting moves
  leaves : system.LeavesNothing
  reasoned : system.Reasoned events
  /-- Every failure is counted, or about to be. -/
  failures : moves.countP Move.isFailure = system.failures + system.threads.countP Thread.hasFailed
  /-- Every failure that spills takes its thread with it. -/
  broken : moves.countP Move.isSpill = system.threads.countP Thread.isBroken

namespace InOrder

/-- A new pool is in order. -/
theorem fresh (threads queueCapacity : Nat) :
    InOrder [] (System.fresh threads queueCapacity : System α) [] where
  answered := .fresh threads queueCapacity
  flow := .fresh threads queueCapacity
  faithful := by
    refine ⟨nofun, fun thread stage entry found has => ?_⟩
    obtain rfl := List.eq_of_mem_replicate (List.mem_of_getElem? found)
    cases has
  shutting := .fresh threads queueCapacity
  leaves := .fresh threads queueCapacity
  reasoned := .fresh threads queueCapacity
  failures := by simp [System.fresh, List.countP_replicate, Thread.hasFailed]
  broken := by simp [System.fresh, List.countP_replicate, Thread.isBroken]

/-- A thread goes on. Its failure is counted before or after. -/
theorem failures_of_turn (counted : moves.countP Move.isFailure =
      system.failures + system.threads.countP Thread.hasFailed)
    {thread : Nat} {before after : Thread α} (found : system.threads[thread]? = some before)
    (threads : next.threads = system.threads.set thread after)
    (agrees : next.failures + after.hasFailed.toNat =
      system.failures + before.hasFailed.toNat + (move.isFailure).toNat) :
    (moves ++ [move]).countP Move.isFailure =
      next.failures + next.threads.countP Thread.hasFailed := by
  have turned := Counting.countP_set Thread.hasFailed system.threads thread before after found
  have made : [move].countP Move.isFailure = move.isFailure.toNat := by
    rw [Counting.countP_cons]
    exact Nat.zero_add _
  rw [List.countP_append, made, counted, threads]
  omega

/-- Every section counts the failures. -/
theorem failures_of_section (counted : moves.countP Move.isFailure =
      system.failures + system.threads.countP Thread.hasFailed)
    {result : System α × List Event} (made : Section system move result) :
    (moves ++ [move]).countP Move.isFailure =
      result.1.failures + result.1.threads.countP Thread.hasFailed := by
  cases made with
  | invoked | late | admitted | closedBefore | declared | missed | reached | counted
  | obstructed | sent | uncounted | parted | letGo =>
    simpa [List.countP_append, Move.isFailure, reply, setCall] using counted
  | started thread found | took thread _ _ _ found | stopped thread found
  | began thread _ _ found | recorded thread _ _ found | spilled thread _ _ found
  | lost thread found | abandoned thread found | returned thread _ _ found
  | failed thread _ _ failure found =>
    exact failures_of_turn counted found rfl
      (by simp [setThread, Thread.hasFailed, Move.isFailure])

/-- Every section leaves the pool in order. -/
theorem of_section (order : InOrder moves system events) {result : System α × List Event}
    (made : Section system move result) :
    InOrder (moves ++ [move]) result.1 (events ++ result.2) where
  answered := order.answered.of_section made
  flow := order.flow.of_section order.leaves.kept made
  faithful := order.faithful.of_section order.answered made
  shutting := order.shutting.of_section order.answered made
  leaves := order.leaves.of_section order.shutting made
  reasoned := order.reasoned.of_section order.shutting order.leaves made
  failures := failures_of_section order.failures made
  broken := by
    rw [broken_of_section made, ← order.broken, List.countP_append, Counting.countP_cons,
      List.countP_nil, Nat.zero_add]

/-- A run leaves the pool in order. -/
theorem of_play (order : InOrder moves system events) {later : List (Move α)}
    {result : System α × List Event} (run : system.play later = some result) :
    InOrder (moves ++ later) result.1 (events ++ result.2) :=
  play_induction InOrder (fun _ _ _ _ _ order made => order.of_section made) moves events order
    run

end InOrder

/-- The job has been begun and has ended, each once. -/
def Ran (events : List Event) (number : Nat) : Prop :=
  events.countP (·.begins number) = 1 ∧ events.countP (·.ends number) = 1

/-- The job has gone with the last thread. -/
def Lost (system : System α) (number : Nat) : Prop := number ∈ system.abandoned.map (·.1)

/-- The job never came into the queue, and no thread has or ever had it. -/
structure Untouched (system : System α) (events : List Event) (number : Nat) : Prop where
  unqueued : .queued number ∉ events
  unbegun : ∀ thread, .received thread number ∉ events ∧ .began thread number ∉ events
  nowhere : (system.queue.map (·.1)).count number = 0 ∧ ¬ system.Lost number ∧
    system.threads.countP (·.holds number) = 0 ∧ system.threads.countP (·.runs number) = 0

/-- The caller was refused, with grounds, and the job was left alone. -/
structure Refused (system : System α) (events : List Event) (number : Nat)
    (refusal : Executor.Refusal) : Prop where
  answered : events.filter (·.answers number) = [.returned number (.refused refusal)]
  grounds : system.Grounds refusal
  untouched : system.Untouched events number

/-- The job was accepted. -/
structure Accepted (system : System α) (events : List Event) (number : Nat) : Prop where
  answered : events.filter (·.answers number) = [.queued number, .returned number .done]
  /-- It waits in the queue, or lies with a thread that took it, or runs on one, or has
  ended, or has gone with the last thread: one of these, and once. -/
  placed : (system.queue.map (·.1)).count number + system.threads.countP (·.holds number) +
    system.threads.countP (·.runs number) + events.countP (·.ends number) +
    (system.abandoned.map (·.1)).count number = 1
  /-- It was begun once, unless it waits or was only just taken. -/
  begun : events.countP (·.begins number) =
    system.threads.countP (·.runs number) + events.countP (·.ends number)

/-- A job that came too late was refused because the pool is closed, or stands at the
entrance, where it will be refused for this. -/
def TurnedAway (system : System α) (events : List Event) (number : Nat) (job : α) : Prop :=
  (system.calls.get? number = some (.entering (.submit job)) ∧
      system.step (.proceed number) = some (system.reply number (.refused .closed)) ∧
      events.filter (·.answers number) = [] ∧ system.Untouched events number) ∨
    system.Refused events number .closed

/-- An answer to a call, or the queueing of its job, has happened. -/
theorem mem_of_answered {first : Event} {rest : List Event}
    (answered : events.filter (·.answers number) = first :: rest) : first ∈ events :=
  (List.mem_filter.mp (answered ▸ List.mem_cons_self)).1

/-- How often a job came into the queue is seen from the answers to its call. -/
theorem count_queued (events : List Event) (number : Nat) :
    (events.filterMap Event.queued?).count number =
      (events.filter (·.answers number)).countP (·.queues number) := by
  rw [List.count, List.countP_filterMap, List.countP_filter]
  refine List.countP_congr fun event _ => ?_
  cases event <;> simp [Event.queued?, Event.queues, Event.answers]

namespace Flow

/-- A job that came into the queue is in one place, as often as it came. -/
theorem placed (flow : system.Flow events) (number : Nat) :
    (system.queue.map (·.1)).count number + system.threads.countP (·.holds number) +
        system.threads.countP (·.runs number) + events.countP (·.ends number) +
        (system.abandoned.map (·.1)).count number =
      (events.filterMap Event.queued?).count number := by
  have taken := flow.taken number
  have begun := flow.begun number
  rw [← flow.order, List.map_append, List.count_append, List.count_append]
  omega

/-- A job that never came into the queue is nowhere. -/
theorem untouched (flow : system.Flow events)
    (none : (events.filterMap Event.queued?).count number = 0) :
    system.Untouched events number := by
  have placed := flow.placed number
  have taken := flow.taken number
  have begun := flow.begun number
  refine ⟨fun happened => ?_, fun thread => ⟨fun happened => ?_, fun happened => ?_⟩, ?_⟩
  · exact List.count_eq_zero.mp none (List.mem_filterMap.mpr ⟨_, happened, rfl⟩)
  · have some : 0 < (events.filterMap Event.taken?).count number :=
      List.count_pos_iff.mpr (List.mem_filterMap.mpr ⟨_, happened, rfl⟩)
    omega
  · have some : 0 < events.countP (·.begins number) :=
      List.countP_pos_iff.mpr ⟨_, happened, by simp [Event.begins]⟩
    omega
  · exact ⟨by omega, List.count_eq_zero.mp (by omega), by omega, by omega⟩

end Flow

/-- An accepted job that neither waits nor is with a thread has run, unless it has gone with
the last thread. -/
theorem Accepted.ran (accepted : system.Accepted events number) (empty : system.queue = [])
    (idle : ∀ p : Thread α → Bool, p .idle = false →
      (∀ stage : Thread α, stage.isOver = true → p stage = false) →
        system.threads.countP p = 0) :
    Ran events number ∨ system.Lost number := by
  have held : system.threads.countP (·.holds number) = 0 :=
    idle _ rfl fun stage => by cases stage <;> simp [Thread.isOver, Thread.holds]
  have running : system.threads.countP (·.runs number) = 0 :=
    idle _ rfl fun stage => by cases stage <;> simp [Thread.isOver, Thread.runs]
  have placed := accepted.placed
  have begun := accepted.begun
  rw [empty, List.map_nil, List.count_nil] at placed
  by_cases gone : system.Lost number
  · exact .inr gone
  · have none : (system.abandoned.map (·.1)).count number = 0 := List.count_eq_zero.mpr gone
    refine .inl ⟨?_, ?_⟩ <;> omega

/-- The job of a thread that is at its end has not failed just now. -/
theorem hasFailed_of_over (stage : Thread α) (ended : stage.isOver = true) :
    stage.hasFailed = false := by
  cases stage <;> first | rfl | cases ended

/-- A deserted pool stays so, and no section of it leaves a job in the queue. -/
theorem deserted_of_section (deserted : system.deserted = true)
    {result : System α × List Event} (made : Section system move result) :
    result.1.deserted = true ∧ ∀ number, .queued number ∉ result.2 := by
  have nobody {thread : Nat} {stage : Thread α} (found : system.threads[thread]? = some stage)
      (goesOn : stage.isOver = false) : False := by
    simp [deserted_eq_false (List.mem_of_getElem? found) goesOn] at deserted
  cases made with
  | started thread found | took thread _ _ _ found | stopped thread found
  | began thread _ _ found | recorded thread _ _ found | spilled thread _ _ found
  | lost thread found | abandoned thread found | returned thread _ _ found
  | failed thread _ _ _ found => exact (nobody found rfl).elim
  | sent call job found clear => simp [obstacle?, deserted] at clear
  | letGo => exact ⟨deserted, fun number => by split <;> simp⟩
  | _ => exact ⟨deserted, by simp [reply]⟩

namespace InOrder

variable (order : InOrder moves system events)
include order

/-- Every submitted job waits for its answer, or was refused, or was accepted. -/
theorem decided (asks : Asks moves number (.submit job)) :
    ((∃ stage, system.calls.get? number = some stage ∧ stage.Serves (.submit job)) ∧
        events.filter (·.answers number) = [] ∧ system.Untouched events number) ∨
      (∃ refusal, system.Refused events number refusal) ∨ system.Accepted events number := by
  obtain ⟨verdict, told⟩ := order.answered.told number _ asks
  have queued : (events.filterMap Event.queued?).count number =
      (verdict.history number).countP (·.queues number) := by
    rw [count_queued, told.history]
  cases verdict with
  | pending =>
    refine .inl ⟨?_, told.history, order.flow.untouched queued⟩
    cases found : system.calls.get? number with
    | none => exact absurd rfl (told.gone found)
    | some stage => exact ⟨stage, rfl, (told.call stage found).2⟩
  | refused refusal =>
    have answered : events.filter (·.answers number) = [.returned number (.refused refusal)] :=
      told.history
    exact .inr (.inl ⟨refusal, answered,
      order.reasoned.refused number refusal (mem_of_answered answered),
      order.flow.untouched queued⟩)
  | accepted =>
    refine .inr (.inr ⟨told.history, ?_, order.flow.begun number⟩)
    rw [order.flow.placed, queued]
    simp [Verdict.history, Event.queues]
  | closed => cases told.suits

/-- A job that came into the queue was submitted and accepted. -/
theorem accepted_of_queued (happened : .queued number ∈ events) :
    (∃ job, Asks moves number (.submit job)) ∧ system.Accepted events number := by
  have answers : .queued number ∈ events.filter (·.answers number) :=
    List.mem_filter.mpr ⟨happened, by simp [Event.answers]⟩
  have given : number < (requests moves).length := by
    rw [← order.answered.numbered]
    refine Nat.lt_of_not_le fun later => ?_
    simp [order.answered.silent number later] at answers
  cases asked : (requests moves)[number] with
  | submit job =>
    have asks : Asks moves number (.submit job) := by simp [Asks, ← asked]
    refine ⟨⟨job, asks⟩, ?_⟩
    rcases order.decided asks with ⟨-, unanswered, -⟩ | ⟨refusal, refused⟩ | accepted
    · simp [unanswered] at answers
    · simp [refused.answered] at answers
    · exact accepted
  | close =>
    have asks : Asks moves number .close := by simp [Asks, ← asked]
    obtain ⟨verdict, told⟩ := order.answered.told number _ asks
    rw [told.history] at answers
    cases verdict with
    | pending | closed => simp [Verdict.history] at answers
    | refused | accepted => cases told.suits

/-- As long as fewer failures have spilled than there are threads, one of these is left. -/
theorem attended (few : moves.countP Move.isSpill < system.threads.length) :
    system.Attended := by
  rw [order.broken] at few
  obtain ⟨thread, member, whole⟩ : ∃ thread ∈ system.threads, ¬ thread.isBroken = true := by
    by_contra none
    refine Nat.lt_irrefl _ (List.countP_eq_length.mpr (fun thread member => ?_) ▸ few)
    exact not_not.mp fun whole => none ⟨thread, member, whole⟩
  refine ⟨thread, member, fun lost => whole ?_⟩
  rw [lost]
  rfl

/-- Once a pool is deserted its queue is empty, and every job that it accepted has run or has
gone with the last thread. If a thread is left the pool is closed. -/
theorem finished (deserted : system.deserted = true) :
    system.queue = [] ∧ system.failures = moves.countP Move.isFailure ∧
      (∀ number, .queued number ∈ events → Ran events number ∨ system.Lost number) ∧
      (system.Attended → system.closed = true) := by
  have idle (p : Thread α → Bool) (_ : p .idle = false)
      (uncounted : ∀ stage : Thread α, stage.isOver = true → p stage = false) :
      system.threads.countP p = 0 :=
    List.countP_eq_zero.mpr fun thread member => by
      simp [uncounted thread (List.all_eq_true.mp deserted thread member)]
  have empty := order.leaves.deserted deserted
  have counted : system.threads.countP Thread.hasFailed = 0 := idle _ rfl hasFailed_of_over
  refine ⟨empty, by rw [order.failures, counted]; rfl, fun number happened => ?_,
    fun attended => ?_⟩
  · exact (order.accepted_of_queued happened).2.ran empty idle
  · apply Bool.of_not_eq_false
    intro opened
    have gone := (order.leaves.stopped (attended.stopped deserted)).1
    simp [order.shutting.opened opened] at gone

/-- At rest every submitted job was refused, or it has run or has gone with the last
thread. -/
theorem settled (rest : system.AtRest) (asks : Asks moves number (.submit job)) :
    (∃ refusal, system.Refused events number refusal) ∨
      system.Accepted events number ∧ (Ran events number ∨ system.Lost number) := by
  rcases order.decided asks with ⟨⟨stage, found, -⟩, -⟩ | refused | accepted
  · simp [rest.unused number] at found
  · exact .inl refused
  · exact .inr ⟨accepted, accepted.ran (rest.queue_eq_nil order.leaves)
      fun _ => rest.countP_eq_zero⟩

/-- Once a call has closed the pool, every later job is turned away. -/
theorem turnedAway {call : Nat} {answer : Answer} (closing : Asks moves call .close)
    (returned : .returned call answer ∈ events) {later : List (Move α)} {final : System α}
    {new : List Event} (run : system.play later = some (final, new))
    (begins : system.calls.next ≤ number) (asks : Asks (moves ++ later) number (.submit job)) :
    final.TurnedAway (events ++ new) number job := by
  have closed : system.closed = true :=
    order.shutting.closed_of_returned order.answered closing returned
  have turnsAway : TurnsAway system.calls.next final new :=
    play_induction (fun _ => TurnsAway system.calls.next)
      (fun _ _ _ _ _ turnsAway made => turnsAway.of_section made) [] [] (.start closed) run
  -- Nothing had happened to a call of this number before.
  have recent {event : Event} (answers : event.answers number = true)
      (happened : event ∈ events ++ new) : event ∈ new := by
    refine (List.mem_append.mp happened).resolve_left fun before => ?_
    exact absurd (List.filter_eq_nil_iff.mp (order.answered.silent number begins) _ before)
      (by simp [answers])
  rcases (order.of_play run).decided asks with
    ⟨⟨stage, found, serves⟩, unanswered, untouched⟩ | ⟨refusal, refused⟩ | accepted
  · obtain ⟨request, rfl⟩ := turnsAway.entering number stage begins found
    obtain rfl : request = .submit job := serves
    exact .inl ⟨found, by simp [step, found, proceed, enter, turnsAway.closed], unanswered,
      untouched⟩
  · have now := recent (by simp [Event.answers]) (mem_of_answered refused.answered)
    obtain rfl := turnsAway.refused number refusal begins now
    exact .inr refused
  · have now := recent (by simp [Event.answers]) (mem_of_answered accepted.answered)
    exact absurd now (turnsAway.unqueued number begins)

end InOrder

/-- The job of the only thread fails and spills while another one waits. -/
def lastThread : List (Move String) :=
  [.work 0, .invoke (.submit "first"), .proceed 0, .proceed 0, .proceed 0, .proceed 0, .work 0,
    .work 0, .invoke (.submit "second"), .proceed 1, .proceed 1, .proceed 1, .proceed 1,
    .finish 0 (.failed (.other true)), .work 0, .work 0]

/-- The other one is lost with the thread. -/
example : ((fresh 1 1 : System String).play lastThread).map (fun result =>
    (result.1.queue, result.1.abandoned, result.1.waiting, result.1.failures)) =
      some ([], [(1, "second")], 1, 1) := by
  decide

end System

end Standby.Pool
