import Standby.Pool.System
import Standby.Proofs.Run

/-!
# Sections of a pool

What one move of a pool can be: the sections of its calls and of its threads, each with
the condition under which it is reached, what it leaves behind and what happens. The
list is complete, so what every section keeps is kept by every run, and a proof about
runs looks into no program again.
-/

namespace Standby.Pool

open Executor (Refusal)

variable {α : Type}

/-- One section: the move that makes it, what it leaves behind and what happens. -/
inductive Section (system : System α) : Move α → System α × List Event → Prop where
  /-- A call begins. -/
  | invoked (request : Request α) (held : system.held = true) :
    Section system (.invoke request)
      ({ system with calls := system.calls.add (.entering request) },
        [.invoked system.calls.next])
  /-- A job comes to a pool that was declared closed. -/
  | late (call : Nat) (job : α)
      (found : system.calls.get? call = some (.entering (.submit job)))
      (closed : system.closed = true) :
    Section system (.proceed call) (system.reply call (.refused .closed))
  /-- A job comes to an open pool. -/
  | admitted (call : Nat) (job : α)
      (found : system.calls.get? call = some (.entering (.submit job)))
      (opened : system.closed = false) :
    Section system (.proceed call) (system.setCall call (.reaching job), [])
  /-- The pool was declared closed before. -/
  | closedBefore (call : Nat) (found : system.calls.get? call = some (.entering .close))
      (closed : system.closed = true) :
    Section system (.proceed call) (system.reply call .done)
  /-- The pool is declared closed. -/
  | declared (call : Nat) (found : system.calls.get? call = some (.entering .close))
      (opened : system.closed = false) :
    Section system (.proceed call)
      ({ system with closed := true }.setCall call .closing, [.closing])
  /-- The sending end has gone when a job reaches for it. -/
  | missed (call : Nat) (job : α) (found : system.calls.get? call = some (.reaching job))
      (free : system.senderFree = true) (gone : system.sender = false) :
    Section system (.proceed call) (system.reply call (.refused .closed))
  /-- A call gets hold of the sending end. -/
  | reached (call : Nat) (job : α) (found : system.calls.get? call = some (.reaching job))
      (free : system.senderFree = true) (there : system.sender = true) :
    Section system (.proceed call) (system.setCall call (.counting job), [])
  /-- A job is counted. -/
  | counted (call : Nat) (job : α) (found : system.calls.get? call = some (.counting job)) :
    Section system (.proceed call)
      ({ system with waiting := system.waiting + 1 }.setCall call (.sending job), [])
  /-- A counted job cannot be sent. -/
  | obstructed (call : Nat) (job : α) (refusal : Refusal)
      (found : system.calls.get? call = some (.sending job))
      (obstacle : system.obstacle? = some refusal) :
    Section system (.proceed call) (system.setCall call (.uncounting refusal), [])
  /-- A job is sent. -/
  | sent (call : Nat) (job : α) (found : system.calls.get? call = some (.sending job))
      (clear : system.obstacle? = none) :
    Section system (.proceed call)
      (({ system with queue := system.queue ++ [(call, job)] }.reply call .done).1,
        [.queued call, .returned call .done])
  /-- A job that could not be sent is uncounted. -/
  | uncounted (call : Nat) (refusal : Refusal)
      (found : system.calls.get? call = some (.uncounting refusal)) :
    Section system (.proceed call)
      ({ system with waiting := system.waiting - 1 }.reply call (.refused refusal))
  /-- The sending end is taken away. -/
  | parted (call : Nat) (found : system.calls.get? call = some .closing)
      (free : system.senderFree = true) :
    Section system (.proceed call) ({ system with sender := false }.reply call .done)
  /-- A thread begins. -/
  | started (thread : Nat) (found : system.threads[thread]? = some .created) :
    Section system (.work thread) (system.setThread thread .idle, [.threadStarted thread])
  /-- A thread takes the first job off the queue. -/
  | took (thread number : Nat) (job : α) (rest : List (Nat × α))
      (found : system.threads[thread]? = some .idle)
      (first : system.queue = (number, job) :: rest) :
    Section system (.work thread)
      ({ system with queue := rest }.setThread thread (.received number job),
        [.received thread number])
  /-- A thread stops, since no job can come any more. -/
  | stopped (thread : Nat) (found : system.threads[thread]? = some .idle)
      (empty : system.queue = []) (gone : system.sender = false) :
    Section system (.work thread) (system.setThread thread .stopped, [.threadStopped thread])
  /-- A thread begins its job. -/
  | began (thread number : Nat) (job : α)
      (found : system.threads[thread]? = some (.received number job)) :
    Section system (.work thread)
      ({ system with waiting := system.waiting - 1 }.setThread thread (.running number job),
        [.began thread number])
  /-- A failed job is counted, and what it left behind is disposed of quietly. -/
  | recorded (thread number : Nat) (failure : Failure)
      (found : system.threads[thread]? = some (.failed number failure))
      (quiet : failure.spills = false) :
    Section system (.work thread)
      ({ system with failures := system.failures + 1 }.setThread thread .idle,
        [.failed thread number failure.message])
  /-- A failed job is counted, and what it left behind spills. -/
  | spilled (thread number : Nat) (failure : Failure)
      (found : system.threads[thread]? = some (.failed number failure))
      (spills : failure.spills = true) :
    Section system (.work thread)
      ({ system with failures := system.failures + 1 }.setThread thread .collapsing,
        [.failed thread number failure.message])
  /-- A thread is brought down, and others are left. -/
  | lost (thread : Nat) (found : system.threads[thread]? = some .collapsing)
      (others : (system.setThread thread .lost).deserted = false) :
    Section system (.work thread) (system.setThread thread .lost, [.threadLost thread])
  /-- The last thread is brought down, and the queue goes with it. -/
  | abandoned (thread : Nat) (found : system.threads[thread]? = some .collapsing)
      (last : (system.setThread thread .lost).deserted = true) :
    Section system (.work thread)
      ({ system with queue := [], abandoned := system.abandoned ++ system.queue }.setThread thread
          .lost,
        [.threadLost thread])
  /-- A job returns. -/
  | returned (thread number : Nat) (job : α)
      (found : system.threads[thread]? = some (.running number job)) :
    Section system (.finish thread .returned)
      (system.setThread thread .idle, [.ended thread number])
  /-- A job fails. -/
  | failed (thread number : Nat) (job : α) (failure : Failure)
      (found : system.threads[thread]? = some (.running number job)) :
    Section system (.finish thread (.failed failure))
      (system.setThread thread (.failed number failure), [.ended thread number])
  /-- The last holder lets the pool go. -/
  | letGo (held : system.held = true) (unused : system.calls.isEmpty = true) :
    Section system .letGo
      ({ system with held := false, closed := true, sender := false },
        if system.closed then [] else [.closing])

namespace System

variable {system : System α}

/-- Every call enters in one section. -/
theorem section_of_enter (call : Nat) (request : Request α)
    (found : system.calls.get? call = some (.entering request)) :
    Section system (.proceed call) (system.enter call request) := by
  cases request with
  | submit job =>
    cases closed : system.closed with
    | true => simpa [enter, closed] using Section.late call job found closed
    | false => simpa [enter, closed] using Section.admitted call job found closed
  | close =>
    cases closed : system.closed with
    | true => simpa [enter, closed] using Section.closedBefore call found closed
    | false => simpa [enter, closed] using Section.declared call found closed

/-- A call goes on by itself in one section. -/
theorem section_of_proceed (call : Nat) (stage : Call α)
    (found : system.calls.get? call = some stage) {result : System α × List Event}
    (made : system.proceed call stage = some result) :
    Section system (.proceed call) result := by
  cases stage with
  | entering request =>
    obtain rfl := Option.some.inj made
    exact section_of_enter call request found
  | reaching job =>
    cases free : system.senderFree with
    | false => simp [proceed, free] at made
    | true =>
      cases there : system.sender with
      | true =>
        obtain rfl := by simpa [proceed, free, there] using made
        exact .reached call job found free there
      | false =>
        obtain rfl := by simpa [proceed, free, there] using made
        exact .missed call job found free there
  | counting job =>
    obtain rfl := Option.some.inj made
    exact .counted call job found
  | sending job =>
    cases obstacle : system.obstacle? with
    | some refusal =>
      obtain rfl := by simpa [proceed, obstacle] using made
      exact .obstructed call job refusal found obstacle
    | none =>
      obtain rfl := by simpa [proceed, obstacle] using made
      exact .sent call job found obstacle
  | uncounting refusal =>
    obtain rfl := Option.some.inj made
    exact .uncounted call refusal found
  | closing =>
    cases free : system.senderFree with
    | false => simp [proceed, free] at made
    | true =>
      obtain rfl := by simpa [proceed, free] using made
      exact .parted call found free

/-- A thread goes on by itself in one section. -/
theorem section_of_work (thread : Nat) (stage : Thread α)
    (found : system.threads[thread]? = some stage) {result : System α × List Event}
    (made : system.work thread stage = some result) :
    Section system (.work thread) result := by
  cases stage with
  | created =>
    obtain rfl := Option.some.inj made
    exact .started thread found
  | idle =>
    simp only [work, takeFirst] at made
    split at made
    · rename_i number job rest first
      obtain rfl := Option.some.inj made
      exact .took thread number job rest found first
    · rename_i empty
      split at made
      · cases made
      · rename_i gone
        obtain rfl := Option.some.inj made
        exact .stopped thread found empty (Bool.eq_false_iff.mpr gone)
  | received number job =>
    obtain rfl := Option.some.inj made
    exact .began thread number job found
  | failed number failure =>
    obtain rfl := Option.some.inj made
    cases spills : failure.spills with
    | false =>
      simpa [Thread.afterFailure, spills] using
        Section.recorded thread number failure found spills
    | true =>
      simpa [Thread.afterFailure, spills] using
        Section.spilled thread number failure found spills
  | collapsing =>
    obtain rfl := Option.some.inj made
    cases last : (system.setThread thread .lost).deserted with
    | false => simpa [desert, last] using Section.lost thread found last
    | true =>
      rw [desert, if_pos last]
      exact .abandoned thread found last
  | running number job => cases made
  | stopped => cases made
  | lost => cases made

/-- A job ends in one section. -/
theorem section_of_finish (thread : Nat) (outcome : Outcome) (stage : Thread α)
    (found : system.threads[thread]? = some stage) {result : System α × List Event}
    (made : system.finish thread outcome stage = some result) :
    Section system (.finish thread outcome) result := by
  cases stage with
  | running number job =>
    cases outcome with
    | returned =>
      obtain rfl := Option.some.inj made
      exact .returned thread number job found
    | failed failure =>
      obtain rfl := Option.some.inj made
      exact .failed thread number job failure found
  | _ => cases made

/-- Every move is one of the sections. -/
theorem section_of_step {move : Move α} {result : System α × List Event}
    (made : system.step move = some result) : Section system move result := by
  cases move with
  | invoke request =>
    simp only [step] at made
    split at made
    · rename_i held
      obtain rfl := Option.some.inj made
      exact .invoked request held
    · cases made
  | proceed call =>
    obtain ⟨stage, found, made⟩ := Option.bind_eq_some_iff.mp made
    exact section_of_proceed call stage found made
  | work thread =>
    obtain ⟨stage, found, made⟩ := Option.bind_eq_some_iff.mp made
    exact section_of_work thread stage found made
  | finish thread outcome =>
    obtain ⟨stage, found, made⟩ := Option.bind_eq_some_iff.mp made
    exact section_of_finish thread outcome stage found made
  | letGo =>
    simp only [step] at made
    split at made
    · rename_i allowed
      obtain rfl := Option.some.inj made
      obtain ⟨held, unused⟩ := Bool.and_eq_true_iff.mp allowed
      exact .letGo held unused
    · cases made

/-- A run makes its moves one after the other. -/
theorem plays : Plays (@step α) play := ⟨fun _ => rfl, fun _ _ _ => rfl⟩

/-- A run is its first move and a run of what that leaves. -/
theorem play_cons_eq_some {move : Move α} {moves : List (Move α)}
    {result : System α × List Event} :
    system.play (move :: moves) = some result ↔
      ∃ first last, system.step move = some first ∧ first.1.play moves = some last ∧
        (last.1, first.2 ++ last.2) = result :=
  plays.cons_eq_some_iff

/-- What every section of a run keeps, the whole run keeps. The property may speak of the
moves that were made and of what has happened so far. -/
theorem play_induction (invariant : List (Move α) → System α → List Event → Prop)
    (kept : ∀ made system events move result, invariant made system events →
      Section system move result → invariant (made ++ [move]) result.1 (events ++ result.2))
    (before : List (Move α)) (events : List Event) (start : invariant before system events)
    {moves : List (Move α)} {result : System α × List Event}
    (run : system.play moves = some result) :
    invariant (before ++ moves) result.1 (events ++ result.2) :=
  plays.run_induction invariant (fun move _ made system events result before stepped =>
    kept made system events move result before (section_of_step stepped)) before start run

end System

end Standby.Pool
