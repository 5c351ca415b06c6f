import Standby.Hosted.System
import Standby.Proofs.Dispatcher.Order
import Standby.Proofs.Pool.Section

/-!
# Sections of a dispatcher over its pool

A move of the two is a move of one of them. The only section in which both move is the one
in which a call of the dispatcher calls the pool for the first time: it brings a worker
loop that it has just created, or its task. So each of the two goes through a run of its
own, and what is known of such runs is known here.
-/

namespace Standby.Hosted

/-- A call of the dispatcher at this stage has this job to submit. -/
inductive Owes (call : Nat) : Dispatcher.Call → Job → Prop where
  | loop (fallsBack : Bool) (worker : Dispatcher.WorkerId) :
    Owes call (.submitting fallsBack worker) (.loop worker)
  | task : Owes call .fallingBack (.task call)

/-- One section: the move that makes it, what it leaves behind and what happens. Which
submissions are on record afterwards is left open. -/
inductive Section (system : System) : Move → System × List Event → Prop where
  /-- Only the dispatcher moves. -/
  | dispatcher (move : Dispatcher.Move) (next : Dispatcher.System)
      (events : List Dispatcher.Event) (submissions : List (Nat × Submission))
      (agrees : system.poolAgrees move = true)
      (made : system.dispatcher.step move = some (next, events)) :
    Section system (.dispatcher move)
      (⟨next, system.pool, submissions⟩, events.map .dispatcher)
  /-- A call of the dispatcher moves and calls the pool. -/
  | submitted (move : Dispatcher.Move) (call : Nat) (stage : Dispatcher.Call) (job : Job)
      (next : Dispatcher.System) (events : List Dispatcher.Event) (pool : Pool.System Job)
      (later : List Pool.Event) (submissions : List (Nat × Submission))
      (agrees : system.poolAgrees move = true)
      (made : system.dispatcher.step move = some (next, events))
      (caller : System.callOf? move = some call) (found : next.calls.get? call = some stage)
      (owes : Owes call stage job)
      (invoked : system.pool.step (.invoke (.submit job)) = some (pool, later)) :
    Section system (.dispatcher move)
      (⟨next, pool, submissions⟩, events.map .dispatcher ++ later.map .pool)
  /-- Only the pool moves. -/
  | pool (move : Pool.Move Job) (next : Pool.System Job) (events : List Pool.Event)
      (submissions : List (Nat × Submission)) (agrees : system.dispatcherAgrees move = true)
      (made : system.pool.step move = some (next, events)) :
    Section system (.pool move) (⟨system.dispatcher, next, submissions⟩, events.map .pool)

namespace System

variable {system : System}

/-- A job to submit is owed by the call. -/
theorem owes_of_jobToSubmit {call : Nat} {job : Job}
    (submits : system.jobToSubmit? call = some job) :
    ∃ stage, system.dispatcher.calls.get? call = some stage ∧ Owes call stage job := by
  simp only [jobToSubmit?] at submits
  split at submits
  · cases submits
  · split at submits
    · rename_i fallsBack worker found
      obtain rfl := Option.some.inj submits
      exact ⟨_, found, .loop fallsBack worker⟩
    · rename_i found
      obtain rfl := Option.some.inj submits
      exact ⟨_, found, .task⟩
    · cases submits

/-- A call of the dispatcher calls the pool or leaves everything as it is. -/
theorem beginSubmission_cases (system : System) (call : Nat) :
    system.beginSubmission call = (system, []) ∨
      ∃ stage job pool later submissions, system.dispatcher.calls.get? call = some stage ∧
        Owes call stage job ∧
        system.pool.step (.invoke (.submit job)) = some (pool, later) ∧
        system.beginSubmission call =
          (⟨system.dispatcher, pool, submissions⟩, later.map .pool) := by
  unfold beginSubmission
  split
  · exact .inl rfl
  · rename_i job submits
    obtain ⟨stage, found, owes⟩ := owes_of_jobToSubmit submits
    split
    · exact .inl rfl
    · rename_i pool later invoked
      exact .inr ⟨stage, job, pool, later, _, found, owes, invoked, rfl⟩

/-- A call of the dispatcher that has moved submits what it owes. -/
theorem section_of_submission {move : Dispatcher.Move} {next : Dispatcher.System}
    {events : List Dispatcher.Event} {call : Nat} (agrees : system.poolAgrees move = true)
    (made : system.dispatcher.step move = some (next, events))
    (caller : callOf? move = some call) (settled : System)
    (dispatcher : settled.dispatcher = next) (pool : settled.pool = system.pool) :
    Section system (.dispatcher move) ((settled.beginSubmission call).1,
      events.map .dispatcher ++ (settled.beginSubmission call).2) := by
  subst dispatcher
  rcases settled.beginSubmission_cases call with
    nothing | ⟨stage, job, joined, later, submissions, found, owes, invoked, calls⟩
  · rw [nothing, List.append_nil]
    have quiet := Section.dispatcher move settled.dispatcher events settled.submissions agrees made
    rwa [← pool] at quiet
  · rw [calls]
    exact .submitted move call stage job settled.dispatcher events joined later submissions
      agrees made caller found owes (pool ▸ invoked)

/-- Noting answers changes the submissions only. -/
theorem foldl_noteAnswer (events : List Pool.Event) (system : System) :
    ∃ submissions, events.foldl noteAnswer system =
      ⟨system.dispatcher, system.pool, submissions⟩ := by
  induction events generalizing system with
  | nil => exact ⟨_, rfl⟩
  | cons event events inductionHypothesis =>
    obtain ⟨submissions, noted⟩ := inductionHypothesis (system.noteAnswer event)
    refine ⟨submissions, ?_⟩
    rw [List.foldl_cons, noted]
    cases event <;> rfl

/-- Every move is one of the sections. -/
theorem section_of_step {move : Move} {result : System × List Event}
    (made : system.step move = some result) : Section system move result := by
  cases move with
  | dispatcher move =>
    simp only [step, moveDispatcher] at made
    split at made
    · rename_i agrees
      obtain ⟨⟨next, events⟩, stepped, rfl⟩ := Option.map_eq_some_iff.mp made
      cases caller : callOf? move with
      | none => exact .dispatcher move next events system.submissions agrees stepped
      | some call =>
        -- Forgetting a submission changes neither the dispatcher nor the pool.
        exact section_of_submission agrees stepped caller _ (by cases move <;> rfl)
          (by cases move <;> rfl)
    · cases made
  | pool move =>
    simp only [step, movePool] at made
    split at made
    · rename_i agrees
      obtain ⟨⟨next, events⟩, stepped, rfl⟩ := Option.map_eq_some_iff.mp made
      obtain ⟨submissions, noted⟩ := foldl_noteAnswer events { system with pool := next }
      dsimp only
      rw [noted]
      exact .pool move next events submissions agrees stepped
    · cases made

/-- A run makes its moves one after the other. -/
theorem plays : Plays step play := ⟨fun _ => rfl, fun _ _ _ => rfl⟩

/-- A run is its first move and a run of what that leaves. -/
theorem play_cons_eq_some {move : Move} {moves : List Move} {result : System × List Event} :
    system.play (move :: moves) = some result ↔
      ∃ first last, system.step move = some first ∧ first.1.play moves = some last ∧
        (last.1, first.2 ++ last.2) = result :=
  plays.cons_eq_some_iff

/-- What every section of a run keeps, the whole run keeps. -/
theorem play_induction (invariant : System → List Event → Prop)
    (kept : ∀ system events move result, invariant system events →
      Section system move result → invariant result.1 (events ++ result.2))
    (events : List Event) (start : invariant system events) {moves : List Move}
    {result : System × List Event} (run : system.play moves = some result) :
    invariant result.1 (events ++ result.2) :=
  plays.run_induction (fun _ => invariant) (fun move _ _ system events result before made =>
    kept system events move result before (section_of_step made)) [] start run

end System

end Standby.Hosted
