import Standby.Proofs.Pool.Delivery

/-!
# The sections of a submitted job

What the call that submits a job does itself in a run. It is turned away at the entrance or
at the sending end, or it counts its job and tries to send it, once. What it finds there
decides: it leaves its job in the queue, or it takes back what it has counted and is refused.

Between the sections of one call anything else may happen, so its course is told in the
states before and after each of them, cut out of the run.
-/

namespace Standby.Pool

open Executor (Refusal)

variable {α : Type}

/-- The move is made for this call. -/
def Move.isFor (call : Nat) : Move α → Bool
  | .proceed other => other = call
  | _ => false

/-- What a call has counted that is not in the queue. -/
def Call.counted : Call α → Nat
  | .sending _ | .uncounting _ => 1
  | _ => 0

/-- One section of a run. -/
structure Span (α : Type) where
  before : System α
  after : System α

/-- What the section adds to the count. -/
def Span.change (span : Span α) : Int := span.after.waiting - span.before.waiting

/-- What sections add to the count together. -/
def Span.changes : List (Span α) → Int
  | [] => 0
  | span :: later => span.change + changes later

namespace System

/-- The sections of a run that are made for one call. -/
def spans (call : Nat) : System α → List (Move α) → List (Span α)
  | _, [] => []
  | system, move :: moves =>
    match system.step move with
    | none => []
    | some (next, _) =>
      if move.isFor call then ⟨system, next⟩ :: spans call next moves
      else spans call next moves

end System

/-- What a section of a call that submits a job leaves behind, and where it leads: to another
stage, or to the answer. -/
inductive Leads (system : System α) (call : Nat) :
    Call α → System α → Call α ⊕ Answer → Prop where
  | late (job : α) :
    Leads system call (.entering (.submit job)) (system.reply call (.refused .closed)).1
      (.inr (.refused .closed))
  | admitted (job : α) :
    Leads system call (.entering (.submit job)) (system.setCall call (.reaching job))
      (.inl (.reaching job))
  | missed (job : α) :
    Leads system call (.reaching job) (system.reply call (.refused .closed)).1
      (.inr (.refused .closed))
  | reached (job : α) :
    Leads system call (.reaching job) (system.setCall call (.counting job))
      (.inl (.counting job))
  | counted (job : α) :
    Leads system call (.counting job)
      ({ system with waiting := system.waiting + 1 }.setCall call (.sending job))
      (.inl (.sending job))
  | obstructed (job : α) (refusal : Refusal) (obstacle : system.obstacle? = some refusal) :
    Leads system call (.sending job) (system.setCall call (.uncounting refusal))
      (.inl (.uncounting refusal))
  | sent (job : α) (clear : system.obstacle? = none) :
    Leads system call (.sending job)
      ({ system with queue := system.queue ++ [(call, job)] }.reply call .done).1 (.inr .done)
  | uncounted (refusal : Refusal) :
    Leads system call (.uncounting refusal)
      ({ system with waiting := system.waiting - 1 }.reply call (.refused refusal)).1
      (.inr (.refused refusal))

/-- The sections of a call from a stage up to its answer. -/
inductive Course (call : Nat) (answer : Answer) : Call α → List (Span α) → Prop where
  | ends (system next : System α) (stage : Call α)
      (found : system.calls.get? call = some stage)
      (leads : Leads system call stage next (.inr answer)) :
    Course call answer stage [⟨system, next⟩]
  | goesOn (system next : System α) (stage later : Call α) (spans : List (Span α))
      (found : system.calls.get? call = some stage)
      (leads : Leads system call stage next (.inl later))
      (onward : Course call answer later spans) :
    Course call answer stage (⟨system, next⟩ :: spans)

namespace Leads

variable {system next : System α} {call : Nat} {stage later : Call α} {refusal : Refusal}

/-- As long as a call goes on it leaves the queue alone, and it answers for what it counts. -/
theorem goesOn (leads : Leads system call stage next (.inl later)) :
    next.queue = system.queue ∧
      next.waiting + stage.counted = system.waiting + later.counted := by
  cases leads <;> simp [System.setCall, Call.counted]

/-- A call that is refused leaves the queue alone and takes back what it has counted. -/
theorem refused (leads : Leads system call stage next (.inr (.refused refusal))) :
    next.queue = system.queue ∧ next.waiting + stage.counted = system.waiting := by
  cases leads <;> simp [System.reply, Call.counted]

end Leads

namespace Course

variable {call : Nat} {answer : Answer} {stage : Call α} {spans : List (Span α)}
  {refusal : Refusal}

end Course

namespace System

variable {system : System α} {move : Move α} {result : System α × List Event} {call : Nat}
  {stage : Call α} {job : α} {moves later : List (Move α)}

/-- A section that is made for another call, or for none, leaves a call alone, unless it begins
the call. -/
theorem get?_of_foreign (made : Section system move result) (foreign : move.isFor call = false)
    (begun : call ≠ system.calls.next) :
    result.1.calls.get? call = system.calls.get? call := by
  have apart {other : Nat} (foreign : (Move.proceed (α := α) other).isFor call = false) :
      call ≠ other := by
    simpa [Move.isFor, eq_comm] using foreign
  cases made with
  | invoked => simp [Register.get?_add, begun]
  | late | closedBefore | missed | sent | uncounted | parted =>
    simp [reply, Register.get?_remove, apart foreign]
  | admitted | declared | reached | counted | obstructed =>
    simp [setCall, Register.get?_put, apart foreign]
  | started | took | stopped | began | recorded | spilled | lost | abandoned | returned
  | failed | letGo => rfl

/-- Every request is given the next number. -/
theorem next_of_section (made : Section system move result) :
    result.1.calls.next = system.calls.next + move.request?.toList.length := by
  cases made <;> rfl

/-- No section is made for a call that is not there. -/
theorem isFor_of_absent (stepped : system.step move = some result)
    (absent : system.calls.get? call = none) : move.isFor call = false := by
  cases move with
  | proceed other =>
    apply decide_eq_false
    intro same
    simp [step, same, absent] at stepped
  | _ => rfl

/-- The sections of a call in a run begin with the first move, if that is made for it. -/
theorem spans_cons (stepped : system.step move = some result) :
    system.spans call (move :: moves) =
      if move.isFor call then ⟨system, result.1⟩ :: result.1.spans call moves
      else result.1.spans call moves := by
  simp [spans, stepped]

/-- A call that has returned makes no more sections. -/
theorem spans_of_returned (given : call < system.calls.next)
    (returned : system.calls.get? call = none) (run : system.play later = some result) :
    system.spans call later = [] := by
  induction later generalizing system result with
  | nil => rfl
  | cons move moves inductionHypothesis =>
    obtain ⟨first, last, stepped, played, rfl⟩ := play_cons_eq_some.mp run
    have foreign := isFor_of_absent stepped returned
    have made := section_of_step stepped
    have stays := get?_of_foreign made foreign (Nat.ne_of_lt given)
    have next := next_of_section made
    rw [spans_cons stepped, foreign]
    exact inductionHypothesis (by omega) (stays.trans returned) played

end System

end Standby.Pool
