import Standby.Proofs.Dispatcher.Origin
import Standby.Proofs.Dispatcher.Possession
import Standby.Proofs.Hosted.Submissions
import Standby.Proofs.Hosted.Tasks
import Standby.Proofs.Pool.Stock

/-!
# The places of tasks

A task of the dispatcher has a place while it lies in the slot of a worker or in the queue of the
pool, or is executed. It gets its place in the section that hands it over: when a worker has
accepted it, or when the pool has taken it. In the second case its call does not know of it at
once, and hears in a later section that its task was passed on. The place is given up when the
task ends. So every section does one of few things to the tasks and to those who wait to hear of
them.
-/

namespace Standby.Hosted

open Dispatcher (Task Answer)
open Executor (Refusal)

/-- The job is a task of this kind. -/
def Job.isTask (kind : Task → Bool) : Job → Bool
  | .task own => kind own
  | _ => false

/-- The call of the dispatcher that an event answers, and the answer. -/
def Event.reply? : Event → Option (Nat × Answer)
  | .dispatcher event => event.reply?
  | .pool _ => none

namespace System

/-- How many tasks of a kind have a place. -/
def places (kind : Task → Bool) (system : System) : Nat :=
  system.dispatcher.borne kind + system.pool.stock (Job.isTask kind)

/-- The pool has taken the task of a call, which has not heard so. -/
def isTaken (system : System) (call : Nat) : Bool :=
  system.dispatcher.calls.get? call == some .fallingBack &&
    system.submissions.lookup call == some (.answered none)

/-- Taken is the task of a call that falls back and was answered without a refusal. -/
theorem isTaken_iff {system : System} {call : Nat} : system.isTaken call = true ↔
    system.dispatcher.calls.get? call = some .fallingBack ∧
      system.submissions.lookup call = some (.answered none) := by
  simp [isTaken]

end System

/-- What a section does to the places of tasks, and whom the dispatcher answers. -/
inductive Conveys (system next : System) (move : Move) : List (Nat × Answer) → Prop where
  /-- Nothing changes. -/
  | quiet (goesOn : ∀ task, ¬ system.Releases task move)
      (places : ∀ kind, next.places kind = system.places kind)
      (taken : ∀ call, next.isTaken call = system.isTaken call) : Conveys system next move []
  /-- A call is answered, and its task gets no place by that. -/
  | answered (call : Nat) (stage : Dispatcher.Call) (answer : Answer)
      (found : system.dispatcher.calls.get? call = some stage)
      (gone : next.dispatcher.calls.get? call = none) (apart : answer ≠ .accepted)
      (passed : answer = .fallback ↔ system.isTaken call = true)
      (places : ∀ kind, next.places kind = system.places kind)
      (others : ∀ other, other ≠ call → next.isTaken other = system.isTaken other) :
    Conveys system next move [(call, answer)]
  /-- A worker has accepted the task of a call. -/
  | accepted (call : Nat) (stage : Dispatcher.Call)
      (found : system.dispatcher.calls.get? call = some stage)
      (untaken : system.isTaken call = false)
      (gone : next.dispatcher.calls.get? call = none)
      (places : ∀ kind, next.places kind = system.places kind + (kind call).toNat)
      (others : ∀ other, other ≠ call → next.isTaken other = system.isTaken other) :
    Conveys system next move [(call, .accepted)]
  /-- The pool has taken the task of a call. -/
  | taken (call : Nat) (found : system.dispatcher.calls.get? call = some .fallingBack)
      (goesOn : ∀ task, ¬ system.Releases task move)
      (untaken : system.isTaken call = false) (taken : next.isTaken call = true)
      (places : ∀ kind, next.places kind = system.places kind + (kind call).toNat)
      (others : ∀ other, other ≠ call → next.isTaken other = system.isTaken other) :
    Conveys system next move []
  /-- A task ends. -/
  | ended (task : Task) (releases : system.Releases task move)
      (places : ∀ kind, next.places kind + (kind task).toNat = system.places kind)
      (taken : ∀ call, next.isTaken call = system.isTaken call) : Conveys system next move []

end Standby.Hosted

namespace Standby.Dispatcher.System

variable {system : System} {move : Move} {result : System × List Event} {call : Nat}

/-- Only the executor's answer about a task is passed on to its call. -/
theorem passed_of_returned (made : Section system move result) {answer : Answer}
    (said : .returned call answer ∈ result.2) :
    (system.calls.get? call = some .fallingBack ∧ ∃ refusal, move = .answer call refusal ∧
      answer = (refusal.map Answer.refused).getD .fallback) ∨
      system.calls.get? call ≠ some .fallingBack ∧ answer ≠ .fallback := by
  obtain ⟨stage, found, answered⟩ := answered_of_returned made said
  cases answered with
  | passedOn => exact .inl ⟨found, none, move_of_event made said rfl, rfl⟩
  | refused refusal => exact .inl ⟨found, some refusal, move_of_event made said rfl, rfl⟩
  | restful stage asks | givenBack stage asks =>
    rcases asks with rfl | rfl <;> exact .inr ⟨by simp [found], by simp⟩
  | _ => exact .inr ⟨by simp [found], by simp⟩

/-- A call is told what it is answered. -/
theorem mem_replies_iff {events : List Event} {answer : Answer} :
    (call, answer) ∈ events.filterMap Event.reply? ↔ .returned call answer ∈ events := by
  rw [List.mem_filterMap]
  constructor
  · rintro ⟨event, member, same⟩
    cases event with
    | returned other own =>
      obtain ⟨rfl, rfl⟩ := by simpa [Event.reply?] using same
      exact member
    | _ => cases same
  · exact fun member => ⟨_, member, rfl⟩

/-- Which accepted tasks there are can be read from the answers. -/
theorem countP_gives (events : List Event) (kind : Task → Bool) :
    events.countP (·.gives kind) =
      (events.filterMap Event.reply?).countP fun reply => reply.2 = .accepted && kind reply.1 := by
  rw [List.countP_filterMap]
  refine List.countP_congr fun event _ => ?_
  cases event with
  | returned call answer => cases answer <;> simp [Event.gives, Event.reply?]
  | _ => simp [Event.gives, Event.reply?]

end Standby.Dispatcher.System

namespace Standby.Hosted.System

open Dispatcher (Task Answer)

variable {system : System} {capacity : Nat}

section Dispatcher

variable {move : Dispatcher.Move} {next : Dispatcher.System} {events : List Dispatcher.Event}
  {after : System} {call : Nat}

/-- A section that is made for another call leaves what a call knows of its task. -/
theorem isTaken_of_foreign
    (made : Dispatcher.Section system.dispatcher move (next, events))
    (foreign : move.isFor call = false) (dispatcher : after.dispatcher = next)
    (lookup : after.submissions.lookup call = system.submissions.lookup call) :
    after.isTaken call = system.isTaken call := by
  rw [isTaken, isTaken, lookup, dispatcher]
  rcases Dispatcher.System.get?_of_foreign made foreign with
    same | ⟨-, woken⟩ | ⟨begins, request, -, entering⟩
  · rw [same]
  · rw [woken]
    cases system.dispatcher.calls.get? call with
    | none => rfl
    | some stage => cases stage <;> rfl
  · -- Nothing is on record for a call that has not been made.
    have unmade : system.dispatcher.calls.get? call = none := by
      rw [begins]
      exact Register.get?_of_le _ (Nat.le_refl _)
    simp only at entering
    simp [entering, unmade]

/-- A call that moves and is told nothing has not submitted its task before. -/
theorem not_isTaken_of_own (agrees : system.poolAgrees move = true)
    (stepped : system.dispatcher.step move = some (next, events)) (own : move.isFor call = true)
    (silent : ∀ answer, .returned call answer ∉ events) : system.isTaken call = false := by
  refine Bool.eq_false_iff.mpr fun taken => ?_
  obtain ⟨found, waits⟩ := isTaken_iff.mp taken
  cases move with
  | proceed other =>
    obtain rfl := of_decide_eq_true own
    exact not_submits_of_proceed stepped ⟨_, found, .task⟩
  | answer other refusal =>
    obtain rfl := of_decide_eq_true own
    simp only [Dispatcher.System.step, found, Option.bind_some] at stepped
    cases refusal <;>
      · obtain ⟨-, rfl⟩ := Prod.mk.inj (Option.some.inj stepped)
        exact silent _ (List.mem_singleton.mpr rfl)
  | breakOff => cases agrees
  | _ => cases own

/-- What the dispatcher does to the tasks when it answers a call. The executor's answer about a task
is on record, and no other answer is about a submission. -/
theorem conveys_of_returned (made : Dispatcher.Section system.dispatcher move (next, events))
    (agrees : system.poolAgrees move = true) {stage : Dispatcher.Call} {answer : Answer}
    (happened : .returned call answer ∈ events)
    (found : system.dispatcher.calls.get? call = some stage)
    (gone : after.dispatcher.calls.get? call = none)
    (places : ∀ kind, after.places kind =
      system.places kind + (answer = .accepted && kind call).toNat)
    (others : ∀ other, other ≠ call → after.isTaken other = system.isTaken other) :
    Conveys system after (.dispatcher move) [(call, answer)] := by
  have unplaced (apart : answer ≠ .accepted) (kind : Task → Bool) :
      after.places kind = system.places kind := by
    rw [places]
    simp [apart]
  rcases Dispatcher.System.passed_of_returned made happened with
    ⟨falls, refusal, rfl, rfl⟩ | ⟨stands, unpassed⟩
  · have recorded : system.submissions.lookup call = some (.answered refusal) := by
      simp only [poolAgrees, Bool.and_eq_true, beq_iff_eq] at agrees
      exact agrees.1
    have apart : (refusal.map Answer.refused).getD .fallback ≠ .accepted := by
      cases refusal <;> simp
    refine .answered call stage _ found gone apart ?_ (unplaced apart) others
    cases refusal <;> simp [isTaken, falls, recorded]
  · have untaken : system.isTaken call = false := by simp [isTaken, stands]
    by_cases accepts : answer = .accepted
    · subst accepts
      refine .accepted call stage found untaken gone (fun kind => ?_) others
      rw [places]
      simp
    · exact .answered call stage answer found gone accepts (by simp [unpassed, untaken])
        (unplaced accepts) others

/-- What the dispatcher does to the tasks, as long as only the call for which it moves has another
submission on record afterwards, which the pool has not answered. -/
theorem conveys_of_dispatcher (order : Dispatcher.System.InOrder capacity system.dispatcher)
    (agrees : system.poolAgrees move = true)
    (stepped : system.dispatcher.step move = some (next, events))
    (dispatcher : after.dispatcher = next)
    (stock : ∀ kind, after.pool.stock kind = system.pool.stock kind)
    (others : ∀ call, move.isFor call = false →
      after.submissions.lookup call = system.submissions.lookup call)
    (own : ∀ call, move.isFor call = true → after.isTaken call = false) :
    Conveys system after (.dispatcher move) (events.filterMap Dispatcher.Event.reply?) := by
  have made := Dispatcher.System.section_of_step order.parkedReady stepped
  have balance (kind : Task → Bool) : after.places kind + events.countP (·.frees kind) =
      system.places kind + events.countP (·.gives kind) := by
    have borne : next.borne kind + events.countP (·.frees kind) =
        system.dispatcher.borne kind + events.countP (·.gives kind) :=
      Dispatcher.System.borne_of_section order made kind
    simp only [places, dispatcher, stock]
    omega
  have foreign {call : Nat} (away : move.isFor call = false) :
      after.isTaken call = system.isTaken call :=
    isTaken_of_foreign made away dispatcher (others call away)
  have unchanged (silent : ∀ call answer, .returned call answer ∉ events) (call : Nat) :
      after.isTaken call = system.isTaken call := by
    cases mine : move.isFor call with
    | false => exact foreign mine
    | true => rw [own call mine, not_isTaken_of_own agrees stepped mine (silent call)]
  by_cases ends : ∃ number task outcome, .ended number task outcome ∈ events
  · obtain ⟨number, task, outcome, ended⟩ := ends
    obtain rfl := Dispatcher.System.eq_finish_of_ended made ended
    cases made with
    | ended _ epoch idleTimeout slot task _ found =>
      refine .ended task (.worker number outcome ⟨_, found, rfl⟩) (fun kind => ?_)
        (unchanged (by simp))
      have freed := balance kind
      simpa [Counting.countP_cons, Dispatcher.Event.frees, Dispatcher.Event.gives] using freed
  · have kept (kind : Task → Bool) : events.countP (·.frees kind) = 0 := by
      refine List.countP_eq_zero.mpr fun event member frees => ?_
      cases event with
      | ended number task outcome => exact ends ⟨number, task, outcome, member⟩
      | _ => cases frees
    have goesOn (task : Task) : ¬ system.Releases task (.dispatcher move) := by
      intro releases
      cases releases
      cases made
      exact ends ⟨_, _, _, List.mem_singleton.mpr rfl⟩
    by_cases begins : ∃ request, move = .invoke request
    · obtain ⟨request, rfl⟩ := begins
      cases made
      refine .quiet goesOn (fun kind => ?_) (unchanged (by simp))
      simpa [Dispatcher.Event.frees, Dispatcher.Event.gives] using balance kind
    cases Dispatcher.System.exchange_of_section made fun request same => begins ⟨request, same⟩ with
    | goesOn calls silent =>
      rw [silent]
      refine .quiet goesOn (fun kind => ?_) (unchanged fun call answer said => ?_)
      · have given := balance kind
        rw [kept, Dispatcher.System.countP_gives, silent] at given
        exact given
      · have heard := Dispatcher.System.mem_replies_iff.mpr said
        rw [silent] at heard
        cases heard
    | answered call stage answer found gone _ said suits =>
      have happened : .returned call answer ∈ events :=
        Dispatcher.System.mem_replies_iff.mp (by simp [said])
      rw [said]
      have given (kind : Task → Bool) : after.places kind =
          system.places kind + (answer = .accepted && kind call).toNat := by
        have given := balance kind
        rw [kept, Dispatcher.System.countP_gives, said] at given
        simpa [Counting.countP_cons] using given
      have mine : move.isFor call = true := Dispatcher.System.isFor_of_returned made happened
      exact conveys_of_returned made agrees happened found (dispatcher ▸ gone) given
        fun other different => foreign (Bool.eq_false_iff.mpr fun also =>
          different (Dispatcher.Move.eq_of_isFor also mine))
    | brokenOff call stage loop? found has gone _ told =>
      have happened : .brokenOff call loop? ∈ events := by simp [show events = _ from told]
      exact absurd happened (not_brokenOff_of_agrees made agrees)

end Dispatcher

section Pool

variable {move : Pool.Move Job} {next : Pool.System Job} {events : List Pool.Event}

/-- What a call knows of its task stays while nobody hears from the pool. -/
theorem informed_of_silent (silent : ∀ number answer, .returned number answer ∉ events) :
    system.informed events = system.submissions := by
  unfold informed
  induction events generalizing system with
  | nil => rfl
  | cons event events inductionHypothesis =>
    have rest : ∀ number answer, .returned number answer ∉ events := fun number answer said =>
      silent number answer (List.mem_cons_of_mem event said)
    cases event with
    | returned number answer => exact absurd List.mem_cons_self (silent number answer)
    | _ => exact inductionHypothesis rest

/-- What the calls know of their tasks when the pool has answered one of its own. -/
theorem isTaken_of_answer {answer : Pool.Answer} {number call : Nat} :
    isTaken ⟨system.dispatcher, next,
        (system.noteAnswer (.returned number answer)).submissions⟩ call = true ↔
      system.isTaken call = true ∨
        system.dispatcher.calls.get? call = some .fallingBack ∧
          system.submissions.lookup call = some (.pending number) ∧ answer = .done := by
  rw [isTaken_iff, isTaken_iff, lookup_noteAnswer]
  cases recorded : system.submissions.lookup call with
  | none => simp
  | some submission =>
    cases submission with
    | answered refusal => simp [Submission.hears]
    | pending other =>
      by_cases same : other = number
      · cases answer <;> simp [Submission.hears, same, refusal?]
      · simp [Submission.hears, same]

/-- What the pool does to the tasks. -/
theorem conveys_of_pool (filed : system.Filed)
    (made : Pool.Section system.pool move (next, events)) :
    Conveys system ⟨system.dispatcher, next, system.informed events⟩ (.pool move) [] := by
  have places (kind : Task → Bool) (after : List (Nat × Submission))
      (given taken : Nat) (stock : next.stock (Job.isTask kind) + taken =
        system.pool.stock (Job.isTask kind) + given) :
      System.places kind ⟨system.dispatcher, next, after⟩ + taken =
        system.places kind + given := by
    simp only [System.places]
    omega
  cases Pool.System.stocks_of_section made with
  | silent _ _ goesOn quiet stock =>
    refine .quiet (fun task releases => ?_) (fun kind => places kind _ 0 0 (stock _)) fun call => ?_
    · cases releases
      exact goesOn _ _ rfl
    · rw [informed_of_silent quiet, isTaken, isTaken]
  | answered number answer closes stock =>
    refine .quiet nofun (fun kind => places kind _ 0 0 (stock _)) fun call => ?_
    refine Bool.eq_iff_iff.mpr (isTaken_of_answer.trans (or_iff_left ?_))
    rintro ⟨-, waits, rfl⟩
    obtain ⟨job, -, brings⟩ := filed.owner call _ waits
    obtain ⟨stage, found, serves⟩ := brings number rfl
    exact closes rfl stage job found serves
  | sent number job found stock =>
    obtain ⟨call, waits⟩ := filed.caller number job ⟨_, found, rfl⟩
    obtain ⟨owed, ⟨stage, stands, owes⟩, brings⟩ := filed.owner call _ waits
    -- The job that was sent is the one that the call has to submit.
    obtain rfl : owed = job := by
      obtain ⟨_, held, serves⟩ := brings number rfl
      obtain rfl := Option.some.inj (found.symm.trans held)
      exact Eq.symm serves
    have hears (other : Nat) : isTaken ⟨system.dispatcher, next,
          system.informed [.queued number, .returned number .done]⟩ other = true ↔
        system.isTaken other = true ∨ system.dispatcher.calls.get? other = some .fallingBack ∧
          system.submissions.lookup other = some (.pending number) ∧ Pool.Answer.done = .done := by
      have same : system.informed [.queued number, .returned number .done] =
          (system.noteAnswer (.returned number .done)).submissions := rfl
      rw [same]
      exact isTaken_of_answer
    cases owes with
    | loop fallsBack worker =>
      refine .quiet nofun (fun kind => places kind _ 0 0 (stock _)) fun other => ?_
      refine Bool.eq_iff_iff.mpr ((hears other).trans (or_iff_left ?_))
      rintro ⟨falls, also, -⟩
      obtain rfl := filed.alone call other number waits also
      cases stands.symm.trans falls
    | task =>
      refine .taken call stands nofun ?_ ((hears call).mpr (.inr ⟨stands, waits, rfl⟩))
        (fun kind => places kind _ _ 0 (stock _)) fun other different => ?_
      · simp [isTaken, waits]
      · refine Bool.eq_iff_iff.mpr ((hears other).trans (or_iff_left ?_))
        rintro ⟨-, also, -⟩
        exact different (filed.alone other call number also waits)
  | ended thread number job outcome found stock =>
    have quiet : system.informed [.ended thread number] = system.submissions := rfl
    rw [quiet]
    cases job with
    | task own =>
      exact .ended own (.thread thread outcome ⟨number, found⟩)
        (fun kind => places kind _ 0 _ (stock _)) fun _ => rfl
    | loop | other =>
      refine .quiet (fun task releases => ?_) (fun kind => places kind _ 0 0 (stock _)) fun _ => rfl
      cases releases with
      | thread _ _ has =>
        obtain ⟨other, runs⟩ := has
        cases found.symm.trans runs

end Pool

/-- Every section does one of these things to the tasks. -/
theorem conveys_of_recorded (filed : system.Filed)
    (order : Dispatcher.System.InOrder capacity system.dispatcher) {move : Move}
    {result : System × List Event} (made : Recorded system move result) :
    Conveys system result.1 move (result.2.filterMap Event.reply?) := by
  have told (events : List Dispatcher.Event) :
      (events.map Event.dispatcher).filterMap Event.reply? =
        events.filterMap Dispatcher.Event.reply? := by
    rw [List.filterMap_map]
    rfl
  have untold (events : List Pool.Event) : (events.map Event.pool).filterMap Event.reply? = [] := by
    rw [List.filterMap_map]
    exact List.filterMap_eq_nil_iff.mpr fun _ _ => rfl
  have foreign {move : Dispatcher.Move} {next : Dispatcher.System}
      {events : List Dispatcher.Event} (stepped : system.dispatcher.step move = some (next, events))
      {call : Nat} (away : move.isFor call = false) :
      (system.settled move).lookup call = system.submissions.lookup call := by
    rw [filed.lookup_settled stepped, away]
    rfl
  cases made with
  | dispatcher move next events agrees stepped nothing =>
    rw [told]
    refine conveys_of_dispatcher order agrees stepped rfl (fun _ => rfl)
      (fun call away => foreign stepped away) fun call own => ?_
    simp [isTaken, filed.lookup_settled stepped, own]
  | submitted move call job next events agrees stepped caller submits =>
    rw [List.filterMap_append, told, show [Event.pool _] = [_].map Event.pool from rfl, untold,
      List.append_nil]
    refine conveys_of_dispatcher order agrees stepped rfl (fun _ => rfl)
      (fun other away => ?_) fun other own => ?_
    · have different : other ≠ call := by
        rintro rfl
        cases (callOf?_eq_some_iff.mp caller).symm.trans away
      have apart : (other == call) = false := beq_eq_false_iff_ne.mpr different
      rw [List.lookup_cons, apart]
      exact foreign stepped away
    · have same : call = other := Option.some.inj (caller.symm.trans (callOf?_eq_some_iff.mpr own))
      simp [isTaken, same]
  | pool move next events agrees stepped =>
    rw [untold]
    exact conveys_of_pool filed (Pool.System.section_of_step stepped)

end Standby.Hosted.System
