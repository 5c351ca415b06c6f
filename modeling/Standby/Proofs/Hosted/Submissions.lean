import Standby.Proofs.Dispatcher.Passage
import Standby.Proofs.Hosted.Loops
import Standby.Proofs.Pool.Submission

/-!
# Submissions on record

A call of the dispatcher that has something to submit has exactly one submission on record: a
call of the pool that is on its way with its job, or the answer to it. No two of them share a
call of the pool, and every call of the pool that brings a job was made for one of them. So when
the pool answers, one call of the dispatcher is answered and no other.
-/

namespace Standby.Hosted

open Dispatcher (WorkerId)
open Executor (Refusal)

/-- The pool's answer to a submission: nothing, or a refusal. -/
def refusal? : Pool.Answer → Option Refusal
  | .done => none
  | .refused refusal => some refusal

/-- A submission hears what the pool answers to a call. -/
def Submission.hears (number : Nat) (answer : Pool.Answer) (submission : Submission) :
    Submission :=
  if submission = .pending number then .answered (refusal? answer) else submission

/-- A call of the dispatcher has this job to submit. -/
def Submits (dispatcher : Dispatcher.System) (call : Nat) (job : Job) : Prop :=
  ∃ stage, dispatcher.calls.get? call = some stage ∧ Owes call stage job

/-- A call of the pool is on its way with this job. -/
def Brings (pool : Pool.System Job) (number : Nat) (job : Job) : Prop :=
  ∃ stage, pool.calls.get? number = some stage ∧ stage.Serves (.submit job)

section Owed

variable {system : Dispatcher.System} {move : Dispatcher.Move}
  {result : Dispatcher.System × List Dispatcher.Event} {call : Nat} {job : Job}

/-- Whoever sleeps or wakes has nothing to submit. -/
theorem owes_wake {stage : Dispatcher.Call} : Owes call stage.wake job ↔ Owes call stage job := by
  cases stage with
  | sleeping => exact ⟨nofun, nofun⟩
  | _ => exact Iff.rfl

/-- A section that is made for another call does not change what a call has to submit. -/
theorem submits_of_foreign (made : Dispatcher.Section system move result)
    (foreign : move.isFor call = false) : Submits result.1 call job ↔ Submits system call job := by
  unfold Submits
  rcases Dispatcher.System.get?_of_foreign made foreign with
    same | ⟨-, woken⟩ | ⟨begins, request, -, entering⟩
  · rw [same]
  · rw [woken]
    constructor
    · rintro ⟨_, found, owes⟩
      obtain ⟨stage, held, rfl⟩ := Option.map_eq_some_iff.mp found
      exact ⟨stage, held, owes_wake.mp owes⟩
    · rintro ⟨stage, held, owes⟩
      exact ⟨stage.wake, by rw [held, Option.map_some], owes_wake.mpr owes⟩
  · rw [entering, begins, Register.get?_of_le _ (Nat.le_refl _)]
    constructor
    · rintro ⟨_, ⟨⟩, owes⟩
      cases owes
    · rintro ⟨_, absent, -⟩
      cases absent

/-- A call that goes on by itself has nothing to submit before. -/
theorem not_submits_of_proceed (stepped : system.step (.proceed call) = some result) :
    ¬ Submits system call job := by
  rintro ⟨stage, found, owes⟩
  cases owes <;> simp [Dispatcher.System.step, found, Dispatcher.System.proceed] at stepped

end Owed

namespace System

variable {system next : System}

/-- The record of submissions when the dispatcher has moved: an answered call has none. -/
def settled (system : System) : Dispatcher.Move → List (Nat × Submission)
  | .answer call _ | .breakOff call => system.submissions.filter (·.1 != call)
  | _ => system.submissions

/-- The record of submissions when the pool has moved. -/
def informed (system : System) (events : List Pool.Event) : List (Nat × Submission) :=
  (events.foldl noteAnswer system).submissions

/-- The pool with a call that brings a job. -/
def bringing (pool : Pool.System Job) (job : Job) : Pool.System Job :=
  { pool with calls := pool.calls.add (.entering (.submit job)) }

/-- The submissions that are on record belong to the calls that have something to submit. -/
structure Filed (system : System) : Prop where
  owner : ∀ call submission, system.submissions.lookup call = some submission →
    ∃ job, Submits system.dispatcher call job ∧
      ∀ number, submission = .pending number → Brings system.pool number job
  owed : ∀ call job, Submits system.dispatcher call job →
    ∃ submission, system.submissions.lookup call = some submission
  alone : ∀ call other number, system.submissions.lookup call = some (.pending number) →
    system.submissions.lookup other = some (.pending number) → call = other
  caller : ∀ number job, Brings system.pool number job →
    ∃ call, system.submissions.lookup call = some (.pending number)

end System

/-- One section with the submissions that are on record afterwards, as long as somebody holds the
pool. -/
inductive Recorded (system : System) : Move → System × List Event → Prop where
  /-- Only the dispatcher moves. -/
  | dispatcher (move : Dispatcher.Move) (next : Dispatcher.System)
      (events : List Dispatcher.Event) (agrees : system.poolAgrees move = true)
      (made : system.dispatcher.step move = some (next, events))
      (nothing : ∀ call, System.callOf? move = some call →
        System.jobToSubmit? ⟨next, system.pool, system.settled move⟩ call = none) :
    Recorded system (.dispatcher move)
      (⟨next, system.pool, system.settled move⟩, events.map .dispatcher)
  /-- A call of the dispatcher moves and calls the pool. -/
  | submitted (move : Dispatcher.Move) (call : Nat) (job : Job) (next : Dispatcher.System)
      (events : List Dispatcher.Event) (agrees : system.poolAgrees move = true)
      (made : system.dispatcher.step move = some (next, events))
      (caller : System.callOf? move = some call)
      (submits : System.jobToSubmit? ⟨next, system.pool, system.settled move⟩ call = some job) :
    Recorded system (.dispatcher move)
      (⟨next, System.bringing system.pool job,
          (call, .pending system.pool.calls.next) :: system.settled move⟩,
        events.map .dispatcher ++ [.pool (.invoked system.pool.calls.next)])
  /-- Only the pool moves. -/
  | pool (move : Pool.Move Job) (next : Pool.System Job) (events : List Pool.Event)
      (agrees : system.dispatcherAgrees move = true)
      (made : system.pool.step move = some (next, events)) :
    Recorded system (.pool move)
      (⟨system.dispatcher, next, system.informed events⟩, events.map .pool)

namespace System

variable {system next : System}

/-- Noting answers does not look at the pool. -/
theorem foldl_noteAnswer_pool (pool : Pool.System Job) (events : List Pool.Event)
    (system : System) :
    events.foldl noteAnswer { system with pool := pool } =
      ⟨system.dispatcher, pool, system.informed events⟩ := by
  unfold informed
  induction events generalizing system with
  | nil => rfl
  | cons event events inductionHypothesis =>
    cases event with
    | returned number answer =>
      exact inductionHypothesis (system.noteAnswer (.returned number answer))
    | _ => exact inductionHypothesis system

/-- A call of the dispatcher that has moved submits what is not on record. -/
theorem recorded_of_submission (held : system.pool.held = true) {move : Dispatcher.Move}
    {next : Dispatcher.System} {events : List Dispatcher.Event} {call : Nat}
    (agrees : system.poolAgrees move = true)
    (made : system.dispatcher.step move = some (next, events))
    (caller : callOf? move = some call) (moved : System)
    (same : moved = ⟨next, system.pool, system.settled move⟩) :
    Recorded system (.dispatcher move) ((moved.beginSubmission call).1,
      events.map .dispatcher ++ (moved.beginSubmission call).2) := by
  subst same
  unfold beginSubmission
  cases submits : jobToSubmit? ⟨next, system.pool, system.settled move⟩ call with
  | none =>
    have quiet := Recorded.dispatcher move next events agrees made fun other own => by
      rw [caller] at own
      rwa [← Option.some.inj own]
    simpa using quiet
  | some job =>
    have spoken := Recorded.submitted move call job next events agrees made caller submits
    simpa [Pool.System.step, held, bringing] using spoken

/-- Every move is one of the sections, and the record is kept. -/
theorem recorded_of_step (held : system.pool.held = true) {move : Move}
    {result : System × List Event} (made : system.step move = some result) :
    Recorded system move result := by
  cases move with
  | dispatcher move =>
    simp only [step, moveDispatcher] at made
    split at made
    · rename_i agrees
      obtain ⟨⟨next, events⟩, stepped, rfl⟩ := Option.map_eq_some_iff.mp made
      cases caller : callOf? move with
      | none =>
        have same : system.settled move = system.submissions := by
          cases move <;> first | rfl | cases caller
        have quiet := Recorded.dispatcher move next events agrees stepped (by simp [caller])
        rwa [same] at quiet
      | some call =>
        refine recorded_of_submission held agrees stepped caller _ ?_
        cases move <;> cases caller <;> rfl
    · cases made
  | pool move =>
    simp only [step, movePool] at made
    split at made
    · rename_i agrees
      obtain ⟨⟨next, events⟩, stepped, rfl⟩ := Option.map_eq_some_iff.mp made
      dsimp only
      rw [foldl_noteAnswer_pool]
      exact .pool move next events agrees stepped
    · cases made

/-- Whoever hears an answer is not pending any more, and the others stay. -/
theorem lookup_noteAnswer (system : System) (number : Nat) (answer : Pool.Answer) (call : Nat) :
    (system.noteAnswer (.returned number answer)).submissions.lookup call =
      (system.submissions.lookup call).map (Submission.hears number answer) := by
  rw [← Entries.lookup_map system.submissions fun _ => Submission.hears number answer]
  refine congrArg (List.lookup call) (List.map_congr_left fun entry _ => ?_)
  obtain ⟨own, submission⟩ := entry
  by_cases same : submission = .pending number
  · cases answer <;> simp [Submission.hears, same, refusal?]
  · simp [Submission.hears, same]

/-- A move that belongs to a call is made for it. -/
theorem callOf?_eq_some_iff {move : Dispatcher.Move} {call : Nat} :
    callOf? move = some call ↔ move.isFor call = true := by
  cases move <;> simp [callOf?, Dispatcher.Move.isFor]

/-- Without a submission on record, a call submits what it has to submit. -/
theorem jobToSubmit?_eq_some_iff {call : Nat} {job : Job}
    (absent : system.submissions.lookup call = none) :
    system.jobToSubmit? call = some job ↔ Submits system.dispatcher call job := by
  constructor
  · exact owes_of_jobToSubmit
  · rintro ⟨stage, found, owes⟩
    cases owes <;> simp [jobToSubmit?, absent, found]

/-- A call that has begun with its job brings it, and the others bring what they brought. -/
theorem brings_bringing_iff {pool : Pool.System Job} {job own : Job} {number : Nat} :
    Brings (bringing pool job) number own ↔
      number = pool.calls.next ∧ own = job ∨ Brings pool number own := by
  unfold Brings bringing
  rw [Register.get?_add]
  by_cases latest : number = pool.calls.next
  · simp [latest, Register.get?_of_le, Pool.Call.Serves, eq_comm]
  · simp [latest]

namespace Filed

/-- Nothing is on record at the beginning. -/
theorem fresh (capacity threads queueCapacity : Nat) (idleTimeout : Option Duration.Millis) :
    Filed (.fresh (.fresh capacity idleTimeout) (.fresh threads queueCapacity)) where
  owner _ _ found := by cases found
  owed call job := by
    rintro ⟨stage, found, -⟩
    cases found
  alone _ _ _ found := by cases found
  caller number job := by
    rintro ⟨stage, found, -⟩
    cases found

/-- What is on record when the dispatcher has moved. The call that has moved has nothing there. -/
theorem lookup_settled (filed : system.Filed) {move : Dispatcher.Move}
    {result : Dispatcher.System × List Dispatcher.Event}
    (stepped : system.dispatcher.step move = some result) (call : Nat) :
    (system.settled move).lookup call =
      if move.isFor call then none else system.submissions.lookup call := by
  cases move with
  | answer other | breakOff other =>
    refine (Entries.lookup_filter (· != other) system.submissions call).trans ?_
    by_cases same : call = other
    · simp [Dispatcher.Move.isFor, same]
    · simp [Dispatcher.Move.isFor, same, Ne.symm same]
  | proceed other =>
    by_cases same : other = call
    · subst same
      have nothing : system.submissions.lookup other = none := by
        refine Option.eq_none_iff_forall_ne_some.mpr fun submission found => ?_
        obtain ⟨job, submits, -⟩ := filed.owner other submission found
        exact not_submits_of_proceed stepped submits
      simp [settled, Dispatcher.Move.isFor, nothing]
    · simp [settled, Dispatcher.Move.isFor, same]
  | _ => rfl

/-- The dispatcher does not move for a call that waits for the pool. -/
theorem foreign_of_pending (filed : system.Filed) {move : Dispatcher.Move}
    {result : Dispatcher.System × List Dispatcher.Event}
    (agrees : system.poolAgrees move = true) (stepped : system.dispatcher.step move = some result)
    {call number : Nat} (waits : system.submissions.lookup call = some (.pending number)) :
    move.isFor call = false := by
  refine Bool.eq_false_iff.mpr fun own => ?_
  cases move with
  | proceed other =>
    obtain rfl := of_decide_eq_true own
    obtain ⟨job, submits, -⟩ := filed.owner other _ waits
    exact not_submits_of_proceed stepped submits
  | answer other refusal =>
    obtain rfl := of_decide_eq_true own
    simp [poolAgrees, waits] at agrees
  | breakOff => cases agrees
  | _ => cases own

section Dispatcher

variable {capacity : Nat} {move : Dispatcher.Move} {next : Dispatcher.System}
  {events : List Dispatcher.Event}

/-- What is on record when only the dispatcher has moved. -/
theorem of_dispatcher (filed : system.Filed)
    (order : Dispatcher.System.InOrder capacity system.dispatcher)
    (agrees : system.poolAgrees move = true)
    (stepped : system.dispatcher.step move = some (next, events))
    (nothing : ∀ call job, move.isFor call = true → ¬ Submits next call job) :
    Filed ⟨next, system.pool, system.settled move⟩ := by
  have made := Dispatcher.System.section_of_step order.parkedReady stepped
  have onRecord {call : Nat} {submission : Submission}
      (found : (system.settled move).lookup call = some submission) :
      move.isFor call = false ∧ system.submissions.lookup call = some submission := by
    rw [filed.lookup_settled stepped] at found
    cases own : move.isFor call with
    | true => simp [own] at found
    | false => exact ⟨rfl, by simpa [own] using found⟩
  have stays {call : Nat} {submission : Submission} (foreign : move.isFor call = false)
      (found : system.submissions.lookup call = some submission) :
      (system.settled move).lookup call = some submission := by
    simpa [filed.lookup_settled stepped, foreign] using found
  refine ⟨fun call submission found => ?_, fun call job submits => ?_,
    fun call other number found also => ?_, fun number job brings => ?_⟩
  · obtain ⟨foreign, held⟩ := onRecord found
    obtain ⟨job, submits, brings⟩ := filed.owner call submission held
    exact ⟨job, (submits_of_foreign made foreign).mpr submits, brings⟩
  · have foreign : move.isFor call = false :=
      Bool.eq_false_iff.mpr fun own => nothing call job own submits
    obtain ⟨submission, held⟩ := filed.owed call job ((submits_of_foreign made foreign).mp submits)
    exact ⟨submission, stays foreign held⟩
  · exact filed.alone call other number (onRecord found).2 (onRecord also).2
  · obtain ⟨call, held⟩ := filed.caller number job brings
    exact ⟨call, stays (filed.foreign_of_pending agrees stepped held) held⟩

/-- No submission waits for the next call of the pool. -/
theorem ne_pending_next (filed : system.Filed) (call : Nat) :
    system.submissions.lookup call ≠ some (.pending system.pool.calls.next) := by
  intro waits
  obtain ⟨_, -, brings⟩ := filed.owner call _ waits
  obtain ⟨stage, found, -⟩ := brings _ rfl
  rw [Register.get?_of_le _ (Nat.le_refl _)] at found
  cases found

/-- What is on record when a call has submitted. -/
theorem lookup_submitted (filed : system.Filed) {move : Dispatcher.Move}
    {result : Dispatcher.System × List Dispatcher.Event}
    (stepped : system.dispatcher.step move = some result) {call : Nat}
    (caller : move.isFor call = true) (other : Nat) :
    List.lookup other
      ((call, Submission.pending system.pool.calls.next) :: system.settled move) =
      if move.isFor other then some (.pending system.pool.calls.next)
      else system.submissions.lookup other := by
  by_cases same : other = call
  · simp [same, caller]
  · have foreign : ¬ move.isFor other = true := fun mine =>
      same (Dispatcher.Move.eq_of_isFor mine caller)
    rw [List.lookup_cons, beq_eq_false_iff_ne.mpr same, if_neg foreign]
    simp [filed.lookup_settled stepped, foreign]

/-- What is on record when a call of the dispatcher has moved and called the pool. -/
theorem of_submitted (filed : system.Filed)
    (order : Dispatcher.System.InOrder capacity system.dispatcher)
    (agrees : system.poolAgrees move = true)
    (stepped : system.dispatcher.step move = some (next, events)) {call : Nat} {job : Job}
    (caller : move.isFor call = true) (submits : Submits next call job) :
    Filed ⟨next, bringing system.pool job,
      (call, .pending system.pool.calls.next) :: system.settled move⟩ := by
  have made := Dispatcher.System.section_of_step order.parkedReady stepped
  have lookup := filed.lookup_submitted stepped caller
  -- Every submission on record is the new one, or stands from before and belongs to another call.
  have known {other : Nat} {submission : Submission}
      (found : List.lookup other ((call, Submission.pending system.pool.calls.next) ::
        system.settled move) = some submission) :
      other = call ∧ submission = .pending system.pool.calls.next ∨
        move.isFor other = false ∧ system.submissions.lookup other = some submission := by
    rw [lookup] at found
    split at found
    · rename_i mine
      exact .inl ⟨Dispatcher.Move.eq_of_isFor mine caller, (Option.some.inj found).symm⟩
    · rename_i foreign
      exact .inr ⟨Bool.eq_false_iff.mpr foreign, found⟩
  refine ⟨fun other submission found => ?_, fun other otherJob owed => ?_,
    fun first second number found also => ?_, fun number otherJob brings => ?_⟩
  · rcases known found with ⟨rfl, rfl⟩ | ⟨foreign, before⟩
    · refine ⟨job, submits, fun number same => ?_⟩
      obtain rfl := Submission.pending.inj same
      exact brings_bringing_iff.mpr (.inl ⟨rfl, rfl⟩)
    · obtain ⟨otherJob, owed, brings⟩ := filed.owner other submission before
      exact ⟨otherJob, (submits_of_foreign made foreign).mpr owed,
        fun number waits => brings_bringing_iff.mpr (.inr (brings number waits))⟩
  · rw [lookup]
    split
    · exact ⟨_, rfl⟩
    · rename_i foreign
      exact filed.owed other otherJob
        ((submits_of_foreign made (Bool.eq_false_iff.mpr foreign)).mp owed)
  · rcases known found with ⟨rfl, same⟩ | ⟨-, before⟩ <;>
      rcases known also with ⟨rfl, latest⟩ | ⟨-, beside⟩
    · rfl
    · exact absurd (same ▸ beside) (filed.ne_pending_next second)
    · exact absurd (latest ▸ before) (filed.ne_pending_next first)
    · exact filed.alone first second number before beside
  · rcases brings_bringing_iff.mp brings with ⟨rfl, -⟩ | before
    · exact ⟨call, by rw [lookup, if_pos caller]⟩
    · obtain ⟨other, waits⟩ := filed.caller number otherJob before
      refine ⟨other, ?_⟩
      rw [lookup, filed.foreign_of_pending agrees stepped waits]
      exact waits

end Dispatcher

section Pool

variable {next : Pool.System Job} {number : Nat}

/-- Nothing is answered, and every job stays on its way. -/
theorem of_silence (filed : system.Filed)
    (kept : ∀ number job, Brings system.pool number job → Brings next number job)
    (before : ∀ number job, Brings next number job → ∃ own, Brings system.pool number own) :
    Filed ⟨system.dispatcher, next, system.submissions⟩ where
  owner call submission found := by
    obtain ⟨job, submits, waits⟩ := filed.owner call submission found
    exact ⟨job, submits, fun number pending => kept number job (waits number pending)⟩
  owed := filed.owed
  alone := filed.alone
  caller number job on := by
    obtain ⟨own, brings⟩ := before number job on
    exact filed.caller number own brings

/-- The pool answers one call, and whoever waits for it hears the answer. -/
theorem of_answer (filed : system.Filed) (answer : Pool.Answer)
    (gone : ∀ job, ¬ Brings next number job)
    (others : ∀ other job, other ≠ number →
      (Brings next other job ↔ Brings system.pool other job)) :
    Filed ⟨system.dispatcher, next,
      (system.noteAnswer (.returned number answer)).submissions⟩ := by
  -- Who still waits has waited before, for another call.
  have waited {call other : Nat}
      (waits : (system.noteAnswer (.returned number answer)).submissions.lookup call =
        some (.pending other)) :
      other ≠ number ∧ system.submissions.lookup call = some (.pending other) := by
    rw [lookup_noteAnswer] at waits
    obtain ⟨before, held, hears⟩ := Option.map_eq_some_iff.mp waits
    unfold Submission.hears at hears
    split at hears
    · cases hears
    · rename_i apart
      subst hears
      exact ⟨fun same => apart (same ▸ rfl), held⟩
  refine ⟨fun call submission found => ?_, fun call job submits => ?_,
    fun call other own found also => ?_, fun other job brings => ?_⟩
  · have found' := found
    rw [lookup_noteAnswer] at found'
    obtain ⟨before, held, rfl⟩ := Option.map_eq_some_iff.mp found'
    obtain ⟨job, submits, brings⟩ := filed.owner call before held
    refine ⟨job, submits, fun own pending => ?_⟩
    obtain ⟨apart, waits⟩ := waited (pending ▸ found)
    exact (others own job apart).mpr
      (brings own (Option.some.inj (held.symm.trans waits)))
  · obtain ⟨submission, held⟩ := filed.owed call job submits
    exact ⟨_, by rw [lookup_noteAnswer, held, Option.map_some]⟩
  · exact filed.alone call other own (waited found).2 (waited also).2
  · have apart : other ≠ number := by
      rintro rfl
      exact gone job brings
    obtain ⟨call, waits⟩ := filed.caller other job ((others other job apart).mp brings)
    refine ⟨call, ?_⟩
    rw [lookup_noteAnswer, waits, Option.map_some, Submission.hears, if_neg]
    exact fun same => apart (Submission.pending.inj same)

/-- One call of the pool goes on and still serves what it served. -/
theorem of_put (filed : system.Filed) {stage later : Pool.Call Job}
    (found : system.pool.calls.get? number = some stage)
    (calls : next.calls = system.pool.calls.put number later)
    (serves : ∀ job, stage.Serves (.submit job) → later.Serves (.submit job))
    (served : ∀ job, later.Serves (.submit job) → ∃ own, stage.Serves (.submit own)) :
    Filed ⟨system.dispatcher, next, system.submissions⟩ := by
  have replaced := calls ▸ Register.replaced_put found later
  refine filed.of_silence (fun other job brings => ?_) fun other job brings => ?_
  · obtain ⟨before, held, serving⟩ := brings
    by_cases same : other = number
    · subst same
      obtain rfl := Option.some.inj (held.symm.trans found)
      exact ⟨later, replaced.own, serves job serving⟩
    · exact ⟨before, (replaced.others other same).trans held, serving⟩
  · obtain ⟨after, held, serving⟩ := brings
    by_cases same : other = number
    · subst same
      obtain rfl := Option.some.inj (held.symm.trans replaced.own)
      obtain ⟨own, before⟩ := served job serving
      exact ⟨own, stage, found, before⟩
    · exact ⟨job, after, (replaced.others other same).symm.trans held, serving⟩

/-- One call of the pool returns. -/
theorem of_remove (filed : system.Filed) (number : Nat) (answer : Pool.Answer)
    (calls : next.calls = system.pool.calls.remove number) :
    Filed ⟨system.dispatcher, next,
      (system.noteAnswer (.returned number answer)).submissions⟩ := by
  refine filed.of_answer answer ?_ fun other job apart => ?_
  · rintro job ⟨stage, found, -⟩
    simp [calls, Register.get?_remove] at found
  · simp [Brings, calls, Register.get?_remove, apart]

/-- What the pool leaves on record when it has moved, and nobody has brought a job to it. -/
theorem of_pool (filed : system.Filed) {move : Pool.Move Job} {events : List Pool.Event}
    (made : Pool.Section system.pool move (next, events))
    (own : ∀ job, move ≠ .invoke (.submit job)) :
    Filed ⟨system.dispatcher, next, system.informed events⟩ := by
  cases made with
  | invoked request =>
    cases request with
    | submit job => exact absurd rfl (own job)
    | close =>
      refine filed.of_silence (fun number job brings => ?_) fun number job brings => ?_
      · obtain ⟨stage, found, serves⟩ := brings
        refine ⟨stage, ?_, serves⟩
        rw [Register.get?_add, if_neg (Nat.ne_of_lt (Register.lt_of_get? found))]
        exact found
      · obtain ⟨stage, found, serves⟩ := brings
        rw [Register.get?_add] at found
        split at found
        · obtain rfl := Option.some.inj found
          cases serves
        · exact ⟨job, stage, found, serves⟩
  | late call job found | missed call job found =>
    exact filed.of_remove call (.refused .closed) rfl
  | closedBefore call found | sent call job found | parted call found =>
    exact filed.of_remove call .done rfl
  | uncounted call refusal found => exact filed.of_remove call (.refused refusal) rfl
  | admitted call job found =>
    exact filed.of_put found rfl (fun _ same => Pool.Request.submit.inj same)
      fun own same => ⟨own, congrArg Pool.Request.submit same⟩
  | reached call job found | counted call job found =>
    exact filed.of_put found rfl (fun _ => id) fun own serves => ⟨own, serves⟩
  | obstructed call job refusal found =>
    exact filed.of_put found rfl (fun _ _ => trivial) fun _ _ => ⟨job, rfl⟩
  | declared call found =>
    exact filed.of_put found rfl (fun _ serves => nomatch serves) fun _ serves => nomatch serves
  | started | took | stopped | began | recorded | spilled | lost | abandoned | returned
  | failed => exact filed.of_silence (fun _ _ => id) fun _ job brings => ⟨job, brings⟩
  | letGo =>
    have unsaid : system.informed (if system.pool.closed then [] else [.closing]) =
        system.submissions := by
      split <;> rfl
    rw [unsaid]
    exact filed.of_silence (fun _ _ => id) fun _ job brings => ⟨job, brings⟩

end Pool

/-- Every section keeps the record, as long as nobody else brings jobs to the pool. -/
theorem of_recorded (filed : system.Filed) {capacity : Nat}
    (order : Dispatcher.System.InOrder capacity system.dispatcher) {move : Move}
    {result : System × List Event} (made : Recorded system move result)
    (own : ∀ job, move ≠ .pool (.invoke (.submit job))) : result.1.Filed := by
  cases made with
  | dispatcher move next events agrees stepped nothing =>
    refine filed.of_dispatcher order agrees stepped fun call job mine submits => ?_
    have absent : (system.settled move).lookup call = none := by
      rw [filed.lookup_settled stepped, if_pos mine]
    have silent := nothing call (callOf?_eq_some_iff.mpr mine)
    rw [(jobToSubmit?_eq_some_iff absent).mpr submits] at silent
    cases silent
  | submitted move call job next events agrees stepped caller submits =>
    have mine := callOf?_eq_some_iff.mp caller
    have absent : (system.settled move).lookup call = none := by
      rw [filed.lookup_settled stepped, if_pos mine]
    exact filed.of_submitted order agrees stepped mine
      ((jobToSubmit?_eq_some_iff absent).mp submits)
  | pool move next events agrees stepped =>
    exact filed.of_pool (Pool.System.section_of_step stepped) fun job same =>
      own job (congrArg Move.pool same)

end Filed

end System

end Standby.Hosted
