import Standby.Proofs.Pool.Section
import Standby.Proofs.Register

/-!
# The books of a pool

What every run of a pool keeps about its calls and jobs. Each call is on its way or has
been answered once, in one of the ways that suit what it asked. The jobs are taken in the
order in which they were queued, and each of them is in one place: it waits in the queue,
or lies with the thread that has taken it, or runs there, or has ended, or it has gone with
the last thread. What a thread runs under a number is the job that the call of this number
brought.

Once the sending end has gone no call gets hold of it again, and a thread that has stopped
leaves an empty queue behind, into which nothing can come.
-/

namespace Standby.Pool

open Executor (Refusal)

variable {α : Type}

/-- The request that a move makes. -/
def Move.request? : Move α → Option (Request α)
  | .invoke request => some request
  | _ => none

/-- The job that a thread runs fails. -/
def Move.isFailure : Move α → Bool
  | .finish _ (.failed _) => true
  | _ => false

/-- The job that a thread runs fails, and what it leaves behind spills. -/
def Move.isSpill : Move α → Bool
  | .finish _ (.failed failure) => failure.spills
  | _ => false

/-- The requests of a run, in the order of their calls. -/
def requests (moves : List (Move α)) : List (Request α) := moves.filterMap Move.request?

/-- The call of this number was made with this request. -/
def Asks (moves : List (Move α)) (number : Nat) (request : Request α) : Prop :=
  (requests moves)[number]? = some request

section Requests

variable {moves : List (Move α)} {move : Move α} {number : Nat} {request : Request α}

/-- A further move makes one more request at most. -/
theorem requests_concat (moves : List (Move α)) (move : Move α) :
    requests (moves ++ [move]) = requests moves ++ move.request?.toList := by
  cases asks : move.request? <;> simp [requests, asks]

/-- A move that is no call asks nothing. -/
theorem asks_concat_of_none (none : move.request? = none) :
    Asks (moves ++ [move]) number request ↔ Asks moves number request := by
  rw [Asks, requests_concat, none]
  simp [Asks]

/-- A call asks under the next number. -/
theorem asks_invoke {asked : Request α} :
    Asks (moves ++ [.invoke asked]) number request ↔
      if number = (requests moves).length then asked = request
      else Asks moves number request := by
  rw [Asks, requests_concat, Move.request?, Option.toList_some, Counting.getElem?_concat]
  split
  · simp
  · rfl

/-- What was asked stays asked. -/
theorem Asks.later (asks : Asks moves number request) (move : Move α) :
    Asks (moves ++ [move]) number request := by
  rw [Asks, requests_concat]
  exact List.getElem?_append_left (List.getElem?_eq_some_iff.mp asks).1 ▸ asks

end Requests

namespace Event

/-- The job that comes into the queue. -/
def queued? : Event → Option Nat
  | .queued number => some number
  | _ => none

/-- The job that leaves the queue. -/
def taken? : Event → Option Nat
  | .received _ number => some number
  | _ => none

/-- The job is begun. -/
def begins (number : Nat) (event : Event) : Bool :=
  match event with
  | .began _ other => other = number
  | _ => false

/-- The job comes to its end. -/
def ends (number : Nat) (event : Event) : Bool :=
  match event with
  | .ended _ other => other = number
  | _ => false

/-- The call is answered, or its job is queued. -/
def answers (number : Nat) (event : Event) : Bool :=
  match event with
  | .queued other | .returned other _ => other = number
  | _ => false

end Event

namespace Thread

/-- The thread has taken the job and not begun it. -/
def holds (number : Nat) (thread : Thread α) : Bool :=
  match thread with
  | .received other _ => other = number
  | _ => false

/-- The thread runs the job. -/
def runs (number : Nat) (thread : Thread α) : Bool :=
  match thread with
  | .running other _ => other = number
  | _ => false

/-- The job of the thread has failed and is not counted yet. -/
def hasFailed : Thread α → Bool
  | .failed _ _ => true
  | _ => false

/-- The thread was brought down, or is bound to be. -/
def isBroken : Thread α → Bool
  | .failed _ failure => failure.spills
  | .collapsing | .lost => true
  | _ => false

/-- The job that the thread has, with its number. -/
def job? : Thread α → Option (Nat × α)
  | .received number job | .running number job => some (number, job)
  | _ => none

end Thread

/-- A call at this stage can have been made with this request. -/
def Call.Serves : Call α → Request α → Prop
  | .entering own, request => own = request
  | .reaching own, .submit job | .counting own, .submit job | .sending own, .submit job =>
    own = job
  | .uncounting _, .submit _ | .closing, .close => True
  | _, _ => False

/-- What has become of a call. -/
inductive Verdict where
  /-- It has not been answered. -/
  | pending
  | refused (refusal : Refusal)
  /-- Its job was queued. -/
  | accepted
  /-- It has closed the pool, or found it closed. -/
  | closed

namespace Verdict

/-- All answers to a call, and the queueing of its job. -/
def history (number : Nat) : Verdict → List Event
  | .pending => []
  | .refused refusal => [.returned number (.refused refusal)]
  | .accepted => [.queued number, .returned number .done]
  | .closed => [.returned number .done]

/-- This can become of a call with this request. -/
def Suits : Verdict → Request α → Prop
  | .pending, _ | .refused _, .submit _ | .accepted, .submit _ | .closed, .close => True
  | _, _ => False

end Verdict

namespace System

variable {system next : System α} {moves : List (Move α)} {move : Move α}
  {events new : List Event}

/-- What has become of a call agrees with what has happened and with the calls that are on
their way. -/
structure Told (system : System α) (events : List Event) (number : Nat) (request : Request α)
    (verdict : Verdict) : Prop where
  history : events.filter (·.answers number) = verdict.history number
  suits : verdict.Suits request
  call : ∀ stage, system.calls.get? number = some stage →
    verdict = .pending ∧ stage.Serves request
  gone : system.calls.get? number = none → verdict ≠ .pending

/-- Every call is on its way or has been answered. -/
structure Answered (moves : List (Move α)) (system : System α) (events : List Event) :
    Prop where
  numbered : system.calls.next = (requests moves).length
  told : ∀ number request, Asks moves number request →
    ∃ verdict, system.Told events number request verdict
  silent : ∀ number, system.calls.next ≤ number → events.filter (·.answers number) = []

namespace Answered

/-- A new pool has no calls. -/
theorem fresh (threads queueCapacity : Nat) :
    Answered [] (System.fresh threads queueCapacity : System α) [] where
  numbered := rfl
  told _ _ asks := by cases asks
  silent _ _ := rfl

/-- What a call on its way has asked. -/
theorem exists_asks (answered : Answered moves system events) {number : Nat} {stage : Call α}
    (found : system.calls.get? number = some stage) :
    ∃ request, Asks moves number request ∧ stage.Serves request := by
  have given : number < (requests moves).length := by
    rw [← answered.numbered]
    exact Nat.lt_of_not_le fun later => by simp [system.calls.get?_of_le later] at found
  have asks : Asks moves number (requests moves)[number] := List.getElem?_eq_getElem given
  obtain ⟨verdict, told⟩ := answered.told number _ asks
  exact ⟨_, asks, (told.call stage found).2⟩

/-- A call that sends a job was made to submit it. -/
theorem asks_of_sending (answered : Answered moves system events) {number : Nat} {job : α}
    (found : system.calls.get? number = some (.sending job)) :
    Asks moves number (.submit job) := by
  obtain ⟨request, asks, serves⟩ := answered.exists_asks found
  cases request with
  | submit own =>
    obtain rfl : job = own := serves
    exact asks
  | close => cases serves

/-- Nothing is answered, and the calls on their way go on with what they asked. -/
theorem keep (answered : Answered moves system events) (none : move.request? = none)
    (numbers : next.calls.next = system.calls.next)
    (calls : ∀ number later, next.calls.get? number = some later →
      ∃ stage, system.calls.get? number = some stage ∧
        ∀ request, stage.Serves request → later.Serves request)
    (gone : ∀ number, next.calls.get? number = .none → system.calls.get? number = .none)
    (quiet : ∀ event ∈ new, ∀ number, event.answers number = false) :
    Answered (moves ++ [move]) next (events ++ new) := by
  have silent (number : Nat) :
      (events ++ new).filter (·.answers number) = events.filter (·.answers number) := by
    rw [List.filter_append, List.append_right_eq_self, List.filter_eq_nil_iff]
    intro event member
    simp [quiet event member number]
  refine ⟨?_, fun number request asks => ?_, fun number later => ?_⟩
  · rw [numbers, answered.numbered, requests_concat, none]
    simp
  · obtain ⟨verdict, told⟩ :=
      answered.told number request ((asks_concat_of_none none).mp asks)
    refine ⟨verdict, silent number ▸ told.history, told.suits, fun later found => ?_, fun absent =>
      told.gone (gone number absent)⟩
    obtain ⟨stage, before, serves⟩ := calls number later found
    obtain ⟨pending, served⟩ := told.call stage before
    exact ⟨pending, serves request served⟩
  · rw [silent]
    exact answered.silent number (numbers ▸ later)

/-- Nothing is answered when only the threads go on. -/
theorem keep_calls (answered : Answered moves system events) (none : move.request? = none)
    (calls : next.calls = system.calls)
    (quiet : ∀ event ∈ new, ∀ number, event.answers number = false) :
    Answered (moves ++ [move]) next (events ++ new) :=
  answered.keep none (by rw [calls])
    (fun _ later found => ⟨later, calls ▸ found, fun _ serves => serves⟩)
    (fun _ absent => calls ▸ absent) quiet

/-- One call goes on with what it asked. -/
theorem put (answered : Answered moves system events) (none : move.request? = none)
    {call : Nat} {stage later : Call α} (found : system.calls.get? call = some stage)
    (calls : next.calls = system.calls.put call later)
    (serves : ∀ request, stage.Serves request → later.Serves request)
    (quiet : ∀ event ∈ new, ∀ number, event.answers number = false) :
    Answered (moves ++ [move]) next (events ++ new) := by
  refine answered.keep none (by rw [calls]; rfl) (fun number after held => ?_)
    (fun number absent => ?_) quiet
  · rw [calls, Register.get?_put] at held
    split at held
    · rename_i same
      subst same
      obtain ⟨_, _, rfl⟩ := Option.map_eq_some_iff.mp held
      exact ⟨stage, found, serves⟩
    · exact ⟨after, held, fun _ serves => serves⟩
  · rw [calls, Register.get?_put] at absent
    split at absent
    · simp [found] at absent
    · exact absent

/-- One call is answered. -/
theorem settle (answered : Answered moves system events) (none : move.request? = none)
    {call : Nat} {stage : Call α} (found : system.calls.get? call = some stage)
    (calls : next.calls = system.calls.remove call) (verdict : Verdict)
    (decided : verdict ≠ .pending)
    (suits : ∀ request, stage.Serves request → verdict.Suits request)
    (history : new.filter (·.answers call) = verdict.history call)
    (others : ∀ number, number ≠ call → new.filter (·.answers number) = []) :
    Answered (moves ++ [move]) next (events ++ new) := by
  refine ⟨?_, fun number request asks => ?_, fun number later => ?_⟩
  · rw [calls, requests_concat, none, Option.toList_none, List.append_nil]
    exact answered.numbered
  · obtain ⟨before, told⟩ :=
      answered.told number request ((asks_concat_of_none none).mp asks)
    by_cases here : number = call
    · subst here
      obtain ⟨rfl, serves⟩ := told.call stage found
      refine ⟨verdict, ?_, suits request serves, fun after held => ?_, fun _ => decided⟩
      · rw [List.filter_append, told.history, history]
        rfl
      · simp [calls, Register.get?_remove] at held
    · refine ⟨before, ?_, told.suits, fun after held => ?_, fun absent => ?_⟩
      · rw [List.filter_append, told.history, others number here, List.append_nil]
      · rw [calls, Register.get?_remove, if_neg here] at held
        exact told.call after held
      · rw [calls, Register.get?_remove, if_neg here] at absent
        exact told.gone absent
  · have beyond : system.calls.next ≤ number := by
      rw [calls] at later
      exact later
    have different : number ≠ call := by
      rintro rfl
      simp [system.calls.get?_of_le beyond] at found
    rw [List.filter_append, answered.silent number beyond, others number different]
    rfl

/-- A call returns with one answer. -/
theorem reply (answered : Answered moves system events) (none : move.request? = none)
    {call : Nat} {stage : Call α} (found : system.calls.get? call = some stage)
    (calls : next.calls = system.calls) (answer : Answer) (verdict : Verdict)
    (decided : verdict ≠ .pending)
    (suits : ∀ request, stage.Serves request → verdict.Suits request)
    (history : [.returned call answer] = verdict.history call) :
    Answered (moves ++ [move]) (next.reply call answer).1
      (events ++ (next.reply call answer).2) :=
  answered.settle none found (by rw [← calls]; rfl) verdict decided suits
    (by rw [← history]; simp [System.reply, Event.answers])
    fun _ different => by simp [System.reply, Event.answers, different.symm]

/-- A call begins. -/
theorem invoke (answered : Answered moves system events) (request : Request α) :
    Answered (moves ++ [.invoke request])
      { system with calls := system.calls.add (.entering request) }
      (events ++ [.invoked system.calls.next]) := by
  have silent (number : Nat) : (events ++ [Event.invoked system.calls.next]).filter
      (·.answers number) = events.filter (·.answers number) := by
    simp [Event.answers]
  refine ⟨?_, fun number asked asks => ?_, fun number later => ?_⟩
  · rw [requests_concat, List.length_append]
    exact congrArg (· + 1) answered.numbered
  · rw [asks_invoke, ← answered.numbered] at asks
    split at asks
    · rename_i newest
      subst newest asks
      refine ⟨.pending, ?_, trivial, fun stage held => ⟨rfl, ?_⟩, fun absent => ?_⟩
      · rw [silent, answered.silent _ (Nat.le_refl _)]
        rfl
      · obtain rfl := by simpa [Register.get?_add] using held
        exact rfl
      · simp [Register.get?_add] at absent
    · rename_i older
      obtain ⟨verdict, told⟩ := answered.told number asked asks
      refine ⟨verdict, silent number ▸ told.history, told.suits, fun stage held => ?_,
        fun absent => ?_⟩
      · rw [Register.get?_add, if_neg older] at held
        exact told.call stage held
      · rw [Register.get?_add, if_neg older] at absent
        exact told.gone absent
  · rw [silent]
    exact answered.silent number (Nat.le_of_succ_le later)

/-- Every section answers one call at most. -/
theorem of_section (answered : Answered moves system events) {result : System α × List Event}
    (made : Section system move result) :
    Answered (moves ++ [move]) result.1 (events ++ result.2) := by
  cases made with
  | invoked request => exact answered.invoke request
  | late call job found closed =>
    exact answered.reply rfl found (by rfl) _ (.refused .closed) nofun
      (fun request serves => by cases request <;> trivial) rfl
  | admitted call job found =>
    exact answered.put rfl found rfl (fun request serves => by cases serves; exact rfl) (by simp)
  | closedBefore call found =>
    exact answered.reply rfl found (by rfl) _ .closed nofun
      (fun request serves => by cases request <;> trivial) rfl
  | declared call found =>
    exact answered.put rfl found rfl (fun request serves => by cases request <;> trivial)
      (by simp [Event.answers])
  | missed call job found =>
    exact answered.reply rfl found (by rfl) _ (.refused .closed) nofun
      (fun request serves => by cases request <;> trivial) rfl
  | reached call job found | counted call job found =>
    exact answered.put rfl found rfl
      (fun request serves => by cases request <;> exact serves) (by simp)
  | obstructed call job refusal found =>
    exact answered.put rfl found rfl
      (fun request serves => by cases request <;> trivial) (by simp)
  | sent call job found =>
    refine answered.settle rfl found rfl .accepted nofun
      (fun request serves => by cases request <;> trivial) ?_
      fun number different => ?_
    · simp [Event.answers, Verdict.history]
    · simp [Event.answers, different.symm]
  | uncounted call refusal found =>
    exact answered.reply rfl found (by rfl) _ (.refused refusal) nofun
      (fun request serves => by cases request <;> trivial) rfl
  | parted call found =>
    exact answered.reply rfl found (by rfl) _ .closed nofun
      (fun request serves => by cases request <;> trivial) rfl
  | started | took | stopped | began | recorded | spilled | lost | abandoned | returned
  | failed =>
    exact answered.keep_calls rfl rfl (by simp [Event.answers])
  | letGo held unused =>
    refine answered.keep_calls rfl rfl fun event happened number => ?_
    split at happened
    · cases happened
    · obtain rfl := List.mem_singleton.mp happened
      rfl

end Answered

/-- A thread of the pool is left, if only to have stopped: it was not brought down. -/
def Attended (system : System α) : Prop := ∃ thread ∈ system.threads, thread ≠ .lost

/-- A thread that is found was not brought down. -/
theorem attended_of_found {thread : Nat} {stage : Thread α}
    (found : system.threads[thread]? = some stage) (kept : stage ≠ .lost) : system.Attended :=
  ⟨stage, List.mem_of_getElem? found, kept⟩

/-- The jobs go through the queue in order, and every job is in one place. Those that have
gone with the last thread stood before those that wait. -/
structure Flow (system : System α) (events : List Event) : Prop where
  order : events.filterMap Event.taken? ++ (system.abandoned ++ system.queue).map (·.1) =
    events.filterMap Event.queued?
  taken : ∀ number, (events.filterMap Event.taken?).count number =
    system.threads.countP (·.holds number) + events.countP (·.begins number)
  begun : ∀ number, events.countP (·.begins number) =
    system.threads.countP (·.runs number) + events.countP (·.ends number)

namespace Flow

/-- In a new pool there are no jobs. -/
theorem fresh (threads queueCapacity : Nat) :
    Flow (System.fresh threads queueCapacity : System α) [] where
  order := rfl
  taken number := by simp [System.fresh, List.countP_replicate, Thread.holds]
  begun number := by simp [System.fresh, List.countP_replicate, Thread.runs]

/-- Nothing moves when only the calls go on. -/
theorem keep (flow : system.Flow events) (threads : next.threads = system.threads)
    (queue : next.abandoned ++ next.queue = system.abandoned ++ system.queue)
    (quiet : ∀ event ∈ new, event.queued? = none ∧ event.taken? = none ∧
      ∀ number, event.begins number = false ∧ event.ends number = false) :
    next.Flow (events ++ new) := by
  have queued : new.filterMap Event.queued? = [] :=
    List.filterMap_eq_nil_iff.mpr fun event happened => (quiet event happened).1
  have taken : new.filterMap Event.taken? = [] :=
    List.filterMap_eq_nil_iff.mpr fun event happened => (quiet event happened).2.1
  have begun (number : Nat) : new.countP (·.begins number) = 0 :=
    List.countP_eq_zero.mpr fun event happened => by
      simp [((quiet event happened).2.2 number).1]
  have ended (number : Nat) : new.countP (·.ends number) = 0 :=
    List.countP_eq_zero.mpr fun event happened => by
      simp [((quiet event happened).2.2 number).2]
  constructor
  · rw [List.filterMap_append, List.filterMap_append, taken, queued, queue, List.append_nil,
      List.append_nil, flow.order]
  · intro number
    rw [List.filterMap_append, taken, List.append_nil, List.countP_append, begun, threads,
      flow.taken, Nat.add_zero]
  · intro number
    rw [List.countP_append, List.countP_append, begun, ended, threads, flow.begun]
    rfl

/-- A thread goes on. What it had before and has after agrees with what happens. -/
theorem turn (flow : system.Flow events) {thread : Nat} {before after : Thread α}
    (found : system.threads[thread]? = some before)
    (threads : next.threads = system.threads.set thread after)
    (order : events.filterMap Event.taken? ++ (new.filterMap Event.taken? ++
      (next.abandoned ++ next.queue).map (·.1)) = events.filterMap Event.queued?)
    (unqueued : new.filterMap Event.queued? = [])
    (taken : ∀ number, (new.filterMap Event.taken?).count number + (before.holds number).toNat =
      (after.holds number).toNat + new.countP (·.begins number))
    (begun : ∀ number, new.countP (·.begins number) + (before.runs number).toNat =
      (after.runs number).toNat + new.countP (·.ends number)) :
    next.Flow (events ++ new) := by
  constructor
  · rw [List.filterMap_append, List.filterMap_append, unqueued, List.append_nil,
      List.append_assoc, order]
  · intro number
    have held := Counting.countP_set (·.holds number) system.threads thread before after found
    have earlier := flow.taken number
    have latest := taken number
    rw [List.filterMap_append, List.count_append, List.countP_append, threads]
    omega
  · intro number
    have ran := Counting.countP_set (·.runs number) system.threads thread before after found
    have earlier := flow.begun number
    have latest := begun number
    rw [List.countP_append, List.countP_append, threads]
    omega

/-- Every section keeps the jobs in order and in one place each, as long as no job has gone
before the last thread. -/
theorem of_section (flow : system.Flow events)
    (kept : system.Attended → system.abandoned = []) {result : System α × List Event}
    (made : Section system move result) : result.1.Flow (events ++ result.2) := by
  cases made with
  | invoked | late | admitted | closedBefore | missed | reached | counted | obstructed
  | uncounted | parted =>
    exact flow.keep rfl rfl
      (by simp [reply, Event.queued?, Event.taken?, Event.begins, Event.ends])
  | declared =>
    exact flow.keep rfl rfl (by simp [Event.queued?, Event.taken?, Event.begins, Event.ends])
  | letGo =>
    refine flow.keep rfl rfl fun event happened => ?_
    split at happened
    · cases happened
    · obtain rfl := List.mem_singleton.mp happened
      exact ⟨rfl, rfl, fun _ => ⟨rfl, rfl⟩⟩
  | sent call job found clear =>
    constructor
    · simp [reply, List.filterMap_append, List.filterMap_cons, Event.taken?, Event.queued?,
        ← flow.order]
    · intro number
      simpa [reply, List.filterMap_append, List.filterMap_cons, List.countP_append,
        Event.taken?, Event.begins] using flow.taken number
    · intro number
      simpa [reply, List.countP_append, Event.begins, Event.ends] using flow.begun number
  | took thread number job rest found first =>
    have none : system.abandoned = [] := kept (attended_of_found found nofun)
    refine flow.turn found rfl ?_ rfl (fun other => ?_) fun other => ?_
    · rw [← flow.order, first]
      simp [none, setThread, Event.taken?]
    · simp [Event.taken?, Event.begins, Thread.holds, List.count_singleton,
        Counting.toNat_eq_ite]
    · simp [Event.begins, Event.ends, Thread.runs]
  | started thread found | stopped thread found | began thread number job found
  | recorded thread number failure found | spilled thread number failure found
  | lost thread found | abandoned thread found | returned thread number job found
  | failed thread number job failure found =>
    refine flow.turn found rfl ?_ rfl (fun other => ?_) fun other => ?_
    · simpa [setThread, List.filterMap_cons, Event.taken?] using flow.order
    · simp [List.filterMap_cons, Event.taken?, Event.begins, Thread.holds,
        List.countP_singleton, Counting.toNat_eq_ite]
    · simp [Event.begins, Event.ends, Thread.runs, List.countP_singleton,
        Counting.toNat_eq_ite]

end Flow

/-- The jobs in the queue and with the threads are those that the calls of their numbers
brought, and so are the jobs that went with the last thread. -/
structure Faithful (moves : List (Move α)) (system : System α) : Prop where
  queued : ∀ entry ∈ system.abandoned ++ system.queue, Asks moves entry.1 (.submit entry.2)
  taken : ∀ (thread : Nat) (stage : Thread α) (entry : Nat × α),
    system.threads[thread]? = some stage → stage.job? = some entry →
      Asks moves entry.1 (.submit entry.2)

/-- A thread that goes on has its job from the queue, or has had it before. -/
theorem Faithful.turn (faithful : system.Faithful moves) (move : Move α) {thread : Nat}
    {after : Thread α} (threads : next.threads = system.threads.set thread after)
    (queue : ∀ entry ∈ next.abandoned ++ next.queue, entry ∈ system.abandoned ++ system.queue)
    (job : ∀ entry, after.job? = some entry → entry ∈ system.abandoned ++ system.queue ∨
      ∃ before, system.threads[thread]? = some before ∧ before.job? = some entry) :
    next.Faithful (moves ++ [move]) := by
  constructor
  · intro entry waits
    exact (faithful.queued entry (queue entry waits)).later move
  · intro other stage entry found has
    rw [threads, List.getElem?_set] at found
    split at found
    · split at found
      · obtain rfl := Option.some.inj found
        rcases job entry has with waits | ⟨before, held, had⟩
        · exact (faithful.queued entry waits).later move
        · exact (faithful.taken thread before entry held had).later move
      · cases found
    · exact (faithful.taken other stage entry found has).later move

/-- Every section keeps the jobs as they were brought. -/
theorem Faithful.of_section (faithful : system.Faithful moves)
    (answered : Answered moves system events) {result : System α × List Event}
    (made : Section system move result) : result.1.Faithful (moves ++ [move]) := by
  cases made with
  | invoked | late | admitted | closedBefore | declared | missed | reached | counted
  | obstructed | uncounted | parted | letGo =>
    exact ⟨fun entry waits => (faithful.queued entry waits).later _,
      fun thread stage entry found has => (faithful.taken thread stage entry found has).later _⟩
  | sent call job found clear =>
    refine ⟨fun entry waits => ?_, fun thread stage entry found has =>
      (faithful.taken thread stage entry found has).later _⟩
    have among : entry ∈ (system.abandoned ++ system.queue) ++ [(call, job)] :=
      (List.append_assoc ..).symm ▸ waits
    rcases List.mem_append.mp among with earlier | newest
    · exact (faithful.queued entry earlier).later _
    · obtain rfl := List.mem_singleton.mp newest
      exact (answered.asks_of_sending found).later _
  | took thread number job rest found first =>
    refine faithful.turn _ rfl (fun entry waits => ?_) fun entry has => .inl ?_
    · rw [first]
      exact ((List.sublist_cons_self _ rest).append_left _).subset waits
    · obtain rfl := Option.some.inj has
      rw [first]
      exact List.mem_append_right _ List.mem_cons_self
  | began thread number job found =>
    exact faithful.turn _ rfl (fun _ waits => waits) fun entry has => .inr ⟨_, found, has⟩
  | started | stopped | recorded | spilled | lost | returned | failed =>
    exact faithful.turn _ rfl (fun _ waits => waits) nofun
  | abandoned =>
    exact faithful.turn _ rfl (fun _ waits => by simpa [setThread] using waits) nofun

end System

end Standby.Pool
