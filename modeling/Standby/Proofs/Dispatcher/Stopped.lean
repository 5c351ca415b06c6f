import Standby.Proofs.Dispatcher.Capacity
import Standby.Proofs.Dispatcher.Crew
import Standby.Proofs.Dispatcher.Handoff
import Standby.Proofs.Dispatcher.Lifecycle
import Standby.Proofs.Dispatcher.Standing

/-!
# Stopped dispatchers

A call that stops a dispatcher goes to sleep or finds the dispatcher stopped, and a
stopped dispatcher has come to rest: nobody is live, nothing counts against its capacity,
and every accepted task has ended. Until the next start all offers are declined.

The loops that were created before belong to the past. They serve no more, or have not
been launched, and since their epoch never comes back they will not register after the
next start either.
-/

namespace Standby.Dispatcher

open Duration (Millis)

namespace Event

/-- A worker parks, or is given a task, or begins to execute it. -/
def engages (number : WorkerId) (event : Event) : Bool :=
  match event with
  | .registered other | .parkedAgain other | .claimed other _ | .began other _ => other = number
  | _ => false

/-- Only a worker of whom an event tells is engaged by it. -/
theorem actor_of_engages {number : WorkerId} {event : Event}
    (engaged : event.engages number = true) : event.actor? = some number := by
  cases event with
  | registered other | parkedAgain other | claimed other task | began other task =>
    exact congrArg some (of_decide_eq_true engaged)
  | _ => cases engaged

end Event

namespace Worker

/-- A loop of an earlier epoch that does not serve. -/
def IsPast (epoch : Nat) (worker : Worker) : Prop :=
  worker.epoch < epoch ∧ worker.stage.isServing = false

end Worker

/-- A loop of the past never serves again, and is never engaged. -/
theorem Advance.of_past {roster : Roster} {number : WorkerId} {epoch : Nat} {own : Bool}
    {before after : Stage} {events : List Event}
    (advance : Advance roster number epoch own before after events) (past : epoch < roster.epoch)
    (idle : before.isServing = false) :
    after.isServing = false ∧ ∀ event ∈ events, ∀ other, event.engages other = false := by
  cases advance with
  | registered current => exact absurd current (Nat.ne_of_gt past)
  | stale | turnedAway | discarded | announcedAfterTask | announcedRetired | announcedIdle
  | idled => simp [Stage.isServing, Event.engages]
  | claimed | began | told | expired | withdrawn | kept | ended | failed | reported | broke
  | parkedAgain | leftAfterTask | leftRetired => simp [Stage.isServing] at idle

namespace System

variable {capacity : Nat} {system next : System} {events : List Event}

/-- All loops below a number belong to the past. -/
def PastBelow (system : System) (bound : Nat) : Prop :=
  ∀ number < bound, ∃ worker, system.workers[number]? = some worker ∧
    worker.IsPast system.roster.epoch

/-- In a stopped dispatcher every loop belongs to the past. -/
theorem pastBelow_of_stopped (census : Census capacity system.roster system.workers)
    (stopped : system.roster.phase = .stopped) : system.PastBelow system.workers.length := by
  intro number present
  have found : system.workers[number]? = some system.workers[number] :=
    List.getElem?_eq_getElem present
  have early := ((census.orderly_of_found found).past (by simp [stopped])).1
  have idle := census.not_serving (census.deserted stopped) (List.mem_of_getElem? found)
  exact ⟨_, found, early, idle⟩

/-- The past stays past, and nobody of the past is engaged. -/
theorem pastBelow_of_crew {bound : Nat} {own : Bool} (past : system.PastBelow bound)
    (crew : Crew system next events own) :
    next.PastBelow bound ∧ ∀ event ∈ events, ∀ number < bound, event.engages number = false := by
  constructor
  · intro number below
    obtain ⟨⟨epoch, before⟩, found, early, idle⟩ := past number below
    obtain ⟨after, stands, becomes⟩ := crew.worker found
    have rests : after.isServing = false := by
      rcases becomes with ⟨rfl | ⟨_, _, rfl, _⟩, _⟩ | advance
      · exact idle
      · cases idle
      · exact (advance.of_past early idle).1
    exact ⟨⟨epoch, after⟩, stands, Nat.lt_of_lt_of_le early crew.epoch_le, rests⟩
  · intro event happened number below
    obtain ⟨⟨epoch, before⟩, found, early, idle⟩ := past number below
    obtain ⟨after, stands, becomes⟩ := crew.worker found
    apply Bool.eq_false_iff.mpr
    intro engaged
    rcases becomes with ⟨_, foreign⟩ | advance
    · exact foreign event happened (Event.actor_of_engages engaged)
    · have quiet := (advance.of_past early idle).2 event happened number
      simp [engaged] at quiet

/-- A dispatcher at rest: nobody has registered, nothing counts, and every task that was
accepted has ended. -/
structure AtRest (system : System) (events : List Event) : Prop where
  stopped : system.roster.phase = .stopped
  live : system.roster.live = 0
  parked : system.roster.parked = []
  pending : system.roster.pending = 0
  starting : system.roster.starting = 0
  nobody : ∀ worker ∈ system.workers, worker.stage.isLive = false
  ended : ∀ task, .returned task .accepted ∈ events →
    ∃ worker outcome, .ended worker task outcome ∈ events

/-- Where nobody serves, all accepted tasks have ended. -/
theorem ended_of_not_serving (custody : system.InCustody events)
    (nobody : ∀ worker ∈ system.workers, worker.stage.isServing = false) {task : Task}
    (accepted : .returned task .accepted ∈ events) :
    ∃ worker outcome, .ended worker task outcome ∈ events := by
  obtain ⟨fate, keeps⟩ := custody task
  obtain ⟨worker, place, given⟩ := keeps.given_of_accepted accepted
  have lies : system.Lies events task worker place := (keeps.lies_iff worker place).mpr given
  cases place with
  | slot =>
    obtain ⟨holder, found, holds⟩ := Option.bind_eq_some_iff.mp lies
    obtain ⟨idleTimeout, duty, serves⟩ := Worker.serving_of_slot holds
    have idle := nobody holder (List.mem_of_getElem? found)
    simp [serves, Stage.isServing] at idle
  | hands =>
    obtain ⟨holder, found, holds⟩ := Option.bind_eq_some_iff.mp lies
    have idle := nobody holder (List.mem_of_getElem? found)
    unfold Worker.duty? at holds
    split at holds
    · rename_i serves
      simp [serves, Stage.isServing] at idle
    · cases holds
  | finished =>
    obtain ⟨outcome, happened⟩ := lies
    exact ⟨worker, outcome, happened⟩

/-- A stopped dispatcher has come to rest. -/
theorem atRest_of_stopped (order : InOrder capacity system) (custody : system.InCustody events)
    (stopped : system.roster.phase = .stopped) : system.AtRest events := by
  have census := order.census
  have nobody : system.roster.live = 0 := census.deserted stopped
  have accounted := census.available_add_pending_le
  have unlisted : system.roster.available = 0 := by omega
  refine
    { stopped := stopped
      live := nobody
      parked := List.eq_nil_of_length_eq_zero unlisted
      pending := by omega
      starting := census.starting_of_not_running (by simp [stopped])
      nobody := ?_
      ended := fun task accepted => ?_ }
  · intro worker member
    rw [census.live, List.countP_eq_zero] at nobody
    exact Bool.eq_false_iff.mpr (nobody worker member)
  · exact ended_of_not_serving custody (fun worker member => census.not_serving nobody member)
      accepted

/-- An offer that does not find the dispatcher running is declined. -/
theorem step_offer_of_not_running {call : Nat} {fallsBack : Bool}
    (found : system.calls.get? call = some (.entering (.offer fallsBack)))
    (idle : system.roster.phase ≠ .running) :
    system.step (.proceed call) = some (system.decline call fallsBack) := by
  simp [step, found, proceed, enter, offer, idle]

/-- Declining leaves the roster alone and tells of nothing but the task that goes back or
on. -/
theorem decline_eq (system : System) (call : Nat) (fallsBack : Bool) :
    (system.decline call fallsBack).1.roster = system.roster ∧
      (system.decline call fallsBack).2 =
        [if fallsBack then .fellBack call else .returned call (.declined call)] := by
  cases fallsBack <;> exact ⟨rfl, rfl⟩

/-- A run of a stopped dispatcher without a start leaves it stopped and accepts nothing. -/
theorem play_stopped (order : InOrder capacity system) (stopped : system.roster.phase = .stopped)
    {moves : List Move} {result : System × List Event} (run : system.play moves = some result)
    (unstarted : ∀ event ∈ result.2, event.isStart = false) :
    result.1.roster.phase = .stopped ∧ ∀ call, .returned call .accepted ∉ result.2 := by
  let invariant (system : System) (events : List Event) : Prop :=
    (∀ event ∈ events, event.isStart = false) →
      system.roster.phase = .stopped ∧ ∀ call, .returned call .accepted ∉ events
  have start : invariant system [] := fun _ => ⟨stopped, by simp⟩
  refine (play_sections invariant [] moves ?_ order start run).2 unstarted
  rintro move - system events result order before made unstarted
  obtain ⟨stopped, declined⟩ := before fun event happened =>
    unstarted event (List.mem_append_left _ happened)
  have now : ∀ event ∈ result.2, event.isStart = false := fun event happened =>
    unstarted event (List.mem_append_right _ happened)
  refine ⟨stopped_of_section order stopped made now, fun call accepted => ?_⟩
  rcases List.mem_append.mp accepted with earlier | latest
  · exact declined call earlier
  · have running := (tells_of_section made _ latest).2.1
    simp [stopped] at running

/-- In every run the past stays past, and nobody of the past is engaged. -/
theorem play_past {bound : Nat} (order : InOrder capacity system) (past : system.PastBelow bound)
    {moves : List Move} {result : System × List Event} (run : system.play moves = some result) :
    result.1.PastBelow bound ∧
      ∀ event ∈ result.2, ∀ number < bound, event.engages number = false := by
  let invariant (system : System) (events : List Event) : Prop :=
    system.PastBelow bound ∧ ∀ event ∈ events, ∀ number < bound, event.engages number = false
  have start : invariant system [] := ⟨past, by simp⟩
  refine (play_sections invariant [] moves ?_ order start run).2
  rintro move - system events result - ⟨past, quiet⟩ made
  obtain ⟨still, silent⟩ := pastBelow_of_crew past (crew_of_section made)
  refine ⟨still, fun event happened => ?_⟩
  rcases List.mem_append.mp happened with earlier | latest
  · exact quiet event earlier
  · exact silent event latest

end System

/-- A call that stops the dispatcher and is about to see whether it has to wait. -/
def Call.decidesStop : Call → Bool
  | .entering .stop | .woken _ => true
  | _ => false

namespace System

variable {capacity : Nat} {system : System}

/-- A call that looks for the last worker sleeps or has stopped the dispatcher. -/
theorem awaitLastWorker_decides (system : System) {call : Nat}
    (held : (system.calls.get? call).isSome) :
    (system.awaitLastWorker call).calls.get? call = some (.sleeping .lastWorker) ∨
      (system.awaitLastWorker call).roster.phase = .stopped := by
  obtain ⟨stage, found⟩ := Option.isSome_iff_exists.mp held
  unfold awaitLastWorker
  split
  · exact .inr rfl
  · exact .inl (by simp [setCall, Register.get?_put, found])

/-- A call that stops the dispatcher goes to sleep unless it finds or leaves the dispatcher
stopped. -/
theorem sleeps_or_stopped {call : Nat} {stage : Call}
    (found : system.calls.get? call = some stage) (decides : stage.decidesStop = true)
    {result : System × List Event} (made : system.step (.proceed call) = some result) :
    (∃ awaited, result.1.calls.get? call = some (.sleeping awaited)) ∨
      result.1.roster.phase = .stopped := by
  have proceeded : system.proceed call stage = some result := by simpa [step, found] using made
  have joined : (∃ awaited, (system.awaitStopped call).1.calls.get? call =
      some (.sleeping awaited)) ∨ (system.awaitStopped call).1.roster.phase = .stopped := by
    unfold awaitStopped
    split
    · rename_i stopped
      exact .inr stopped
    · exact .inl ⟨.stopped, by simp [setCall, Register.get?_put, found]⟩
  have looked (next : System) (calls : next.calls = system.calls) :
      (∃ awaited, (next.awaitLastWorker call).calls.get? call = some (.sleeping awaited)) ∨
        (next.awaitLastWorker call).roster.phase = .stopped := by
    have held : (next.calls.get? call).isSome := by simp [calls, found]
    rcases next.awaitLastWorker_decides held with sleeps | stopped
    · exact .inl ⟨.lastWorker, sleeps⟩
    · exact .inr stopped
  cases stage with
  | entering request =>
    cases request with
    | stop =>
      obtain rfl := Option.some.inj proceeded
      simp only [enter, stop]
      split
      · rename_i stopped
        exact .inr stopped
      · exact joined
      · exact looked system.retireAll.1 rfl
      · exact looked system.retireAll.1 rfl
    | start | setIdleTimeout _ | offer _ => cases decides
  | woken awaited =>
    cases awaited with
    | lastWorker =>
      obtain rfl := Option.some.inj proceeded
      exact looked system rfl
    | stopped =>
      obtain rfl := Option.some.inj proceeded
      exact joined
  | _ => cases decides

/-- Stopping is complete: whoever stopped the dispatcher and does not wait any more finds
it at rest, and what has come to rest stays so until the next start and beyond. -/
structure StopsCompletely (system : System) (events : List Event) : Prop where
  /-- A call that stops the dispatcher, whether it does so itself, joins another or comes
  late, sleeps until the dispatcher is at rest. -/
  decided : ∀ call stage result, system.calls.get? call = some stage →
    stage.decidesStop = true → system.step (.proceed call) = some result →
      (∃ awaited, result.1.calls.get? call = some (.sleeping awaited)) ∨
        result.1.AtRest (events ++ result.2)
  /-- A stopped dispatcher is at rest. -/
  rests : system.roster.phase = .stopped → system.AtRest events
  /-- Until the next start it stays stopped and declines every offer. -/
  declines : system.roster.phase = .stopped → ∀ later final new,
    system.play later = some (final, new) → (∀ event ∈ new, event.isStart = false) →
      final.roster.phase = .stopped ∧ (∀ call, .returned call .accepted ∉ new) ∧
        ∀ call fallsBack, final.calls.get? call = some (.entering (.offer fallsBack)) →
          ∃ next, final.step (.proceed call) =
              some (next, [if fallsBack then .fellBack call
                else .returned call (.declined call)]) ∧
            next.roster = final.roster
  /-- No loop that was created before ever registers, parks or has a task again, whatever
  happens later. -/
  past : system.roster.phase = .stopped → ∀ later final new,
    system.play later = some (final, new) → ∀ number < system.workers.length,
      number ∉ final.roster.parked ∧
        (∃ worker, final.workers[number]? = some worker ∧ worker.stage.isServing = false) ∧
          ∀ event ∈ new, event.engages number = false

/-- In every run stopping is complete. -/
theorem play_stopsCompletely (capacity : Nat) (idleTimeout : Option Millis) (moves : List Move)
    (system : System) (events : List Event)
    (run : (fresh capacity idleTimeout).play moves = some (system, events)) :
    system.StopsCompletely events := by
  have order : InOrder capacity system := inOrder_of_play run
  have custody : system.InCustody events := inCustody_of_play run
  constructor
  case decided =>
    intro call stage result found decides made
    rcases sleeps_or_stopped found decides made with sleeps | stopped
    · exact .inl sleeps
    · have kept : result.1.InCustody (events ++ result.2) :=
        custody.of_section order (section_of_step order.parkedReady made)
      exact .inr (atRest_of_stopped (order.of_step made) kept stopped)
  case rests => exact atRest_of_stopped order custody
  case declines =>
    intro stopped later final new run unstarted
    obtain ⟨still, unaccepted⟩ := play_stopped order stopped run unstarted
    refine ⟨still, unaccepted, fun call fallsBack found => ?_⟩
    obtain ⟨roster, told⟩ := final.decline_eq call fallsBack
    have idle : final.roster.phase ≠ .running := by
      rw [show final.roster.phase = .stopped from still]
      nofun
    have made := step_offer_of_not_running found idle
    exact ⟨_, by rw [made, ← told], roster⟩
  case past =>
    intro stopped later final new run number present
    have past : system.PastBelow system.workers.length :=
      pastBelow_of_stopped order.census stopped
    obtain ⟨still, quiet⟩ := play_past order past run
    obtain ⟨worker, found, -, idle⟩ := still number present
    refine ⟨fun parked => ?_, ⟨worker, found, idle⟩, fun event happened =>
      quiet event happened number present⟩
    have census := (play_sections (fun _ _ => True) [] later (by simp) order trivial run).1.census
    have stands := (census.parked_iff found).mp parked
    simp [Stage.serving_of_station stands] at idle

/-- The only worker has a task when the dispatcher is told to stop, twice, and another loop
has not been launched. -/
def joinedStop : List Move :=
  [.invoke .start, .proceed 0, .invoke (.offer false), .proceed 1, .invoke (.offer false),
    .proceed 2, .launch 0, .invoke (.offer false), .proceed 3, .invoke .stop, .proceed 4,
    .invoke .stop, .proceed 5, .work 0, .finish 0 .returned, .work 0, .work 0, .proceed 4,
    .proceed 5]

/-- Both calls find the dispatcher at rest, though one of its loops is still queued. -/
theorem joinedStop_stopsCompletely :
    ∃ system events, (fresh 2 none).play joinedStop = some (system, events) ∧
      system.roster.phase = .stopped ∧ .returned 3 .accepted ∈ events ∧
      .returned 5 .done ∈ events ∧ system.workers[1]? = some ⟨0, .queued⟩ ∧
      system.StopsCompletely events :=
  ⟨_, _, rfl, rfl, by decide, by decide, rfl, play_stopsCompletely 2 none joinedStop _ _ rfl⟩

end System

end Standby.Dispatcher
