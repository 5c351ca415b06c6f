import Standby.Dispatcher.Plan
import Standby.Proofs.Dispatcher.Lifecycle
import Standby.Proofs.Dispatcher.Origin
import Standby.Proofs.Dispatcher.Timeout

/-!
# The discipline of a dispatcher

A dispatcher is started, stopped and timed in a fixed order. Its phase changes in four ways
only, and the epoch counts how often it was stopped while it ran. What needs a stopped
dispatcher is refused in any other phase and then changes nothing. So the idle timeout
changes only while nobody serves, and everybody who serves has the one that holds.

A call that stops a dispatcher in which nobody is live makes two changes of the phase, one
right after the other, in one section.
-/

namespace Standby.Dispatcher

open Duration (Millis)

namespace System

/-- The move stops the dispatcher if that runs: it enters a call to stop it, or the last
holder lets go. -/
def stops (system : System) : Move → Bool
  | .proceed call => system.calls.get? call = some (.entering .stop)
  | .letGo => true
  | _ => false

/-- How many moves of a run stop the dispatcher while it runs. -/
def stopsOf (system : System) : List Move → Nat
  | [] => 0
  | move :: moves =>
    (if system.roster.phase = .running ∧ system.stops move then 1 else 0) +
      match system.step move with
      | some (next, _) => next.stopsOf moves
      | none => 0

/-- One change of the phase, and what brings it about. -/
inductive PhaseChange (move : Move) (events : List Event) (system next : System) : Prop where
  /-- A call to start the dispatcher succeeds. -/
  | starts (call : Nat) (enters : move = .proceed call)
      (found : system.calls.get? call = some (.entering .start))
      (answered : .returned call .done ∈ events)
      (before : system.roster.phase = .stopped) (after : next.roster.phase = .running)
  /-- The dispatcher is told to stop, or let go. -/
  | stops (told : system.stops move = true)
      (before : system.roster.phase = .running) (after : next.roster.phase = .stopping)
  /-- Nobody is live any more. -/
  | ends (before : system.roster.phase = .stopping) (after : next.roster.phase = .stopped)
      (deserted : next.roster.live = 0)
  /-- The dispatcher is let go while nobody is live. -/
  | abandoned (last : move = .letGo)
      (before : system.roster.phase = .running) (after : next.roster.phase = .stopped)
      (deserted : next.roster.live = 0)

variable {capacity : Nat} {system : System} {move : Move} {result : System × List Event}

/-- An open dispatcher runs. -/
theorem InOrder.running (order : InOrder capacity system)
    (active : system.roster.phase = .starting ∨ system.roster.phase = .running) :
    system.roster.phase = .running :=
  active.resolve_left order.census.settled

/-- Whoever looks for the last worker stops the dispatcher only if nobody is live. -/
theorem live_of_awaitLastWorker (system : System) (call : Nat) :
    (system.awaitLastWorker call).roster.phase = .stopped ∧
        (system.awaitLastWorker call).roster.live = 0 ∨
      (system.awaitLastWorker call).roster.phase = system.roster.phase := by
  unfold awaitLastWorker
  split
  · rename_i deserted
    exact .inl ⟨rfl, deserted⟩
  · exact .inr rfl

/-- Every section leaves the phase alone or changes it once, or it stops a dispatcher without
live workers from beginning to end. -/
theorem phaseChange_of_section (order : InOrder capacity system)
    (made : Section system move result) :
    result.1.roster.phase = system.roster.phase ∨
      PhaseChange move result.2 system result.1 ∨
      (∃ call, move = .proceed call) ∧ PhaseChange move result.2 system system.retireAll.1 ∧
        PhaseChange move result.2 system.retireAll.1 result.1 := by
  cases made with
  | started call found stopped =>
    exact .inr (.inl (.starts call rfl found (by simp) stopped rfl))
  | stopBegun call found active =>
    have told : system.stops (.proceed call) = true := by simp [stops, found]
    have running := order.running active
    rcases live_of_awaitLastWorker system.retireAll.1 call with ⟨stopped, deserted⟩ | stopping
    · exact .inr (.inr ⟨⟨call, rfl⟩, .stops told running rfl, .ends rfl stopped deserted⟩)
    · exact .inr (.inl (.stops told running stopping))
  | looked call found =>
    have stopping : system.roster.phase = .stopping := order.stopping call ⟨_, found, rfl⟩
    rcases live_of_awaitLastWorker system call with ⟨stopped, deserted⟩ | same
    · exact .inr (.inl (.ends stopping stopped deserted))
    · exact .inl same
  | abandoned unused active =>
    have running := order.running active
    rw [letGo_of_active active]
    dsimp only
    split
    · rename_i deserted
      exact .inr (.inl (.abandoned rfl running rfl deserted))
    · exact .inr (.inl (.stops rfl running rfl))
  | turnedDown call fallsBack | declined call fallsBack => cases fallsBack <;> exact .inl rfl
  | departed number epoch departure => cases departure <;> exact .inl rfl
  | _ => exact .inl rfl

/-- Every section that stops a running dispatcher begins another epoch, and no other does. -/
theorem epoch_of_section (order : InOrder capacity system) (made : Section system move result) :
    result.1.roster.epoch = system.roster.epoch +
      if system.roster.phase = .running ∧ system.stops move then 1 else 0 := by
  cases made with
  | stopBegun call found active =>
    rw [awaitLastWorker_epoch, if_pos ⟨order.running active, by simp [stops, found]⟩]
    rfl
  | abandoned unused active =>
    rw [letGo_epoch active, if_pos ⟨order.running active, rfl⟩]
  | restful call found stopped => simp [stopped, reply]
  | joined call found =>
    rcases found with ⟨_, stopping⟩ | ⟨woken, _⟩
    · simp [stopping, setCall]
    · simp [stops, woken, setCall]
  | letGo unused closed => rcases closed with phase | phase <;> simp [phase]
  | looked call found => simp [stops, found, awaitLastWorker_epoch]
  | illegal call request operation found needs =>
    rcases needs with rfl | ⟨timeout, rfl⟩ <;> simp [stops, found, reply]
  | turnedDown call fallsBack found | declined call fallsBack found =>
    cases fallsBack <;> simp [stops, found, decline, giveBack, reply, setCall, System.count]
  | counted call fallsBack count event stage found answered =>
    rcases answered with ⟨worker, rfl, _⟩ | ⟨worker, refusal, rfl, _⟩ <;>
      simp [stops, found, setCall, System.count]
  | started call found | retimed call timeout found | claimed call fallsBack worker remaining found
  | created call fallsBack found | announced call found =>
    simp [stops, found]
    rfl
  | departed number epoch departure => cases departure <;> simp [stops] <;> rfl
  | _ => simp [stops] <;> rfl

/-- The epoch counts how often a run stops the dispatcher while it runs. -/
theorem epoch_of_play (order : InOrder capacity system) {moves : List Move}
    (run : system.play moves = some result) :
    result.1.roster.epoch = system.roster.epoch + system.stopsOf moves := by
  -- Every run is taken from its first move on, so the dispatcher that it begins with varies.
  induction moves generalizing system result with
  | nil =>
    obtain rfl := Option.some.inj run
    rfl
  | cons move moves inductionHypothesis =>
    obtain ⟨first, last, made, played, rfl⟩ := play_cons_eq_some.mp run
    have begun := epoch_of_section order (section_of_step order.parkedReady made)
    have later : last.1.roster.epoch = first.1.roster.epoch + first.1.stopsOf moves :=
      inductionHypothesis (order.of_step made) played
    rw [later, begun, stopsOf, made, Nat.add_assoc]

section Requests

variable {call : Nat}

/-- A call to start the dispatcher starts it if it is stopped, and is refused otherwise. -/
theorem step_start (found : system.calls.get? call = some (.entering .start)) :
    system.step (.proceed call) = some (
      if system.roster.phase = .stopped then
        (((system.setPhase .running).reply call .done).1,
          [.started system.capacity system.roster.idleTimeout, .returned call .done])
      else system.reply call (.illegal ⟨"start", system.roster.phase⟩)) := by
  simp only [step, found, Option.bind_some, proceed, enter, whileStopped]
  split <;> rfl

/-- A call to set the idle timeout sets it if the dispatcher is stopped, and is refused
otherwise. -/
theorem step_setIdleTimeout {timeout : Option Millis}
    (found : system.calls.get? call = some (.entering (.setIdleTimeout timeout))) :
    system.step (.proceed call) = some (
      if system.roster.phase = .stopped then
        (system.setRoster { system.roster with idleTimeout := idleTimeout? timeout }).reply call
          .done
      else system.reply call (.illegal ⟨"set idle timeout", system.roster.phase⟩)) := by
  simp only [step, found, Option.bind_some, proceed, enter, whileStopped]
  split <;> rfl

/-- Only a call that needs a stopped dispatcher and finds another is refused for the phase. -/
theorem refused_of_illegal (made : Section system move result) {fault : IllegalPhase}
    (told : .returned call (.illegal fault) ∈ result.2) :
    move = .proceed call ∧ system.roster.phase ≠ .stopped ∧
      (system.calls.get? call = some (.entering .start) ∨
        ∃ timeout, system.calls.get? call = some (.entering (.setIdleTimeout timeout))) := by
  obtain ⟨stage, found, answered⟩ := answered_of_returned made told
  have own : move = .proceed call := move_of_event made told rfl
  cases answered with
  | illegal request operation needs busy =>
    rcases needs with rfl | ⟨timeout, rfl⟩
    · exact ⟨own, busy, .inl found⟩
    · exact ⟨own, busy, .inr ⟨timeout, found⟩⟩

end Requests

/-- In a stopped dispatcher nobody registers. -/
theorem not_registered_of_stopped (stopped : system.roster.phase = .stopped)
    (made : Section system move result) (number : WorkerId) : .registered number ∉ result.2 := by
  intro happened
  obtain ⟨own, crew⟩ : ∃ own, Crew system result.1 result.2 own := ⟨_, crew_of_section made⟩
  cases crew with
  | same _ _ quiet | created _ _ quiet | told _ _ _ quiet => cases quiet _ happened
  | advanced other epoch before after change found workers changed still advance =>
    obtain ⟨events, same⟩ : ∃ events, result.2 = events := ⟨_, rfl⟩
    rw [same] at advance happened
    cases advance with
    | registered current running => simp [stopped] at running
    | _ => simp at happened

/-- Until a stopped dispatcher starts, nobody is live and nobody registers. -/
theorem deserted_of_play (order : InOrder capacity system)
    (stopped : system.roster.phase = .stopped) {moves : List Move}
    (run : system.play moves = some result)
    (unstarted : ∀ event ∈ result.2, event.isStart = false) :
    result.1.roster.live = 0 ∧ ∀ number, .registered number ∉ result.2 := by
  let invariant (system : System) (events : List Event) : Prop :=
    (∀ event ∈ events, event.isStart = false) →
      system.roster.phase = .stopped ∧ ∀ number, .registered number ∉ events
  have start : invariant system [] := fun _ => ⟨stopped, by simp⟩
  have kept := play_sections invariant [] moves ?_ order start run
  · obtain ⟨still, unregistered⟩ := kept.2 unstarted
    exact ⟨kept.1.census.deserted still, unregistered⟩
  · rintro move - system events result order before made unstarted
    obtain ⟨stopped, unregistered⟩ := before fun event happened =>
      unstarted event (List.mem_append_left _ happened)
    have now : ∀ event ∈ result.2, event.isStart = false := fun event happened =>
      unstarted event (List.mem_append_right _ happened)
    refine ⟨stopped_of_section order stopped made now, fun number happened => ?_⟩
    rcases List.mem_append.mp happened with earlier | latest
    · exact unregistered number earlier
    · exact not_registered_of_stopped stopped made number latest

/-- A dispatcher that was stopped so often while it ran keeps to its discipline. -/
structure Disciplined (system : System) (stopped : Nat) : Prop where
  /-- Nobody finds it about to start. -/
  settled : system.roster.phase = .stopped ∨ system.roster.phase = .running ∨
    system.roster.phase = .stopping
  /-- Its phase changes in no other way. A call that stops it makes two changes in one section
  if nobody is live. -/
  changes : ∀ move result, system.step move = some result →
    result.1.roster.phase = system.roster.phase ∨
      PhaseChange move result.2 system result.1 ∨
      (∃ call, move = .proceed call) ∧ PhaseChange move result.2 system system.retireAll.1 ∧
        PhaseChange move result.2 system.retireAll.1 result.1
  epoch : system.roster.epoch = stopped
  /-- A call to start it succeeds if it is stopped. Otherwise the call is told the phase, and
  nothing but the call changes. -/
  started : ∀ call, system.calls.get? call = some (.entering .start) →
    ∃ next events, system.step (.proceed call) = some (next, events) ∧
      if system.roster.phase = .stopped then
        .returned call .done ∈ events ∧ next.roster = { system.roster with phase := .running }
      else
        events = [.returned call (.illegal ⟨"start", system.roster.phase⟩)] ∧
          next = { system with calls := system.calls.remove call }
  /-- A call to set the idle timeout likewise, and a timeout of zero is none. -/
  retimed : ∀ call timeout, system.calls.get? call = some (.entering (.setIdleTimeout timeout)) →
    ∃ next events, system.step (.proceed call) = some (next, events) ∧
      if system.roster.phase = .stopped then
        .returned call .done ∈ events ∧
          next.roster =
            { system.roster with idleTimeout := if timeout = some 0 then none else timeout }
      else
        events = [.returned call (.illegal ⟨"set idle timeout", system.roster.phase⟩)] ∧
          next = { system with calls := system.calls.remove call }
  /-- No other call is refused for the phase. -/
  refused : ∀ move next events call fault, system.step move = some (next, events) →
    .returned call (.illegal fault) ∈ events → move = .proceed call ∧
      system.roster.phase ≠ .stopped ∧
        (system.calls.get? call = some (.entering .start) ∨
          ∃ timeout, system.calls.get? call = some (.entering (.setIdleTimeout timeout)))
  positive : system.roster.idleTimeout ≠ some 0
  /-- Whoever serves has the idle timeout of the dispatcher. -/
  agreed : ∀ worker ∈ system.workers, ∀ idleTimeout slot duty,
    worker.stage = .serving idleTimeout slot duty → idleTimeout = system.roster.idleTimeout
  /-- While it is stopped, nobody is live, and until it starts nobody registers. So a new idle
  timeout concerns only those who register after the next start. -/
  unaffected : system.roster.phase = .stopped → ∀ moves later events,
    system.play moves = some (later, events) → (∀ event ∈ events, event.isStart = false) →
      later.roster.live = 0 ∧ ∀ number, .registered number ∉ events

/-- Every run of every dispatcher keeps to the discipline. -/
theorem play_disciplined (plan : Plan) (moves : List Move) (system : System)
    (events : List Event) (run : plan.build.play moves = some (system, events)) :
    system.Disciplined (plan.build.stopsOf moves) := by
  have start : InOrder plan.capacity plan.build := .fresh plan.capacity plan.idleTimeout
  have order : InOrder plan.capacity system := inOrder_of_play run
  have section_made {move : Move} {result : System × List Event}
      (made : system.step move = some result) : Section system move result :=
    section_of_step order.parkedReady made
  have timed : idleTimeout? system.roster.idleTimeout = system.roster.idleTimeout :=
    idleTimeout_of_play run
  exact
    { settled := by
        have settled := order.census.settled
        cases phase : system.roster.phase <;> simp_all
      changes := fun move result made => phaseChange_of_section order (section_made made)
      epoch := (epoch_of_play start run).trans (Nat.zero_add _)
      started := by
        intro call found
        have made := step_start found
        split at made
        · rename_i stopped
          exact ⟨_, _, made, by simp [stopped, setPhase, reply]⟩
        · rename_i busy
          exact ⟨_, _, made, by simp [busy]⟩
      retimed := by
        intro call timeout found
        have made := step_setIdleTimeout found
        split at made
        · rename_i stopped
          exact ⟨_, _, made, by simp [stopped, setRoster, idleTimeout?_eq]⟩
        · rename_i busy
          exact ⟨_, _, made, by simp [busy]⟩
      refused := fun move next events call fault made told =>
        refused_of_illegal (section_made made) told
      positive := by
        rw [← timed, idleTimeout?_eq]
        split <;> simp_all
      agreed := by
        intro worker member idleTimeout slot duty serves
        have own := timedBy_of_play run worker member
        rwa [serves] at own
      unaffected := fun stopped moves later events played unstarted =>
        deserted_of_play order stopped played unstarted }

/-- The dispatcher of a reserve whose idle timeout of zero means none is given another one,
started, stopped, and started again. A worker has registered when somebody asks in vain for a
longer idle timeout. -/
def vainRequest : List Move :=
  [.invoke (.setIdleTimeout (some 5)), .proceed 0, .invoke .start, .proceed 1, .invoke .stop,
    .proceed 2, .proceed 2, .invoke .start, .proceed 3, .invoke (.offer false), .proceed 4,
    .launch 0, .invoke (.setIdleTimeout (some 9)), .proceed 5]

/-- The request is refused, and the worker goes on with the idle timeout that it has. -/
theorem vainRequest_disciplined :
    ∃ system events, (Plan.ofReserved (.ofCapacity 1 (some 0))).build.play vainRequest =
        some (system, events) ∧
      .returned 5 (.illegal ⟨"set idle timeout", .running⟩) ∈ events ∧
      system.workers[0]? = some ⟨1, .serving (some 5) none .waiting⟩ ∧ system.Disciplined 1 :=
  ⟨_, _, rfl, by decide, rfl, play_disciplined (.ofReserved (.ofCapacity 1 (some 0))) vainRequest
    _ _ rfl⟩

end System

end Standby.Dispatcher
