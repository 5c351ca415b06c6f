import Standby.Proofs.Dispatcher.Conservation
import Standby.Proofs.Dispatcher.Passage
import Standby.Proofs.Dispatcher.Recency
import Standby.Proofs.Dispatcher.StartSlots
import Standby.Proofs.Dispatcher.Stopped

/-!
# What an offer decides

An offer is decided in one section, and the decision is spelled out here for every state that a
run can reach. A dispatcher that does not run declines. One that runs hands the task to the
worker that parked last among those that are parked. Without a parked worker it declines too,
and creates one worker loop if the capacity has room for it.

A loop that was created is submitted by the call that created it and by no other. Whatever the
executor says about it, this call is not accepted any more; a refusal is counted, and leaves no
other trace in the roster.
-/

namespace Standby.Dispatcher

open Duration (Millis)
open Executor (Refusal)

/-- The call submits this worker loop, or is about to count what the executor has answered. -/
def Call.submits (number : WorkerId) : Call → Nat
  | .submitting _ worker | .countingSpawned _ worker | .countingRefused _ worker _ =>
    if worker = number then 1 else 0
  | _ => 0

/-- The executor's answer about this worker loop was counted, or the call was broken off that
asked about it. -/
def Event.settles (number : WorkerId) : Event → Bool
  | .submitted worker | .spawnFailed worker _ | .brokenOff _ (some worker) => worker = number
  | _ => false

/-- An answer to an offer whose task was declined: the caller has the task again, or the
executor has answered about it. -/
def Answer.Declines (call : Nat) (fallsBack : Bool) : Answer → Prop
  | .declined task => fallsBack = false ∧ task = call
  | .fallback | .refused _ => fallsBack = true
  | .done | .illegal _ | .accepted => False

namespace System

variable {capacity : Nat} {system : System} {move : Move} {result : System × List Event}

/-- A section that creates a loop has a call submit it, and one that counts the executor's
answer about a loop ends its submission. -/
theorem submissions_of_section (made : Section system move result) (number : WorkerId) :
    result.1.calls.total (Call.submits number) + result.2.countP (Event.settles number) =
      system.calls.total (Call.submits number) + result.2.count (.created number) := by
  have put {call : Nat} {stage : Call} (found : system.calls.get? call = some stage)
      (later : Call) : (system.calls.put call later).total (Call.submits number) +
        stage.submits number =
      system.calls.total (Call.submits number) + later.submits number :=
    Register.total_put _ found
  have removed {call : Nat} {stage : Call} (found : system.calls.get? call = some stage) :
      (system.calls.remove call).total (Call.submits number) + stage.submits number =
        system.calls.total (Call.submits number) := Register.total_remove _ found
  have woken : (system.calls.map fun _ call => call.wake).total (Call.submits number) =
      system.calls.total (Call.submits number) :=
    Register.total_map _ _ fun _ call => by cases call <;> rfl
  have looked (looking : System) (calls : looking.calls = system.calls) {call : Nat} {stage : Call}
      (found : system.calls.get? call = some stage) (stands : stage.submits number = 0) :
      (looking.awaitLastWorker call).calls.total (Call.submits number) =
        system.calls.total (Call.submits number) := by
    unfold awaitLastWorker
    split
    · have changed := put found .announcing
      rw [stands, ← calls] at changed
      rw [← calls]
      exact changed
    · have changed := put found (.sleeping .lastWorker)
      rw [stands, ← calls] at changed
      rw [← calls]
      exact changed
  have declined {call : Nat} {stage : Call} (fallsBack : Bool)
      (found : system.calls.get? call = some stage) (stands : stage.submits number = 0) :
      (system.decline call fallsBack).1.calls.total (Call.submits number) +
          (system.decline call fallsBack).2.countP (Event.settles number) =
        system.calls.total (Call.submits number) +
          (system.decline call fallsBack).2.count (.created number) := by
    cases fallsBack with
    | true =>
      have changed := put found .fallingBack
      rw [stands] at changed
      exact changed
    | false =>
      have changed := removed found
      rw [stands] at changed
      exact changed
  cases made with
  | invoked request => exact Register.total_add _ _ _
  | illegal call request operation found | started call found | retimed call timeout found
  | claimed call fallsBack worker remaining found | passedOn call refusal found =>
    exact removed found
  | restful call found =>
    rcases found with found | found <;> exact removed found
  | turnedDown call fallsBack found | declined call fallsBack found =>
    exact declined fallsBack found rfl
  | created call fallsBack found =>
    have changed := put found (.submitting fallsBack system.workers.length)
    simpa [create, setCall, Event.settles, List.count_singleton, Call.submits] using changed
  | taken call fallsBack worker found =>
    have changed := put found (.countingSpawned fallsBack worker)
    simpa [setCall, Call.submits] using changed
  | refused call fallsBack worker refusal found =>
    have changed := put found (.countingRefused fallsBack worker refusal)
    simpa [setCall, Call.submits] using changed
  | counted call fallsBack count event stage found answered =>
    have changed := put found (.countingDeclined fallsBack)
    rcases answered with ⟨worker, rfl, rfl, rfl⟩ | ⟨worker, refusal, rfl, rfl, rfl⟩ <;>
      simpa [setCall, System.count, Event.settles, Call.submits, List.countP_singleton]
        using changed
  | brokenOff call stage loop? found has =>
    have changed := removed found
    cases stage with
    | submitting | fallingBack =>
      cases has
      simpa [Event.settles, Call.submits, List.countP_singleton] using changed
    | _ => cases has
  | joined call found =>
    rcases found with ⟨found, _⟩ | ⟨found, _⟩ <;> exact put found (.sleeping .stopped)
  | stopBegun call found => exact looked system.retireAll.1 rfl found rfl
  | looked call found => exact looked _ rfl found rfl
  | announced call found =>
    have held : system.announce.calls.get? call = some .announcing := by
      simp [announce, found, Call.wake]
    exact (Register.total_remove (Call.submits number) held).trans woken
  | departed number epoch departure => cases departure <;> exact woken
  | abandoned unused active =>
    rw [letGo_calls active, letGo_of_active active]
    rfl
  | _ => rfl

/-- Every loop that was created is submitted by one call, or its submission has ended. -/
theorem play_submissions {idleTimeout : Option Millis} {moves : List Move}
    (run : (fresh capacity idleTimeout).play moves = some result) (number : WorkerId) :
    result.1.calls.total (Call.submits number) + result.2.countP (Event.settles number) =
      if number < result.1.workers.length then 1 else 0 := by
  let invariant (system : System) (events : List Event) : Prop :=
    system.calls.total (Call.submits number) + events.countP (Event.settles number) =
      events.count (.created number)
  rw [← count_created_of_play run]
  refine (play_sections invariant [] moves ?_ (.fresh capacity idleTimeout) rfl run).2
  rintro move - system events result - before made
  have change := submissions_of_section made number
  simp only [invariant, List.countP_append, List.count_append] at before ⊢
  omega

/-- No call enters twice. -/
theorem entering_of_section (made : Section system move result) {call : Nat}
    (known : call < system.calls.next) {request : Request}
    (enters : result.1.calls.get? call = some (.entering request)) :
    system.calls.get? call = some (.entering request) := by
  have foreign : move.isFor call = false := by
    refine Bool.eq_false_iff.mpr fun own => ?_
    exact (goesOn_of_own made own enters).1 request rfl
  rcases get?_of_foreign made foreign with same | ⟨_, woken⟩ | ⟨begins, _⟩
  · exact same.symm.trans enters
  · obtain ⟨before, found, same⟩ := Option.map_eq_some_iff.mp (woken.symm.trans enters)
    cases before <;> simp_all [Call.wake]
  · exact absurd begins (Nat.ne_of_lt known)

/-- An offer that was not accepted when it was decided, and is not accepted later. -/
structure Declining (system : System) (events : List Event) (call : Nat) (fallsBack : Bool) :
    Prop where
  known : call < system.calls.next
  decided : ∀ request, system.calls.get? call ≠ some (.entering request)
  offers : ∀ stage, system.calls.get? call = some stage → stage.Serves (.offer fallsBack)
  answered : ∀ answer, .returned call answer ∈ events →
    answer ≠ .accepted ∧ answer.Suits (.offer fallsBack)

namespace Declining

variable {events : List Event} {call : Nat} {fallsBack : Bool}

/-- What a section says to a call suits it, and it accepts nothing that was decided before. -/
theorem answered_of_section (declining : system.Declining events call fallsBack)
    (made : Section system move result) {answer : Answer}
    (told : .returned call answer ∈ result.2) :
    answer ≠ .accepted ∧ answer.Suits (.offer fallsBack) := by
  have replied : (call, answer) ∈ result.2.filterMap Event.reply? :=
    List.mem_filterMap.mpr ⟨_, told, rfl⟩
  constructor
  · rintro rfl
    obtain ⟨⟨own, -, found⟩, -⟩ := tells_of_section made _ told
    exact declining.decided _ found
  · by_cases begun : ∃ request, move = .invoke request
    · obtain ⟨request, rfl⟩ := begun
      cases made
      simp [Event.reply?] at replied
    · cases exchange_of_section made fun request same => begun ⟨request, same⟩ with
      | goesOn calls silent => simp [silent] at replied
      | answered own stage given found gone others said suits =>
        obtain ⟨rfl, rfl⟩ : call = own ∧ answer = given := by simpa [said] using replied
        exact suits _ (declining.offers stage found)
      | brokenOff own stage loop? found has gone others only =>
        simp [only, Event.reply?] at replied

/-- A call that goes on goes on with its offer. -/
theorem offers_of_section (declining : system.Declining events call fallsBack)
    (made : Section system move result) {later : Call}
    (found : result.1.calls.get? call = some later) : later.Serves (.offer fallsBack) := by
  have goesOn (follows : Follows (system.calls.get? call) (result.1.calls.get? call)) :
      later.Serves (.offer fallsBack) := by
    rw [found] at follows
    generalize held : system.calls.get? call = before at follows
    cases follows with
    | goesOn stage _ serves => exact serves _ (declining.offers stage held)
  by_cases begun : ∃ request, move = .invoke request
  · obtain ⟨request, rfl⟩ := begun
    cases made
    simp only [Register.get?_add, Nat.ne_of_lt declining.known, if_false] at found
    exact declining.offers later found
  · cases exchange_of_section made fun request same => begun ⟨request, same⟩ with
    | goesOn calls silent => exact goesOn (calls call)
    | answered own stage given held gone others said suits =>
      by_cases same : call = own
      · subst same
        cases gone.symm.trans found
      · exact goesOn (others call same)
    | brokenOff own stage loop? held has gone others =>
      by_cases same : call = own
      · subst same
        cases gone.symm.trans found
      · exact goesOn (others call same)

/-- A call that was not accepted is not accepted in any later run. -/
theorem of_play (declining : system.Declining [] call fallsBack)
    (order : InOrder capacity system) {moves : List Move}
    (run : system.play moves = some result) : result.1.Declining result.2 call fallsBack := by
  let invariant (system : System) (events : List Event) : Prop :=
    system.Declining events call fallsBack
  refine (play_sections invariant [] moves ?_ order declining run).2
  rintro move - system events result - declining made
  constructor
  · exact Nat.lt_of_lt_of_le declining.known (next_le_of_section made)
  · intro request enters
    exact declining.decided request (entering_of_section made declining.known enters)
  · intro stage found
    exact declining.offers_of_section made found
  · intro answer told
    rcases List.mem_append.mp told with earlier | now
    · exact declining.answered answer earlier
    · exact declining.answered_of_section made now

end Declining

/-- The call brings a task, and nothing is decided about it. -/
def Offers (system : System) (call : Nat) (fallsBack : Bool) : Prop :=
  system.calls.get? call = some (.entering (.offer fallsBack))

/-- What a declined task leaves behind: it is counted, and goes back to the caller or on to the
executor. -/
def turnedDown (system : System) (call : Nat) (fallsBack : Bool) : System × List Event :=
  ({ system with
      tally := system.tally.add .declined
      calls :=
        if fallsBack then system.calls.put call .fallingBack else system.calls.remove call },
    [if fallsBack then .fellBack call else .returned call (.declined call)])

/-- Declining does nothing else. -/
theorem decline_eq_turnedDown (system : System) (call : Nat) (fallsBack : Bool) :
    system.decline call fallsBack = system.turnedDown call fallsBack := by
  cases fallsBack <;> rfl

section Deciding

variable {call : Nat} {fallsBack : Bool} (offers : system.Offers call fallsBack)
include offers

/-- An offer that is about to be decided has a number that was given out. -/
theorem Offers.known : call < system.calls.next := Register.lt_of_get? offers

variable (running : system.roster.phase = .running)
include running

/-- A worker that is parked gets the task. -/
theorem Offers.handed (order : InOrder capacity system) {worker : WorkerId}
    {remaining : List WorkerId} (parked : system.roster.parked = worker :: remaining) :
    ∃ next, system.step (.proceed call) =
        some (next, [.claimed worker call, .returned call .accepted]) ∧
      next = { system with
        roster := { system.roster with
          parked := remaining
          pending := system.roster.pending + 1 }
        tally := system.tally.add .accepted
        workers := system.workers.modify worker (Worker.receive (.task call))
        calls := system.calls.remove call } ∧
      next.slot? worker = some (some (.task call)) := by
  have ready : system.slot? worker = some none :=
    order.parkedReady worker (parked ▸ List.mem_cons_self)
  refine ⟨_, step_of_section (.claimed call fallsBack worker remaining offers running parked ready),
    rfl, ?_⟩
  obtain ⟨⟨epoch, stage⟩, held, empty⟩ := Option.bind_eq_some_iff.mp ready
  obtain ⟨idleTimeout, duty, rfl⟩ := Worker.serving_of_slot empty
  simp [System.count, slot?, held, Worker.receive, Worker.slot?]

variable (nobody : system.roster.parked = [])
include nobody

omit running in
/-- Without a parked worker and without room nothing but declining is left. -/
theorem Offers.full (full : system.capacity ≤ system.roster.pending + system.roster.starting) :
    system.step (.proceed call) = some (system.turnedDown call fallsBack) := by
  rw [← decline_eq_turnedDown]
  refine step_of_section (.turnedDown call fallsBack offers (.inr ⟨nobody, ?_⟩))
  simpa [Roster.reserved, Roster.available, nobody] using full

variable (room : system.roster.pending + system.roster.starting < system.capacity)
include room

/-- With room a worker loop is created, and its executor is asked to take it. -/
theorem Offers.created :
    ∃ next, system.step (.proceed call) = some (next, [.created system.workers.length]) ∧
      next = { system with
        roster := { system.roster with starting := system.roster.starting + 1 }
        workers := system.workers ++ [⟨system.roster.epoch, .queued⟩]
        calls := system.calls.put call (.submitting fallsBack system.workers.length) } := by
  refine ⟨_, step_of_section (.created call fallsBack offers running nobody ?_), rfl⟩
  simpa [Roster.reserved, Roster.available, nobody] using room

/-- A loop that is refused and dropped leaves the roster as it was before the offer, and the
executor's answer about the task itself does not change it either. -/
theorem Offers.refused (refusal : Refusal) :
    ∃ last, system.play [.proceed call, .discard system.workers.length,
        .answer call (some refusal), .proceed call, .proceed call] =
        some (last, [.created system.workers.length, .discarded system.workers.length,
          .spawnFailed system.workers.length refusal,
          if fallsBack then .fellBack call else .returned call (.declined call)]) ∧
      last.roster = system.roster ∧
      last.tally = (system.tally.add .spawnFailures).add .declined ∧
      (fallsBack = true → ∀ verdict, ∃ final, last.step (.answer call verdict) =
        some (final, [.returned call ((verdict.map Answer.refused).getD .fallback)]) ∧
          final.roster = system.roster) := by
  have asked : system.calls.get? call = some (.entering (.offer fallsBack)) := offers
  obtain ⟨next, made, rfl⟩ := offers.created running nobody room
  have run : ∃ last, system.play [.proceed call, .discard system.workers.length,
      .answer call (some refusal), .proceed call, .proceed call] =
        some (last, [.created system.workers.length, .discarded system.workers.length,
          .spawnFailed system.workers.length refusal,
          if fallsBack then .fellBack call else .returned call (.declined call)]) ∧
      last.roster = system.roster ∧
      last.tally = (system.tally.add .spawnFailures).add .declined ∧
      (fallsBack = true → last.calls.get? call = some .fallingBack) := by
    simp only [play, made, Option.bind_eq_bind, Option.bind_some]
    cases fallsBack <;>
      simp [step, Register.get?_put, asked, discard, setStage, Roster.giveBack, answer,
        proceed, setCall, System.count, decline, giveBack, reply]
  obtain ⟨last, played, roster, tally, passed⟩ := run
  refine ⟨last, played, roster, tally, fun falls verdict => ?_⟩
  exact ⟨_, step_of_section (.passedOn call verdict (passed falls)), roster⟩

end Deciding

/-- Offers are decided as they should be, and the worker that parked last comes first. -/
structure OffersLatestFirst (system : System) (events : List Event) : Prop where
  /-- The parked workers are listed in the order in which they parked, the latest first. -/
  ordered : system.roster.parked.Pairwise fun later earlier =>
    parkedSince events later < parkedSince events earlier
  /-- A worker that parks comes to the head of the list. Otherwise the list only gets shorter, and
  nobody changes places. -/
  listed : ∀ move next told, system.step move = some (next, told) →
    (parkings told = [] ∧ next.roster.parked.Sublist system.roster.parked) ∨
      ∃ worker, parkings told = [worker] ∧ worker ∉ system.roster.parked ∧
        next.roster.parked = worker :: system.roster.parked
  /-- A dispatcher that does not run declines. -/
  idle : ∀ call fallsBack, system.Offers call fallsBack → system.roster.phase ≠ .running →
    system.step (.proceed call) = some (system.turnedDown call fallsBack)
  /-- The worker that parked last among those that are parked gets the task. Nothing else changes
  in the list, and no loop is created. -/
  handed : ∀ call fallsBack worker remaining, system.Offers call fallsBack →
    system.roster.phase = .running → system.roster.parked = worker :: remaining →
      (∀ other ∈ remaining, parkedSince events worker < parkedSince events other) ∧
        ∃ next, system.step (.proceed call) =
            some (next, [.claimed worker call, .returned call .accepted]) ∧
          next = { system with
            roster := { system.roster with
              parked := remaining
              pending := system.roster.pending + 1 }
            tally := system.tally.add .accepted
            workers := system.workers.modify worker (Worker.receive (.task call))
            calls := system.calls.remove call } ∧
          next.slot? worker = some (some (.task call))
  /-- Without a parked worker one loop is created if there is room for it. Its number is new, its
  epoch the current one, and whatever happens later the offer is declined. -/
  created : ∀ call fallsBack, system.Offers call fallsBack → system.roster.phase = .running →
    system.roster.parked = [] →
      system.roster.pending + system.roster.starting < system.capacity →
        .created system.workers.length ∉ events ∧
          ∃ next, system.step (.proceed call) =
              some (next, [.created system.workers.length]) ∧
            next = { system with
              roster := { system.roster with starting := system.roster.starting + 1 }
              workers := system.workers ++ [⟨system.roster.epoch, .queued⟩]
              calls := system.calls.put call (.submitting fallsBack system.workers.length) } ∧
            ∀ moves last told, next.play moves = some (last, told) →
              ∀ answer, .returned call answer ∈ told → answer.Declines call fallsBack
  /-- Without room the offer is declined and nothing else happens. -/
  full : ∀ call fallsBack, system.Offers call fallsBack → system.roster.phase = .running →
    system.roster.parked = [] →
      system.capacity ≤ system.roster.pending + system.roster.starting →
        system.step (.proceed call) = some (system.turnedDown call fallsBack)
  /-- Every loop that was created is submitted by one call, or was and is not any more. -/
  submitted : ∀ number, system.calls.total (Call.submits number) +
    events.countP (Event.settles number) = if number < system.workers.length then 1 else 0
  /-- When the executor refuses a loop and drops it, the roster is as it was before the offer, and
  nothing is said of the refusal but that the task is declined. -/
  refused : ∀ call fallsBack refusal, system.Offers call fallsBack →
    system.roster.phase = .running → system.roster.parked = [] →
      system.roster.pending + system.roster.starting < system.capacity →
        ∃ last, system.play [.proceed call, .discard system.workers.length,
            .answer call (some refusal), .proceed call, .proceed call] =
            some (last, [.created system.workers.length, .discarded system.workers.length,
              .spawnFailed system.workers.length refusal,
              if fallsBack then .fellBack call else .returned call (.declined call)]) ∧
          last.roster = system.roster ∧
          last.tally = (system.tally.add .spawnFailures).add .declined ∧
          (fallsBack = true → ∀ verdict, ∃ final, last.step (.answer call verdict) =
            some (final, [.returned call ((verdict.map Answer.refused).getD .fallback)]) ∧
              final.roster = system.roster)

/-- Whatever happens after an offer has created a loop, the offer is declined. -/
theorem declines_of_play {idleTimeout : Option Millis} {moves later : List Move} {call : Nat}
    {fallsBack : Bool} {events told : List Event} {next last : System}
    (run : (fresh capacity idleTimeout).play moves = some (system, events))
    (offers : system.Offers call fallsBack) {number : WorkerId}
    (made : system.step (.proceed call) = some (next, [.created number]))
    (calls : next.calls = system.calls.put call (.submitting fallsBack number))
    (played : next.play later = some (last, told)) {answer : Answer}
    (answered : .returned call answer ∈ told) : answer.Declines call fallsBack := by
  have asked : system.calls.get? call = some (.entering (.offer fallsBack)) := offers
  have submits : next.calls.get? call = some (.submitting fallsBack number) := by
    simp [calls, Register.get?_put, asked]
  have declining : next.Declining [] call fallsBack :=
    { known := by
        rw [calls]
        exact offers.known
      decided := fun request enters => by cases submits.symm.trans enters
      offers := by
        intro stage found
        obtain rfl := Option.some.inj (submits.symm.trans found)
        exact rfl
      answered := by simp }
  have order : InOrder capacity next := (inOrder_of_play run).of_step made
  obtain ⟨unaccepted, suits⟩ := (declining.of_play order played).answered answer answered
  cases answer with
  | declined task =>
    -- Which task goes back is known from the fate of the task.
    have whole := play_append run (play_cons_eq_some.mpr ⟨_, _, made, played, rfl⟩)
    obtain ⟨fate, keeps⟩ := inCustody_of_play whole call
    have given : Event.returned call (.declined task) ∈ events ++ ([.created number] ++ told) := by
      simp [answered]
    exact ⟨suits, (keeps.eq_declined_of_returned given).1⟩
  | accepted => exact unaccepted rfl
  | fallback | refused refusal => exact suits
  | done | illegal fault => exact suits

/-- In every run offers are decided as they should be, the latest worker first. -/
theorem play_offersLatestFirst (capacity : Nat) (idleTimeout : Option Millis) (moves : List Move)
    (system : System) (events : List Event)
    (run : (fresh capacity idleTimeout).play moves = some (system, events)) :
    system.OffersLatestFirst events := by
  have order : InOrder capacity system := inOrder_of_play run
  have byRecency : ByRecency (parkings events) system.roster.parked := play_byRecency run
  exact
    { ordered := byRecency.ranked
      listed := fun move next told made =>
        parked_of_section order (section_of_step order.parkedReady made)
      idle := by
        intro call fallsBack offers idle
        rw [← decline_eq_turnedDown]
        exact step_offer_of_not_running offers idle
      handed := by
        intro call fallsBack worker remaining offers running parked
        have ranked := byRecency.ranked
        rw [parked] at ranked
        exact ⟨(List.pairwise_cons.mp ranked).1, offers.handed running order parked⟩
      created := by
        intro call fallsBack offers running nobody room
        obtain ⟨next, made, same⟩ := offers.created running nobody room
        refine ⟨fun happened => ?_, next, made, same, fun moves last told played answer given => ?_⟩
        · have present := (created_iff_of_play run system.workers.length).mp happened
          exact Nat.lt_irrefl _ present
        · exact declines_of_play run offers made (by rw [same]) played given
      full := fun call fallsBack offers _ nobody full => offers.full nobody full
      submitted := play_submissions run
      refused := fun call fallsBack refusal offers running nobody room =>
        offers.refused running nobody room refusal }

/-- Of three workers that have parked one has had a task and parked again, and one has withdrawn
from between the others. -/
def thinnedOut : List Move :=
  [.invoke .start, .proceed 0, .invoke (.offer false), .proceed 1, .invoke (.offer false),
    .proceed 2, .invoke (.offer false), .proceed 3, .launch 0, .launch 1, .launch 2,
    .invoke (.offer false), .proceed 4, .work 2, .finish 2 .returned, .work 2, .expire 1, .work 1,
    .invoke (.offer true)]

/-- The next offer goes to the worker that parked again, and not to the one that never left. -/
theorem thinnedOut_offersLatestFirst :
    ∃ system events, (fresh 3 (some 5)).play thinnedOut = some (system, events) ∧
      parkings events = [2, 2, 1, 0] ∧ system.roster.parked = [2, 0] ∧ system.Offers 5 true ∧
      system.OffersLatestFirst events :=
  ⟨_, _, rfl, rfl, rfl, rfl, play_offersLatestFirst 3 (some 5) thinnedOut _ _ rfl⟩

end System

end Standby.Dispatcher
