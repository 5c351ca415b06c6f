import Standby.Proofs.Dispatcher.Order
import Standby.Proofs.Dispatcher.Origin
import Standby.Proofs.Register

/-!
# Calls and answers of a dispatcher

In a section at most one call is answered, in a way that suits what it asked, and all
others go on with what they asked. The tally agrees with the answers: what was accepted was
accepted once, and every other offer was counted when its task was given back or passed on
to the executor, whose answer may still be missing or never come. A call can also be broken
off under the executor, and is then told nothing.
-/

namespace Standby.Dispatcher

/-- The call that an event answers, and the answer. -/
def Event.reply? : Event → Option (Nat × Answer)
  | .returned call answer => some (call, answer)
  | _ => none

/-- A call at this stage can have been made with this request. -/
def Call.Serves : Call → Request → Prop
  | .entering own, request => own = request
  | .submitting own _, .offer fallsBack | .countingSpawned own _, .offer fallsBack
  | .countingRefused own _ _, .offer fallsBack | .countingDeclined own, .offer fallsBack =>
    own = fallsBack
  | .fallingBack, .offer fallsBack => fallsBack = true
  | .sleeping _, .stop | .woken _, .stop | .announcing, .stop => True
  | _, _ => False

/-- A call with this request can be answered like this. -/
def Answer.Suits : Answer → Request → Prop
  | .done, .start | .done, .stop | .done, .setIdleTimeout _ | .illegal _, .start
  | .illegal _, .setIdleTimeout _ | .accepted, .offer _ => True
  | .declined _, .offer fallsBack => fallsBack = false
  | .fallback, .offer fallsBack | .refused _, .offer fallsBack => fallsBack = true
  | _, _ => False

/-- A call goes on with what it asked, or is absent before and after. -/
inductive Follows : Option Call → Option Call → Prop where
  | absent : Follows none none
  | goesOn (stage later : Call) (serves : ∀ request, stage.Serves request → later.Serves request) :
    Follows (some stage) (some later)

/-- What becomes of the calls in a section that is not the beginning of one, and what they
are told. -/
inductive Exchange (system next : System) (events : List Event) : Prop where
  | goesOn (calls : ∀ call, Follows (system.calls.get? call) (next.calls.get? call))
      (silent : events.filterMap Event.reply? = [])
  | answered (call : Nat) (stage : Call) (answer : Answer)
      (found : system.calls.get? call = some stage) (gone : next.calls.get? call = none)
      (others : ∀ other, other ≠ call →
        Follows (system.calls.get? other) (next.calls.get? other))
      (said : events.filterMap Event.reply? = [(call, answer)])
      (suits : ∀ request, stage.Serves request → answer.Suits request)
  | brokenOff (call : Nat) (stage : Call) (loop? : Option WorkerId)
      (found : system.calls.get? call = some stage) (has : stage.submission? = some loop?)
      (gone : next.calls.get? call = none)
      (others : ∀ other, other ≠ call →
        Follows (system.calls.get? other) (next.calls.get? other))
      (told : events = [.brokenOff call loop?])

/-- A call goes on unchanged. -/
theorem Follows.refl (held : Option Call) : Follows held held := by
  cases held with
  | none => exact .absent
  | some stage => exact .goesOn stage stage fun _ serves => serves

/-- A call that wakes goes on. -/
theorem Follows.wake (held : Option Call) : Follows held (held.map Call.wake) := by
  cases held with
  | none => exact .absent
  | some stage =>
    refine .goesOn stage _ fun request serves => ?_
    cases stage <;> cases request <;> exact serves

namespace System

variable {system next : System} {events : List Event}

/-- Calls are kept. -/
theorem follows_of_calls (calls : next.calls = system.calls) (call : Nat) :
    Follows (system.calls.get? call) (next.calls.get? call) := by
  rw [calls]
  exact .refl _

/-- All sleeping calls wake. -/
theorem follows_of_wake (calls : next.calls = system.calls.map fun _ call => call.wake)
    (call : Nat) : Follows (system.calls.get? call) (next.calls.get? call) := by
  rw [calls, Register.get?_map]
  exact .wake _

/-- One call goes on with what it asked. -/
theorem follows_of_put {call : Nat} {stage : Call}
    (found : system.calls.get? call = some stage) (later : Call)
    (calls : next.calls = system.calls.put call later)
    (serves : ∀ request, stage.Serves request → later.Serves request) (other : Nat) :
    Follows (system.calls.get? other) (next.calls.get? other) := by
  rw [calls, Register.get?_put]
  by_cases here : other = call
  · subst here
    rw [if_pos rfl, found]
    exact .goesOn stage later serves
  · rw [if_neg here]
    exact .refl _

/-- A call is answered and removed. -/
theorem exchange_of_remove {call : Nat} {stage : Call}
    (found : system.calls.get? call = some stage)
    (calls : next.calls = system.calls.remove call) (answer : Answer)
    (said : events.filterMap Event.reply? = [(call, answer)])
    (suits : ∀ request, stage.Serves request → answer.Suits request) :
    Exchange system next events := by
  refine .answered call stage answer found ?_ (fun other different => ?_) said suits
  · rw [calls, Register.get?_remove, if_pos rfl]
  · rw [calls, Register.get?_remove, if_neg different]
    exact .refl _

/-- A task is given back or passed on. -/
theorem exchange_of_decline {call : Nat} {stage : Call} {fallsBack : Bool}
    (found : system.calls.get? call = some stage)
    (offers : ∀ request, stage.Serves request → request = .offer fallsBack) :
    Exchange system (system.decline call fallsBack).1 (system.decline call fallsBack).2 := by
  cases fallsBack with
  | true =>
    refine .goesOn (follows_of_put found .fallingBack rfl fun request serves => ?_) rfl
    rw [offers request serves]
    exact rfl
  | false =>
    refine exchange_of_remove found rfl (.declined call) rfl fun request serves => ?_
    rw [offers request serves]
    exact rfl

/-- Whoever looks for the last worker goes on to stop. -/
theorem exchange_of_awaitLastWorker {call : Nat} {stage : Call}
    (found : system.calls.get? call = some stage)
    (stops : ∀ request, stage.Serves request → request = .stop) (looking : System)
    (calls : looking.calls = system.calls) (silent : events.filterMap Event.reply? = []) :
    Exchange system (looking.awaitLastWorker call) events := by
  refine .goesOn (fun other => ?_) silent
  unfold awaitLastWorker
  split
  · refine follows_of_put found .announcing
      (by simp [setCall, setPhase, calls]) (fun request serves => ?_) other
    rw [stops request serves]
    exact trivial
  · refine follows_of_put found (.sleeping .lastWorker)
      (by simp [setCall, calls]) (fun request serves => ?_) other
    rw [stops request serves]
    exact trivial

/-- Every section but the beginning of a call answers one call at most, as suits it. -/
theorem exchange_of_section {move : Move} {result : System × List Event}
    (made : Section system move result) (begun : ∀ request, move ≠ .invoke request) :
    Exchange system result.1 result.2 := by
  cases made with
  | invoked request => exact absurd rfl (begun request)
  | illegal call request operation found needs busy =>
    refine exchange_of_remove found rfl _ rfl fun asked serves => ?_
    obtain rfl : request = asked := serves
    rcases needs with rfl | ⟨timeout, rfl⟩ <;> exact trivial
  | started call found | retimed call timeout found =>
    refine exchange_of_remove found rfl _ rfl fun asked serves => ?_
    cases serves
    exact trivial
  | turnedDown call fallsBack found =>
    exact exchange_of_decline found fun asked serves => serves.symm
  | claimed call fallsBack worker remaining found =>
    refine exchange_of_remove found rfl .accepted rfl fun asked serves => ?_
    cases serves
    exact trivial
  | created call fallsBack found =>
    refine .goesOn (follows_of_put found _ rfl fun asked serves => ?_) rfl
    cases serves
    exact rfl
  | counted call fallsBack count event stage found answered =>
    rcases answered with ⟨worker, rfl, rfl, rfl⟩ | ⟨worker, refusal, rfl, rfl, rfl⟩
    · refine .goesOn (follows_of_put found _ rfl fun asked serves => ?_) rfl
      cases asked <;> exact serves
    · refine .goesOn (follows_of_put found _ rfl fun asked serves => ?_) rfl
      cases asked <;> exact serves
  | declined call fallsBack found =>
    refine exchange_of_decline found fun asked serves => ?_
    cases asked with
    | offer own => exact congrArg Request.offer (Eq.symm serves)
    | _ => cases serves
  | restful call found =>
    rcases found with found | found
    · refine exchange_of_remove found rfl .done rfl fun asked serves => ?_
      cases serves
      exact trivial
    · refine exchange_of_remove found rfl .done rfl fun asked serves => ?_
      cases asked <;> trivial
  | joined call found =>
    rcases found with ⟨found, _⟩ | ⟨found, _⟩
    · refine .goesOn (follows_of_put found _ rfl fun asked serves => ?_) rfl
      cases serves
      exact trivial
    · refine .goesOn (follows_of_put found _ rfl fun asked serves => ?_) rfl
      cases asked <;> exact serves
  | stopBegun call found =>
    exact exchange_of_awaitLastWorker found (fun asked serves => serves.symm) _ rfl
      (by simp [retireAll, Event.reply?])
  | looked call found =>
    refine exchange_of_awaitLastWorker found (fun asked serves => ?_) _ rfl rfl
    cases asked <;> first | rfl | cases serves
  | announced call found =>
    refine .answered call .announcing .done found ?_ (fun other different => ?_) rfl
      fun asked serves => ?_
    · simp [reply, Register.get?_remove]
    · simp only [reply, announce, Register.get?_remove, if_neg different, Register.get?_map]
      exact .wake _
    · cases asked <;> trivial
  | taken call fallsBack worker found | refused call fallsBack worker refusal found =>
    refine .goesOn (follows_of_put found _ rfl fun asked serves => ?_) rfl
    cases asked <;> exact serves
  | passedOn call refusal found =>
    refine exchange_of_remove found rfl _ rfl fun asked serves => ?_
    cases asked with
    | offer fallsBack => cases refusal <;> exact serves
    | _ => cases serves
  | brokenOff call stage loop? found has =>
    refine .brokenOff call stage loop? found has ?_ (fun other different => ?_) rfl
    · simp [Register.get?_remove]
    · rw [Register.get?_remove, if_neg different]
      exact .refl _
  | departed number epoch departure found =>
    cases departure <;> exact .goesOn (follows_of_wake rfl) rfl
  | abandoned unused active =>
    refine .goesOn (follows_of_calls (letGo_calls active)) ?_
    simp [letGo_of_active active, retireAll, Event.reply?]
  | stale | registered | turnedAway | discarded | forgotten | began | told | expired
  | withdrawn | kept | ended | failed | reported | spilled | broke | parkedAgain | leftAfterTask
  | leftRetired | idled | letGo => exact .goesOn (follows_of_calls rfl) rfl

end System

/-- The call that an event begins, and what it asks. -/
def Event.begun? : Event → Option (Nat × Request)
  | .invoked call request => some (call, request)
  | _ => none

/-- Only a move that begins a call tells of one. -/
theorem System.begun_of_section {system : System} {move : Move} {result : System × List Event}
    (made : Section system move result) (begun : ∀ request, move ≠ .invoke request) :
    result.2.filterMap Event.begun? = [] := by
  refine List.filterMap_eq_nil_iff.mpr fun event happened => ?_
  cases event with
  | invoked call request => exact absurd (move_of_event made happened rfl) (begun request)
  | _ => rfl

/-- A task was accepted. -/
def Event.accepts : Event → Bool
  | .returned _ .accepted => true
  | _ => false

/-- A task was given back, or the executor has answered about it. -/
def Event.declines : Event → Bool
  | .returned _ (.declined _) | .returned _ .fallback | .returned _ (.refused _) => true
  | _ => false

/-- A call was broken off while the executor had its task. -/
def Event.leavesUnanswered : Event → Bool
  | .brokenOff _ none => true
  | _ => false

/-- The executor has not answered about the task of the call. -/
def Call.falling : Call → Nat
  | .fallingBack => 1
  | _ => 0

namespace System

variable {system next : System} {events new : List Event}

/-- The tally agrees with the answers. -/
structure Tallied (system : System) (events : List Event) : Prop where
  accepted : system.tally.accepted = events.countP Event.accepts
  declined : system.tally.declined = events.countP Event.declines +
    events.countP Event.leavesUnanswered + system.calls.total Call.falling

namespace Tallied

/-- A new dispatcher has answered nobody. -/
theorem fresh (capacity : Nat) (idleTimeout : Option Duration.Millis) :
    (System.fresh capacity idleTimeout).Tallied [] := ⟨rfl, rfl⟩

/-- Nobody is answered, and no task passed on. -/
theorem keep (tallied : system.Tallied events)
    (accepted : next.tally.accepted = system.tally.accepted)
    (declined : next.tally.declined = system.tally.declined)
    (calls : next.calls.total Call.falling = system.calls.total Call.falling)
    (quiet : new.countP Event.accepts = 0 ∧ new.countP Event.declines = 0 ∧
      new.countP Event.leavesUnanswered = 0) :
    next.Tallied (events ++ new) where
  accepted := by rw [accepted, List.countP_append, quiet.1, tallied.accepted]; rfl
  declined := by
    rw [declined, List.countP_append, List.countP_append, quiet.2.1, quiet.2.2, calls,
      tallied.declined]
    rfl

/-- A call goes on, and no task is passed on. -/
theorem put (tallied : system.Tallied events) {call : Nat} {stage : Call}
    (found : system.calls.get? call = some stage) {later : Call}
    (calls : next.calls = system.calls.put call later) (same : later.falling = stage.falling)
    (accepted : next.tally.accepted = system.tally.accepted)
    (declined : next.tally.declined = system.tally.declined)
    (quiet : new.countP Event.accepts = 0 ∧ new.countP Event.declines = 0 ∧
      new.countP Event.leavesUnanswered = 0) :
    next.Tallied (events ++ new) := by
  refine tallied.keep accepted declined ?_ quiet
  have changed : (system.calls.put call later).total Call.falling + stage.falling =
      system.calls.total Call.falling + later.falling := Register.total_put _ found
  rw [calls]
  omega

/-- A call returns or is broken off. -/
theorem remove (tallied : system.Tallied events) {call : Nat} {stage : Call}
    (found : system.calls.get? call = some stage)
    (calls : next.calls = system.calls.remove call)
    (accepted : next.tally.accepted = system.tally.accepted + new.countP Event.accepts)
    (declined : next.tally.declined + stage.falling =
      system.tally.declined + (new.countP Event.declines +
        new.countP Event.leavesUnanswered)) : next.Tallied (events ++ new) := by
  have changed := Register.total_remove Call.falling found
  have before := tallied.declined
  refine ⟨?_, ?_⟩
  · rw [accepted, List.countP_append, tallied.accepted]
  · rw [List.countP_append, List.countP_append, calls]
    omega

/-- A task is given back or passed on. -/
theorem decline (tallied : system.Tallied events) {call : Nat} {stage : Call}
    (found : system.calls.get? call = some stage) (stands : stage.falling = 0)
    (fallsBack : Bool) : (system.decline call fallsBack).1.Tallied
      (events ++ (system.decline call fallsBack).2) := by
  cases fallsBack with
  | true =>
    have changed : (system.calls.put call .fallingBack).total Call.falling + stage.falling =
        system.calls.total Call.falling + 1 := Register.total_put _ found
    have before := tallied.declined
    refine ⟨?_, ?_⟩
    · simpa [System.decline, giveBack, setCall, System.count, Tally.add, Tally.of, Tally.get,
        List.countP_append, Event.accepts] using tallied.accepted
    · show system.tally.declined + 1 = (events ++ [Event.fellBack call]).countP Event.declines +
        (events ++ [Event.fellBack call]).countP Event.leavesUnanswered +
          (system.calls.put call .fallingBack).total Call.falling
      simp only [List.countP_append, List.countP_singleton, Event.declines,
        Event.leavesUnanswered, Bool.false_eq_true, if_false]
      omega
  | false =>
    exact tallied.remove found rfl rfl (by rw [stands]; rfl)

/-- Looking for the last worker passes nothing on. -/
theorem awaitLastWorker (tallied : system.Tallied events) {call : Nat} {stage : Call}
    (found : system.calls.get? call = some stage) (stands : stage.falling = 0)
    (looking : System) (calls : looking.calls = system.calls)
    (tally : looking.tally = system.tally)
    (quiet : new.countP Event.accepts = 0 ∧ new.countP Event.declines = 0 ∧
      new.countP Event.leavesUnanswered = 0) :
    (looking.awaitLastWorker call).Tallied (events ++ new) := by
  unfold System.awaitLastWorker
  split
  · have put : ((looking.setPhase .stopped).setCall call .announcing).calls =
        system.calls.put call .announcing := by rw [← calls]; rfl
    exact tallied.put found put stands.symm (congrArg _ tally) (congrArg _ tally) quiet
  · have put : (looking.setCall call (.sleeping .lastWorker)).calls =
        system.calls.put call (.sleeping .lastWorker) := by rw [← calls]; rfl
    exact tallied.put found put stands.symm (congrArg _ tally) (congrArg _ tally) quiet

/-- Waking calls passes nothing on. -/
theorem announce (tallied : system.Tallied events) : system.announce.Tallied events where
  accepted := tallied.accepted
  declined := by
    have same : (system.calls.map fun _ call => call.wake).total Call.falling =
        system.calls.total Call.falling :=
      Register.total_map _ _ fun _ call => by cases call <;> rfl
    show system.tally.declined = _
    rw [tallied.declined, ← same]
    rfl

/-- Every section keeps the tally in agreement with the answers. -/
theorem of_section (tallied : system.Tallied events) {move : Move}
    {result : System × List Event} (made : Section system move result) :
    result.1.Tallied (events ++ result.2) := by
  cases made with
  | invoked request => exact tallied.keep rfl rfl (Register.total_add _ _ _) ⟨rfl, rfl, rfl⟩
  | illegal call request operation found | started call found | retimed call timeout found =>
    exact tallied.remove found rfl rfl rfl
  | restful call found =>
    rcases found with found | found <;> exact tallied.remove found rfl rfl rfl
  | turnedDown call fallsBack found | declined call fallsBack found =>
    exact tallied.decline found rfl fallsBack
  | claimed call fallsBack worker remaining found => exact tallied.remove found rfl rfl rfl
  | created call fallsBack found | taken call fallsBack worker found
  | refused call fallsBack worker refusal found =>
    exact tallied.put found rfl rfl rfl rfl ⟨rfl, rfl, rfl⟩
  | counted call fallsBack count event stage found answered =>
    rcases answered with ⟨worker, rfl, rfl, rfl⟩ | ⟨worker, refusal, rfl, rfl, rfl⟩ <;>
      exact tallied.put found rfl rfl rfl rfl ⟨rfl, rfl, rfl⟩
  | joined call found =>
    rcases found with ⟨found, _⟩ | ⟨found, _⟩ <;>
      exact tallied.put found rfl rfl rfl rfl ⟨rfl, rfl, rfl⟩
  | stopBegun call found => exact tallied.awaitLastWorker found rfl _ rfl rfl ⟨rfl, rfl, rfl⟩
  | looked call found => exact tallied.awaitLastWorker found rfl _ rfl rfl ⟨rfl, rfl, rfl⟩
  | announced call found =>
    have held : system.announce.calls.get? call = some .announcing := by
      simp [System.announce, found, Call.wake]
    exact tallied.announce.remove held rfl rfl rfl
  | passedOn call refusal found =>
    cases refusal <;> exact tallied.remove found rfl rfl rfl
  | brokenOff call stage loop? found has =>
    refine tallied.remove found rfl rfl ?_
    cases stage with
    | submitting | fallingBack =>
      cases has
      rfl
    | _ => cases has
  | departed number epoch departure found =>
    cases departure <;> exact tallied.announce.keep rfl rfl rfl ⟨rfl, rfl, rfl⟩
  | abandoned unused active =>
    rw [letGo_of_active active]
    dsimp only
    split <;> exact tallied.keep rfl rfl rfl ⟨rfl, rfl, rfl⟩
  | failed | idled => exact tallied.keep rfl rfl rfl ⟨rfl, rfl, rfl⟩
  | stale | registered | turnedAway | discarded | forgotten | began | told | expired
  | withdrawn | kept | ended | reported | spilled | broke | parkedAgain | leftAfterTask
  | leftRetired | letGo => exact tallied.keep rfl rfl rfl ⟨rfl, rfl, rfl⟩

end Tallied

end System

end Standby.Dispatcher
