import Standby.Proofs.Dispatcher.Lifecycle
import Standby.Proofs.Dispatcher.Origin
import Standby.Proofs.Dispatcher.Passage

/-!
# The end of a stop

Who starts a dispatcher and who has stopped it. Without a call to start it a stopped
dispatcher stays stopped. A call that is about to announce that the dispatcher is stopped has
just found it so, and any other call to stop it is only answered while it is stopped.
-/

namespace Standby.Dispatcher.System

variable {capacity : Nat} {system : System} {move : Move} {result : System × List Event}

/-- Only a call to start the dispatcher starts it. -/
theorem entering_of_start (made : Section system move result) {event : Event}
    (happened : event ∈ result.2) (starts : event.isStart = true) :
    ∃ call, system.calls.get? call = some (.entering .start) := by
  cases made with
  | started call found => exact ⟨call, found⟩
  | turnedDown call fallsBack | declined call fallsBack =>
    cases fallsBack <;> simp [decline, giveBack, reply] at happened <;> subst happened <;>
      cases starts
  | counted call fallsBack count event stage found answered =>
    rcases answered with ⟨_, _, _, rfl⟩ | ⟨_, _, _, _, rfl⟩ <;>
      simp at happened <;> subst happened <;> cases starts
  | departed number epoch departure =>
    cases departure <;> simp [depart] at happened <;> subst happened <;> cases starts
  | abandoned unused active =>
    simp [letGo_of_active active, retireAll] at happened
    subst happened
    cases starts
  | claimed | announced | parkedAgain =>
    simp [handOver, reply] at happened
    rcases happened with rfl | rfl <;> cases starts
  | _ =>
    simp [reply, retireAll] at happened <;> subst happened <;> cases starts

/-- Without a call to start it a stopped dispatcher stays stopped. -/
theorem stopped_of_nobody (order : InOrder capacity system)
    (stopped : system.roster.phase = .stopped) (made : Section system move result)
    (nobody : ∀ call, system.calls.get? call ≠ some (.entering .start)) :
    result.1.roster.phase = .stopped := by
  refine stopped_of_section order stopped made fun event happened => ?_
  refine Bool.eq_false_iff.mpr fun starts => ?_
  obtain ⟨call, found⟩ := entering_of_start made happened starts
  exact nobody call found

/-- Whoever is about to announce the end of a stop was so before, or has just stopped the
dispatcher. -/
theorem announcing_of_section (made : Section system move result) {call : Nat}
    (found : result.1.calls.get? call = some .announcing) :
    system.calls.get? call = some .announcing ∨ result.1.roster.phase = .stopped := by
  cases own : move.isFor call with
  | true => exact .inr ((goesOn_of_own made own found).2 rfl)
  | false =>
    left
    rcases get?_of_foreign made own with same | ⟨_, woken⟩ | ⟨_, request, _, begun⟩
    · exact same.symm.trans found
    · obtain ⟨before, stands, same⟩ := Option.map_eq_some_iff.mp (woken.symm.trans found)
      cases before <;> simp_all [Call.wake]
    · cases begun.symm.trans found

/-- Few sections answer a call that it is done: the dispatcher is found stopped, the end of a
stop is announced, or the call was not for a stop. -/
theorem stage_of_done (made : Section system move result) {call : Nat} {stage : Call}
    (found : system.calls.get? call = some stage) (told : .returned call .done ∈ result.2) :
    stage = .announcing ∨ system.roster.phase = .stopped ∨ ¬ stage.Serves .stop := by
  obtain ⟨_, held, answered⟩ := answered_of_returned made told
  obtain rfl := Option.some.inj (found.symm.trans held)
  cases answered with
  | changed request needs =>
    refine .inr (.inr fun serves => ?_)
    rcases needs with rfl | ⟨timeout, rfl⟩ <;> cases serves
  | restful stage asks stopped => exact .inr (.inl stopped)
  | announced => exact .inl rfl

/-- A call that stops the dispatcher is answered when it has announced the end of the stop,
or while the dispatcher is stopped. -/
theorem stopped_of_answered (made : Section system move result) {call : Nat} {stage : Call}
    (found : system.calls.get? call = some stage) (serves : stage.Serves .stop)
    (gone : result.1.calls.get? call = none) :
    stage = .announcing ∨ system.roster.phase = .stopped := by
  have begun (request : Request) : move ≠ .invoke request := by
    rintro rfl
    cases made
    simp only [Register.get?_add] at gone
    split at gone
    · cases gone
    · cases found.symm.trans gone
  have stands (follows : Follows (system.calls.get? call) (result.1.calls.get? call)) : False := by
    rw [found, gone] at follows
    cases follows
  cases exchange_of_section made begun with
  | goesOn calls silent => exact (stands (calls call)).elim
  | answered own held answer present absent others said suits =>
    obtain rfl : call = own :=
      Decidable.byContradiction fun different => stands (others call different)
    obtain rfl : stage = held := Option.some.inj (found.symm.trans present)
    obtain rfl : answer = .done := by
      have suited := suits .stop serves
      cases answer <;> first | rfl | cases suited
    have told : .returned call .done ∈ result.2 := by
      have member : (call, Answer.done) ∈ result.2.filterMap Event.reply? := by simp [said]
      obtain ⟨event, happened, replies⟩ := List.mem_filterMap.mp member
      cases event with
      | returned other answer =>
        obtain ⟨rfl, rfl⟩ : other = call ∧ answer = .done := by simpa [Event.reply?] using replies
        exact happened
      | _ => cases replies
    rcases stage_of_done made found told with announces | stopped | other
    · exact .inl announces
    · exact .inr stopped
    · exact absurd serves other
  | brokenOff own held loop? present has absent others told =>
    obtain rfl : call = own :=
      Decidable.byContradiction fun different => stands (others call different)
    -- A call for a stop submits nothing.
    obtain rfl : stage = held := Option.some.inj (found.symm.trans present)
    cases stage <;> first | exact False.elim serves | cases has

end Standby.Dispatcher.System
