import Standby.Proofs.Dispatcher.Crew

/-!
# Idle timeouts of a dispatcher

An idle timeout of zero means none, whoever asks for it, so no dispatcher ever has one. The
idle timeout is set only while the dispatcher is stopped, and then nobody serves. Whoever
serves has therefore the idle timeout that the dispatcher has.
-/

namespace Standby.Dispatcher

open Duration (Millis)

/-- A worker that serves at this stage has this idle timeout. -/
def Stage.TimedBy (idleTimeout : Option Millis) : Stage → Prop
  | .serving own _ _ => own = idleTimeout
  | _ => True

/-- A worker that advances keeps its idle timeout, and one that registers takes that of the
dispatcher. -/
theorem Advance.timedBy {roster : Roster} {number : WorkerId} {epoch : Nat} {own : Bool}
    {before after : Stage} {events : List Event}
    (advance : Advance roster number epoch own before after events)
    (timed : before.TimedBy roster.idleTimeout) : after.TimedBy roster.idleTimeout := by
  cases advance with
  | registered => rfl
  | claimed | began | told | expired | kept | ended | failed | reported | parkedAgain => exact timed
  | stale | turnedAway | discarded | withdrawn | broke | leftAfterTask | leftRetired
  | announcedAfterTask | announcedRetired | announcedIdle | idled => trivial

namespace System

variable {capacity : Nat} {system : System} {move : Move} {result : System × List Event}

/-- Any idle timeout but zero is taken as it is. -/
theorem idleTimeout?_eq (timeout : Option Millis) :
    idleTimeout? timeout = if timeout = some 0 then none else timeout := by
  match timeout with
  | none | some 0 | some (_ + 1) => rfl

/-- No idle timeout of zero is left. -/
theorem idleTimeout?_idem (timeout : Option Millis) :
    idleTimeout? (idleTimeout? timeout) = idleTimeout? timeout := by
  match timeout with
  | none | some 0 | some (_ + 1) => rfl

/-- The idle timeout stays, or a request sets it in a stopped dispatcher. -/
theorem idleTimeout_of_section (made : Section system move result) :
    result.1.roster.idleTimeout = system.roster.idleTimeout ∨
      (system.roster.phase = .stopped ∧ result.1.workers = system.workers) ∧
        ∃ timeout, result.1.roster.idleTimeout = idleTimeout? timeout := by
  have looked (system : System) (call : Nat) :
      (system.awaitLastWorker call).roster.idleTimeout = system.roster.idleTimeout := by
    unfold awaitLastWorker
    split <;> rfl
  cases made with
  | retimed call timeout found stopped => exact .inr ⟨⟨stopped, rfl⟩, timeout, rfl⟩
  | turnedDown call fallsBack | declined call fallsBack => cases fallsBack <;> exact .inl rfl
  | stopBegun call | looked call => exact .inl (looked _ call)
  | departed number epoch departure => cases departure <;> exact .inl rfl
  | abandoned unused active =>
    rw [letGo_of_active active]
    dsimp only
    split <;> exact .inl rfl
  | _ => exact .inl rfl

/-- In no run the idle timeout is zero. -/
theorem idleTimeout_of_play {idleTimeout : Option Millis} {moves : List Move}
    (run : (fresh capacity idleTimeout).play moves = some result) :
    idleTimeout? result.1.roster.idleTimeout = result.1.roster.idleTimeout := by
  let invariant (system : System) (_ : List Event) : Prop :=
    idleTimeout? system.roster.idleTimeout = system.roster.idleTimeout
  have start : invariant (fresh capacity idleTimeout) [] := idleTimeout?_idem idleTimeout
  refine (play_sections invariant [] moves ?_ (.fresh capacity idleTimeout) start run).2
  rintro move - system events result - before made
  rcases idleTimeout_of_section made with same | ⟨-, timeout, set⟩
  · simpa only [invariant, same] using before
  · simp only [invariant, set, idleTimeout?_idem]

/-- Every section leaves all that serve with the idle timeout of the dispatcher. -/
theorem timedBy_of_section (order : InOrder capacity system)
    (timed : ∀ worker ∈ system.workers, worker.stage.TimedBy system.roster.idleTimeout)
    (made : Section system move result) :
    ∀ worker ∈ result.1.workers, worker.stage.TimedBy result.1.roster.idleTimeout := by
  rcases idleTimeout_of_section made with same | ⟨⟨stopped, workers⟩, -⟩
  · rw [same]
    exact (crew_of_section made).forall timed trivial (fun _ _ own => own)
      fun _ _ _ _ advance before => advance.timedBy before
  · -- The idle timeout is set, but nobody is there to have another one.
    intro worker member
    have idle : worker.stage.isServing = false :=
      order.census.not_serving (order.census.deserted stopped) (workers ▸ member)
    cases stage : worker.stage with
    | serving own slot duty => simp [stage, Stage.isServing] at idle
    | _ => trivial

/-- In every run all that serve have the idle timeout of the dispatcher. -/
theorem timedBy_of_play {idleTimeout : Option Millis} {moves : List Move}
    (run : (fresh capacity idleTimeout).play moves = some result) :
    ∀ worker ∈ result.1.workers, worker.stage.TimedBy result.1.roster.idleTimeout := by
  let invariant (system : System) (_ : List Event) : Prop :=
    ∀ worker ∈ system.workers, worker.stage.TimedBy system.roster.idleTimeout
  have start : invariant (fresh capacity idleTimeout) [] := nofun
  refine (play_sections invariant [] moves ?_ (.fresh capacity idleTimeout) start run).2
  rintro move - system events result order timed made
  exact timedBy_of_section order timed made

end System

end Standby.Dispatcher
