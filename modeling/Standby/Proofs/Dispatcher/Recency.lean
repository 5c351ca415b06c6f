import Standby.Proofs.Dispatcher.Order

/-!
# Who parked last

The list of parked workers stands in the order in which they parked, the latest first. When
somebody parked is read off what has happened, not off the list: a worker that parks goes to
the head of the list, and otherwise the list only loses workers, at the head when one is given
a task, anywhere when one withdraws, and all of them when the dispatcher stops.
-/

namespace Standby.Dispatcher

open Duration (Millis)

/-- The worker that parks, for the first time or again. -/
def Event.parks? : Event → Option WorkerId
  | .registered worker | .parkedAgain worker => some worker
  | _ => none

/-- The workers that have parked, the latest first. -/
def parkings (events : List Event) : List WorkerId := (events.filterMap Event.parks?).reverse

/-- How many have parked since this worker did so for the last time. -/
def parkedSince (events : List Event) (worker : WorkerId) : Nat := (parkings events).idxOf worker

/-- What happens later stands first. -/
theorem parkings_append (events new : List Event) :
    parkings (events ++ new) = parkings new ++ parkings events := by
  simp [parkings]

/-- A list of workers names such as have parked, the one that did so last first. -/
structure ByRecency (latest parked : List WorkerId) : Prop where
  ranked : parked.Pairwise fun later earlier => latest.idxOf later < latest.idxOf earlier
  known : ∀ worker ∈ parked, worker ∈ latest

namespace ByRecency

variable {latest parked remaining : List WorkerId}

/-- Whoever is left stands in the same order. -/
theorem of_sublist (byRecency : ByRecency latest parked) (left : remaining.Sublist parked) :
    ByRecency latest remaining where
  ranked := byRecency.ranked.sublist left
  known worker member := byRecency.known worker (left.subset member)

/-- A worker that parks goes before all others. -/
theorem park (byRecency : ByRecency latest parked) {worker : WorkerId}
    (absent : worker ∉ parked) : ByRecency (worker :: latest) (worker :: parked) := by
  have moved {other : WorkerId} (listed : other ∈ parked) :
      (worker :: latest).idxOf other = latest.idxOf other + 1 := by
    have different : worker ≠ other := (ne_of_mem_of_not_mem listed absent).symm
    exact List.idxOf_cons_ne _ different
  constructor
  · apply List.pairwise_cons.mpr
    constructor
    · intro other listed
      rw [moved listed, List.idxOf_cons_self]
      exact Nat.succ_pos _
    · apply byRecency.ranked.imp_of_mem
      intro later earlier laterListed earlierListed ranked
      rw [moved laterListed, moved earlierListed]
      exact Nat.succ_lt_succ ranked
  · intro other listed
    rcases List.mem_cons.mp listed with rfl | before
    · exact List.mem_cons_self
    · exact List.mem_cons_of_mem _ (byRecency.known other before)

end ByRecency

namespace System

variable {capacity : Nat} {system : System} {move : Move} {result : System × List Event}

/-- In a section a worker that was not listed parks before all others, or the list only loses
workers. -/
theorem parked_of_section (order : InOrder capacity system)
    (made : Section system move result) :
    (parkings result.2 = [] ∧ result.1.roster.parked.Sublist system.roster.parked) ∨
      ∃ worker, parkings result.2 = [worker] ∧ worker ∉ system.roster.parked ∧
        result.1.roster.parked = worker :: system.roster.parked := by
  have census := order.census
  have looked (system : System) (call : Nat) :
      (system.awaitLastWorker call).roster.parked = system.roster.parked := by
    unfold awaitLastWorker
    split <;> rfl
  cases made with
  | registered number found =>
    refine .inr ⟨number, rfl, fun listed => ?_, rfl⟩
    cases (census.parked_iff found).mp listed
  | parkedAgain number idleTimeout slot task found =>
    obtain rfl := (census.orderly_of_found found).placed.slot_eq_none rfl
    refine .inr ⟨number, rfl, fun listed => ?_, rfl⟩
    cases (census.parked_iff found).mp listed
  | turnedDown call fallsBack | declined call fallsBack =>
    cases fallsBack <;> exact .inl ⟨rfl, .refl _⟩
  | counted call fallsBack count event stage found answered =>
    rcases answered with ⟨_, _, _, rfl⟩ | ⟨_, _, _, _, rfl⟩ <;> exact .inl ⟨rfl, .refl _⟩
  | claimed call fallsBack worker remaining found running parked =>
    refine .inl ⟨rfl, ?_⟩
    rw [parked]
    exact List.sublist_cons_self worker remaining
  | withdrawn number => exact .inl ⟨rfl, List.erase_sublist⟩
  | stopBegun call found active =>
    refine .inl ⟨rfl, ?_⟩
    rw [looked]
    exact List.nil_sublist _
  | looked call =>
    refine .inl ⟨rfl, ?_⟩
    rw [looked]
  | departed number epoch departure => cases departure <;> exact .inl ⟨rfl, .refl _⟩
  | abandoned unused active =>
    rw [letGo_of_active active]
    refine .inl ⟨rfl, ?_⟩
    dsimp only
    split <;> exact List.nil_sublist _
  | _ => exact .inl ⟨rfl, .refl _⟩

/-- In every run the list of parked workers stands in the order in which they parked. -/
theorem play_byRecency {idleTimeout : Option Millis} {moves : List Move}
    (run : (fresh capacity idleTimeout).play moves = some result) :
    ByRecency (parkings result.2) result.1.roster.parked := by
  let invariant (system : System) (events : List Event) : Prop :=
    ByRecency (parkings events) system.roster.parked
  have start : invariant (fresh capacity idleTimeout) [] := ⟨.nil, by simp [fresh, Roster.fresh]⟩
  refine (play_sections invariant [] moves ?_ (.fresh capacity idleTimeout) start run).2
  rintro move - system events result order byRecency made
  simp only [invariant, parkings_append]
  rcases parked_of_section order made with ⟨nobody, left⟩ | ⟨worker, parks, absent, first⟩
  · rw [nobody]
    exact byRecency.of_sublist left
  · rw [parks, first]
    exact byRecency.park absent

end System

end Standby.Dispatcher
