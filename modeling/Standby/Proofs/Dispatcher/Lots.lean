import Standby.Proofs.Dispatcher.Crew
import Standby.Proofs.Dispatcher.StartSlots

/-!
# What becomes of worker loops

A worker loop is queued until it is launched or dropped. If it registers it is live, and
later it has left; if not, it has come to its end without ever being live. Which of these
it is can be told from what has happened to it.
-/

namespace Standby.Dispatcher

/-- What has become of a worker loop. -/
inductive Lot where
  /-- It waits to be launched, in its own epoch or a later one. -/
  | queued
  /-- It has registered and not left. -/
  | live
  /-- It has registered and left. -/
  | left
  /-- It was dropped unrun, or launched too late. -/
  | unregistered
deriving DecidableEq, Repr

namespace Stage

/-- The worker has left. -/
def hasLeft : Stage → Bool
  | .announcing _ | .counting _ | .gone (.left _) => true
  | _ => false

/-- The worker has registered, and may have left since. -/
def hasRegistered (stage : Stage) : Bool := stage.isLive || stage.hasLeft

/-- What has become of a loop at this stage. -/
def lot : Stage → Lot
  | .queued => .queued
  | .serving _ _ _ | .gone .broken => .live
  | .announcing _ | .counting _ | .gone (.left _) => .left
  | .gone .discarded | .gone .stale | .gone .turnedAway => .unregistered

variable (stage : Stage)

/-- The lot of a loop is to be queued as long as it waits to be launched. -/
theorem lot_eq_queued : stage.lot = .queued ↔ stage = .queued := by
  cases stage with
  | gone ending => cases ending <;> simp [lot]
  | _ => simp [lot]

/-- The lot of a loop is to be live from its registration until it leaves. -/
theorem lot_eq_live : stage.lot = .live ↔ stage.isLive = true := by
  cases stage with
  | gone ending => cases ending <;> simp [lot, isLive]
  | _ => simp [lot, isLive]

/-- The lot of a loop is to have left when it has registered and left. -/
theorem lot_eq_left : stage.lot = .left ↔ stage.hasLeft = true := by
  cases stage with
  | gone ending => cases ending <;> simp [lot, hasLeft]
  | _ => simp [lot, hasLeft]

/-- The lot of a loop is to be unregistered when it has ended without registering. -/
theorem lot_eq_unregistered :
    stage.lot = .unregistered ↔ stage.hasRegistered = false ∧ stage ≠ .queued := by
  cases stage with
  | gone ending => cases ending <;> simp [lot, hasRegistered, isLive, hasLeft]
  | _ => simp [lot, hasRegistered, isLive, hasLeft]

end Stage

namespace System

variable {capacity : Nat} {system next : System} {events : List Event} {number : WorkerId}

/-- The stage of this worker is of a certain kind. -/
def hasStage (system : System) (kind : Stage → Bool) (number : WorkerId) : Bool :=
  system.workers[number]?.any fun worker => kind worker.stage

/-- What has become of a worker loop, as its stage and all that has happened show it. -/
def HasLot (system : System) (events : List Event) (number : WorkerId) : Lot → Prop
  | .queued => system.isQueued number = true ∧ ∀ event ∈ events, event.closes number = false
  | .live => system.hasStage Stage.isLive number = true ∧ .registered number ∈ events
  | .left => system.hasStage Stage.hasLeft number = true ∧ .registered number ∈ events
  | .unregistered =>
    system.hasStage Stage.hasRegistered number = false ∧
      (.stale number ∈ events ∨ .discarded number ∈ events)

/-- The stage of a worker stays of a kind unless it advances, if neither its creation nor
the word to retire makes a difference. -/
theorem hasStage_of_crew {own : Bool} (crew : Crew system next events own) (kind : Stage → Bool)
    (new : kind .queued = false)
    (told : ∀ idleTimeout duty,
      kind (.serving idleTimeout (some .retire) duty) = kind (.serving idleTimeout none duty))
    (number : WorkerId) :
    (next.hasStage kind number = system.hasStage kind number ∧
        ∀ event ∈ events, event.actor? ≠ some number) ∨
      ∃ epoch before after, Advance system.roster number epoch own before after events ∧
        system.hasStage kind number = kind before ∧ next.hasStage kind number = kind after := by
  cases found : system.workers[number]? with
  | none =>
    obtain ⟨missing | queued, others⟩ := crew.newcomer found
    · exact .inl ⟨by simp [hasStage, found, missing], others⟩
    · exact .inl ⟨by simp [hasStage, found, queued, new], others⟩
  | some worker =>
    obtain ⟨epoch, before⟩ := worker
    obtain ⟨after, stands, ⟨same, others⟩ | advance⟩ := crew.worker found
    · refine .inl ⟨?_, others⟩
      rcases same with rfl | ⟨idleTimeout, duty, rfl, rfl⟩
      · simp [hasStage, found, stands]
      · simp [hasStage, found, stands, told]
    · exact .inr ⟨epoch, before, after, advance, by simp [hasStage, found],
        by simp [hasStage, stands]⟩

/-- A worker has registered when it was said to have. -/
theorem registered_of_play {idleTimeout : Option Duration.Millis} {moves : List Move}
    {result : System × List Event}
    (run : (fresh capacity idleTimeout).play moves = some result) (number : WorkerId) :
    result.1.hasStage Stage.hasRegistered number = true ↔ .registered number ∈ result.2 := by
  let invariant (system : System) (events : List Event) : Prop :=
    system.hasStage Stage.hasRegistered number = true ↔ .registered number ∈ events
  have start : invariant (fresh capacity idleTimeout) [] := by simp [invariant, fresh, hasStage]
  refine (play_sections invariant [] moves ?_ (.fresh capacity idleTimeout) start run).2
  rintro move - system events result - before made
  obtain ⟨own, crew⟩ : ∃ own, Crew system result.1 result.2 own := ⟨_, crew_of_section made⟩
  have step := hasStage_of_crew crew Stage.hasRegistered rfl (fun _ _ => rfl) number
  simp only [invariant] at before ⊢
  rw [List.mem_append, ← before]
  rcases step with ⟨same, quiet⟩ | ⟨epoch, earlier, later, advance, stood, stands⟩
  · have silent : .registered number ∉ result.2 := fun held => quiet _ held rfl
    simp [same, silent]
  · rw [stood, stands]
    generalize result.2 = told at advance
    cases advance <;> simp [Stage.hasRegistered, Stage.isLive, Stage.hasLeft]

/-- A loop that was created is queued or was launched or dropped, once. -/
theorem closes_of_play {idleTimeout : Option Duration.Millis} {moves : List Move}
    (run : (fresh capacity idleTimeout).play moves = some (system, events))
    (present : number < system.workers.length) :
    (system.isQueued number).toNat + events.countP (·.closes number) = 1 := by
  have balanced : Balanced (fresh capacity idleTimeout) system events := play_balanced run
  have grown := balanced.grown number
  have queued := balanced.queued number
  have nobody : (fresh capacity idleTimeout).isQueued number = false := by simp [isQueued, fresh]
  have none : (fresh capacity idleTimeout).workers = [] := rfl
  rw [nobody, Bool.toNat_false] at queued
  rw [none, decide_eq_true present] at grown
  simp at grown
  omega

/-- What has become of a loop can be seen from its stage. -/
theorem hasLot_iff {idleTimeout : Option Duration.Millis} {moves : List Move}
    (run : (fresh capacity idleTimeout).play moves = some (system, events)) {worker : Worker}
    (found : system.workers[number]? = some worker) (lot : Lot) :
    system.HasLot events number lot ↔ lot = worker.stage.lot := by
  have stands (kind : Stage → Bool) : system.hasStage kind number = kind worker.stage := by
    simp [hasStage, found]
  have waits : system.isQueued number = true ↔ worker.stage = .queued := by
    simp [isQueued, found, Worker.isQueued]
  have registered : system.hasStage Stage.hasRegistered number = true ↔
      .registered number ∈ events := registered_of_play run number
  have closed := closes_of_play run (List.getElem?_eq_some_iff.mp found).1
  rw [eq_comm]
  cases lot with
  | queued =>
    rw [Stage.lot_eq_queued, ← waits]
    refine ⟨And.left, fun queued => ⟨queued, ?_⟩⟩
    have none : events.countP (·.closes number) = 0 := by
      rw [queued, Bool.toNat_true] at closed
      omega
    simpa using List.countP_eq_zero.mp none
  | live =>
    rw [Stage.lot_eq_live, ← stands Stage.isLive]
    refine ⟨And.left, fun live => ⟨live, registered.mp ?_⟩⟩
    rw [stands] at live ⊢
    simp [Stage.hasRegistered, live]
  | left =>
    rw [Stage.lot_eq_left, ← stands Stage.hasLeft]
    refine ⟨And.left, fun left => ⟨left, registered.mp ?_⟩⟩
    rw [stands] at left ⊢
    simp [Stage.hasRegistered, left]
  | unregistered =>
    rw [Stage.lot_eq_unregistered, ← stands Stage.hasRegistered, ne_eq, ← waits, Bool.not_eq_true]
    refine and_congr_right fun never => ?_
    have untold : .registered number ∉ events := by
      rw [← registered, never]
      exact Bool.false_ne_true
    constructor
    · intro ended
      have happened : 0 < events.countP (·.closes number) := by
        rw [List.countP_pos_iff]
        rcases ended with stale | discarded
        · exact ⟨_, stale, by simp [Event.closes]⟩
        · exact ⟨_, discarded, by simp [Event.closes]⟩
      cases queued : system.isQueued number with
      | false => rfl
      | true =>
        rw [queued, Bool.toNat_true] at closed
        omega
    · intro launched
      rw [launched, Bool.toNat_false, Nat.zero_add] at closed
      obtain ⟨event, held, closes⟩ := List.countP_pos_iff.mp (closed ▸ Nat.one_pos)
      cases event with
      | registered other =>
        obtain rfl : other = number := of_decide_eq_true closes
        exact absurd held untold
      | stale other =>
        obtain rfl : other = number := of_decide_eq_true closes
        exact .inl held
      | discarded other =>
        obtain rfl : other = number := of_decide_eq_true closes
        exact .inr held
      | _ => cases closes

/-- Every loop that was created is queued, live, has left, or has ended without ever being
registered, and only one of these. -/
theorem existsUnique_lot {idleTimeout : Option Duration.Millis} {moves : List Move}
    (run : (fresh capacity idleTimeout).play moves = some (system, events))
    (present : number < system.workers.length) : ∃! lot, system.HasLot events number lot := by
  have found := List.getElem?_eq_getElem present
  exact ⟨_, (hasLot_iff run found _).mpr rfl, fun lot has => (hasLot_iff run found lot).mp has⟩

end System

end Standby.Dispatcher
