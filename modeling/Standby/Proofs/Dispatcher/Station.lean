import Standby.Dispatcher.System

/-!
# Stations of workers

Where a registered worker stands, as its stage shows it: parked at an empty slot,
claimed by a task in its slot, executing, or retiring. A failed task can bring its
worker down. Such a worker never gave the task back and never left, so it stands where
it stood with the task and goes on counting as a worker that has one.

A stage that serves and stands nowhere is out of order: it waits for something that
is not there, or something lies in the slot of a worker that is not waiting.
-/

namespace Standby.Dispatcher

open Duration (Millis)

/-- Where a registered worker stands. -/
inductive Station where
  /-- It waits for a task. -/
  | parked
  /-- A task lies in its slot. -/
  | claimed
  /-- It has a task in its hands, or was brought down with one. -/
  | executing
  /-- It has been told to leave. -/
  | retiring
deriving DecidableEq, Repr

namespace Duty

/-- It waits at its slot, or is on its way back there. -/
def isWaiting : Duty → Bool
  | .waiting | .expired | .awaiting => true
  | _ => false

/-- It has a task in its hands, which may have ended. -/
def isExecuting : Duty → Bool
  | .executing _ | .failed _ _ | .reporting _ _ | .ended _ => true
  | _ => false

/-- The station of a worker with this duty and this slot. -/
def station? (duty : Duty) : Option Handoff → Option Station
  | none =>
    match duty with
    | .waiting | .expired => some .parked
    | .awaiting => none
    | .retiring => some .retiring
    | .executing _ | .failed _ _ | .reporting _ _ | .ended _ => some .executing
  | some (.task _) => if duty.isWaiting then some .claimed else none
  | some .retire => if duty.isWaiting then some .retiring else none

end Duty

namespace Stage

/-- The station of a worker at this stage whose loop goes on. -/
def station? : Stage → Option Station
  | .serving _ slot duty => duty.station? slot
  | _ => none

/-- The worker has registered and not left, and its loop goes on. -/
def isServing : Stage → Bool
  | .serving _ _ _ => true
  | _ => false

/-- The worker has registered and not left. -/
def isLive : Stage → Bool
  | .serving _ _ _ | .gone .broken => true
  | _ => false

/-- The worker counts as one that has a task. -/
def isPending (stage : Stage) : Bool :=
  match stage.station? with
  | some .claimed | some .executing => true
  | some .parked | some .retiring => false
  | none => stage = .gone .broken

/-- A stage that serves stands somewhere. -/
def Placed (stage : Stage) : Prop := stage.isServing → stage.station?.isSome

/-- Only a worker that waits has something in its slot. -/
theorem Placed.slot_eq_none {idleTimeout : Option Millis} {slot : Option Handoff} {duty : Duty}
    (placed : (serving idleTimeout slot duty).Placed) (busy : duty.isWaiting = false) :
    slot = none := by
  have stands : (duty.station? slot).isSome := placed rfl
  match slot with
  | none => rfl
  | some (.task _) => simp [Duty.station?, busy] at stands
  | some .retire => simp [Duty.station?, busy] at stands

/-- A parked worker waits at an empty slot. -/
theorem parked_iff (stage : Stage) :
    stage.station? = some .parked ↔ ∃ idleTimeout duty,
      stage = .serving idleTimeout none duty ∧ (duty = .waiting ∨ duty = .expired) := by
  constructor
  · intro stands
    match stage with
    | .serving idleTimeout none .waiting => exact ⟨idleTimeout, .waiting, rfl, .inl rfl⟩
    | .serving idleTimeout none .expired => exact ⟨idleTimeout, .expired, rfl, .inr rfl⟩
    | .serving _ (some (.task _)) duty =>
      cases duty <;> simp [station?, Duty.station?, Duty.isWaiting] at stands
    | .serving _ (some .retire) duty =>
      cases duty <;> simp [station?, Duty.station?, Duty.isWaiting] at stands
  · rintro ⟨idleTimeout, duty, rfl, rfl | rfl⟩ <;> rfl

/-- Only a worker that serves stands anywhere. -/
theorem serving_of_station {stage : Stage} {station : Station}
    (stands : stage.station? = some station) : stage.isServing = true := by
  cases stage with
  | serving _ _ _ => rfl
  | _ => cases stands

/-- A worker that serves is live. -/
theorem live_of_serving {stage : Stage} (serving : stage.isServing = true) :
    stage.isLive = true := by
  cases stage with
  | serving _ _ _ => rfl
  | _ => cases serving

/-- A worker that is live serves, unless it has broken down. -/
theorem serving_of_live {stage : Stage} (live : stage.isLive = true)
    (whole : stage ≠ .gone .broken) : stage.isServing = true := by
  cases stage with
  | serving _ _ _ => rfl
  | gone ending => cases ending <;> simp_all [isLive]
  | _ => cases live

/-- A worker that is not live does not serve, has no task and stands nowhere. -/
theorem of_not_live {stage : Stage} (dead : stage.isLive = false) :
    stage.isServing = false ∧ stage.isPending = false ∧ stage.station? = none := by
  cases stage with
  | serving _ _ _ => cases dead
  | gone ending => cases ending <;> simp_all [isLive, isServing, isPending, station?]
  | _ => simp [isServing, isPending, station?]

/-- A worker that is live is parked, counts as one with a task, or retires. -/
theorem live_split (stage : Stage) (placed : stage.Placed) :
    stage.isLive.toNat = (decide (stage.station? = some .parked)).toNat +
      stage.isPending.toNat + (decide (stage.station? = some .retiring)).toNat := by
  cases stage with
  | serving idleTimeout slot duty =>
    obtain ⟨station, stands⟩ := Option.isSome_iff_exists.mp (placed rfl)
    cases station <;> simp [isLive, isPending, stands]
  | gone ending => cases ending <;> simp [isLive, isPending, station?]
  | _ => simp [isLive, isPending, station?]

end Stage

/-- What a serving worker is doing. -/
def Worker.duty? (worker : Worker) : Option Duty :=
  match worker.stage with
  | .serving _ _ duty => some duty
  | _ => none

/-- Only a worker that serves has a slot. -/
theorem Worker.serving_of_slot {worker : Worker} {slot : Option Handoff}
    (holds : worker.slot? = some slot) :
    ∃ idleTimeout duty, worker.stage = .serving idleTimeout slot duty := by
  unfold slot? at holds
  split at holds
  · rename_i idleTimeout held duty stage
    obtain rfl := Option.some.inj holds
    exact ⟨idleTimeout, duty, stage⟩
  · cases holds

namespace System

/-- What a serving worker is doing. -/
def duty? (system : System) (number : WorkerId) : Option Duty :=
  system.workers[number]?.bind Worker.duty?

/-- A worker stands at a station: whether the roster lists it as parked, what lies in
its slot and what it is doing agree. -/
def StandsAt (system : System) (number : WorkerId) : Station → Prop
  | .parked =>
    system.roster.parked.count number = 1 ∧ system.slot? number = some none
  | .claimed =>
    number ∉ system.roster.parked ∧ ∃ task, system.slot? number = some (some (.task task))
  | .executing =>
    number ∉ system.roster.parked ∧
      (system.slot? number = some none ∧ (system.duty? number).any Duty.isExecuting ∨
        system.workers[number]?.map Worker.stage = some (.gone .broken))
  | .retiring =>
    number ∉ system.roster.parked ∧ system.roster.phase ≠ .running ∧
      (system.slot? number = some (some .retire) ∨
        system.slot? number = some none ∧ system.duty? number = some .retiring)

instance (slot : Option (Option Handoff)) :
    Decidable (∃ task, slot = some (some (.task task))) :=
  match slot with
  | some (some (.task task)) => .isTrue ⟨task, rfl⟩
  | some (some .retire) => .isFalse nofun
  | some none => .isFalse nofun
  | none => .isFalse nofun

instance (system : System) (number : WorkerId) (station : Station) :
    Decidable (system.StandsAt number station) :=
  match station with
  | .parked => inferInstanceAs (Decidable (_ ∧ _))
  | .claimed => inferInstanceAs (Decidable (_ ∧ ∃ _, _))
  | .executing => inferInstanceAs (Decidable (_ ∧ (_ ∧ _ ∨ _)))
  | .retiring => inferInstanceAs (Decidable (_ ∧ _ ∧ (_ ∨ _)))

/-- How many workers stand at a station. -/
def headcount (system : System) (station : Station) : Nat :=
  (List.range system.workers.length).countP fun number => system.StandsAt number station

end System

end Standby.Dispatcher
