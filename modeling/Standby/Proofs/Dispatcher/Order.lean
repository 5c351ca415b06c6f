import Standby.Proofs.Dispatcher.Section
import Standby.Proofs.Dispatcher.Turns
import Standby.Proofs.Run

/-!
# Dispatchers in order

What every run keeps: the roster agrees with the workers, and at most one call waits
for the last worker to leave, which it only does while the dispatcher stops. The
second part is needed for the first, since that call sets the phase when it is done.

Whether a move keeps the order is decided section by section. That a parked worker is
always ready for a task follows, so the list of sections is complete.
-/

namespace Standby.Dispatcher

open Duration (Millis)

/-- The call stops the dispatcher itself and waits for the last worker. -/
def Call.awaitsLastWorker : Call → Bool
  | .sleeping .lastWorker | .woken .lastWorker => true
  | _ => false

namespace System

/-- A call waits for the last worker. -/
def Awaits (system : System) (call : Nat) : Prop :=
  ∃ stage, system.calls.get? call = some stage ∧ stage.awaitsLastWorker = true

/-- A dispatcher whose census stands and in which at most one call waits for the last
worker. -/
structure InOrder (capacity : Nat) (system : System) : Prop where
  bounded : system.capacity = capacity
  census : Census capacity system.roster system.workers
  stopping : ∀ call, system.Awaits call → system.roster.phase = .stopping
  alone : ∀ call other, system.Awaits call → system.Awaits other → call = other

section Awaiting

variable (system : System) (call other : Nat)

/-- When a call moves to another stage, only this call may begin to wait for the last worker. -/
theorem awaits_of_setCall {stage : Call} (awaits : (system.setCall call stage).Awaits other) :
    other = call ∧ stage.awaitsLastWorker = true ∨ other ≠ call ∧ system.Awaits other := by
  obtain ⟨held, found, waits⟩ := awaits
  simp only [setCall, Register.get?_put] at found
  split at found
  · rename_i same
    obtain ⟨_, _, rfl⟩ := Option.map_eq_some_iff.mp found
    exact .inl ⟨same, waits⟩
  · rename_i different
    exact .inr ⟨different, held, found, waits⟩

/-- A call that moves to a stage without waiting lets no call begin to wait. -/
theorem awaits_of_set_idle {stage : Call} (idle : stage.awaitsLastWorker = false)
    (awaits : (system.setCall call stage).Awaits other) : system.Awaits other := by
  rcases awaits_of_setCall system call other awaits with ⟨_, waits⟩ | ⟨_, before⟩
  · simp [idle] at waits
  · exact before

/-- A call that returns lets no other begin to wait. -/
theorem awaits_of_reply (answer : Answer)
    (awaits : (system.reply call answer).1.Awaits other) : system.Awaits other := by
  obtain ⟨stage, found, waits⟩ := awaits
  simp only [reply, Register.get?_remove] at found
  split at found
  · cases found
  · exact ⟨stage, found, waits⟩

/-- A call whose task is given back lets no other begin to wait. -/
theorem awaits_of_giveBack {fallsBack : Bool}
    (awaits : (system.giveBack call fallsBack).1.Awaits other) : system.Awaits other := by
  cases fallsBack with
  | true => exact awaits_of_set_idle system call other rfl awaits
  | false => exact awaits_of_reply system call other _ awaits

/-- A call that is made does not wait yet. -/
theorem awaits_of_add {request : Request}
    (awaits : Awaits { system with calls := system.calls.add (.entering request) } other) :
    system.Awaits other := by
  obtain ⟨stage, found, waits⟩ := awaits
  simp only [Register.get?_add] at found
  split at found
  · obtain rfl := Option.some.inj found
    cases waits
  · exact ⟨stage, found, waits⟩

/-- Waking up does not end the wait. -/
theorem awaits_of_announce (awaits : system.announce.Awaits other) : system.Awaits other := by
  obtain ⟨stage, found, waits⟩ := awaits
  simp only [announce, Register.get?_map] at found
  obtain ⟨before, held, rfl⟩ := Option.map_eq_some_iff.mp found
  refine ⟨before, held, ?_⟩
  cases before with
  | sleeping awaited => cases awaited <;> exact waits
  | _ => exact waits

end Awaiting

section Stopping

variable (system : System)

/-- Looking for the last worker changes no worker. -/
theorem awaitLastWorker_workers (call : Nat) :
    (system.awaitLastWorker call).workers = system.workers := by
  unfold awaitLastWorker
  split <;> rfl

variable {system} (active : system.roster.phase = .starting ∨ system.roster.phase = .running)
include active

/-- Letting go of an open dispatcher begins to stop it, and stops it at once when
nobody is live. -/
theorem letGo_of_active :
    system.letGo =
      let retiring : System := { system.retireAll.1 with held := false }
      (if system.roster.live = 0 then retiring.setPhase .stopped else retiring,
        system.retireAll.2) := by
  rcases active with phase | phase <;> simp only [letGo, phase] <;> rfl

/-- The workers of a dispatcher that is let go are told so if they are parked. -/
theorem letGo_workers : system.letGo.1.workers = system.workers.mapIdx system.roster.tell := by
  rw [letGo_of_active active]
  dsimp only
  split <;> rfl

/-- Letting a dispatcher go concerns no call. -/
theorem letGo_calls : system.letGo.1.calls = system.calls := by
  rw [letGo_of_active active]
  dsimp only
  split <;> rfl

end Stopping

namespace InOrder

variable {capacity : Nat} {system next : System}

/-- A new dispatcher is in order. -/
theorem fresh (capacity : Nat) (idleTimeout : Option Millis) :
    InOrder capacity (.fresh capacity idleTimeout) where
  bounded := rfl
  census := .fresh capacity _
  stopping _ awaits := by
    obtain ⟨stage, found, _⟩ := awaits
    cases found
  alone _ _ awaits _ := by
    obtain ⟨stage, found, _⟩ := awaits
    cases found

/-- A parked worker has an empty slot. -/
theorem parkedReady (order : InOrder capacity system) : system.ParkedReady := by
  intro number parked
  obtain ⟨⟨epoch, stage⟩, found, stands⟩ := (order.census.parked number).mp parked
  obtain ⟨idleTimeout, duty, rfl, _⟩ := (Stage.parked_iff stage).mp stands
  simp [slot?, found, Worker.slot?]

/-- Nobody waits for the last worker unless the dispatcher stops. -/
theorem not_awaits (order : InOrder capacity system) (phase : system.roster.phase ≠ .stopping)
    (call : Nat) : ¬ system.Awaits call :=
  fun awaits => phase (order.stopping call awaits)

/-- The order stays when the census stands and no further call waits. -/
theorem keep (order : InOrder capacity system) (bounded : next.capacity = system.capacity)
    (census : Census capacity next.roster next.workers)
    (phase : next.roster.phase = system.roster.phase)
    (calls : ∀ call, next.Awaits call → system.Awaits call) : InOrder capacity next where
  bounded := bounded.trans order.bounded
  census := census
  stopping call awaits := phase.trans (order.stopping call (calls call awaits))
  alone call other awaits waits := order.alone call other (calls call awaits) (calls other waits)

/-- The order stays when only calls change and none of them begins to wait. -/
theorem keep_calls (order : InOrder capacity system) (bounded : next.capacity = system.capacity)
    (roster : next.roster = system.roster) (workers : next.workers = system.workers)
    (calls : ∀ call, next.Awaits call → system.Awaits call) : InOrder capacity next :=
  order.keep bounded (by rw [roster, workers]; exact order.census) (by rw [roster]) calls

/-- A dispatcher is in order when nobody waits for its last worker. -/
theorem of_nobody (bounded : next.capacity = capacity)
    (census : Census capacity next.roster next.workers)
    (nobody : ∀ call, ¬ next.Awaits call) : InOrder capacity next where
  bounded := bounded
  census := census
  stopping call awaits := absurd awaits (nobody call)
  alone call _ awaits := absurd awaits (nobody call)

/-- A call that is the only one to wait for the last worker looks whether it has
left. -/
theorem awaitLastWorker (order : InOrder capacity system)
    (stopping : system.roster.phase = .stopping) (call : Nat)
    (only : ∀ other, system.Awaits other → other = call) :
    InOrder capacity (system.awaitLastWorker call) := by
  unfold System.awaitLastWorker
  split
  · rename_i nobody
    refine of_nobody order.bounded (order.census.stop stopping nobody) fun other awaits => ?_
    rcases awaits_of_setCall _ call other awaits with ⟨_, waits⟩ | ⟨different, before⟩
    · cases waits
    · exact different (only other before)
  · have same (other : Nat)
        (awaits : (system.setCall call (.sleeping .lastWorker)).Awaits other) :
        other = call := by
      rcases awaits_of_setCall _ call other awaits with ⟨same, _⟩ | ⟨_, before⟩
      · exact same
      · exact only other before
    exact
      { bounded := order.bounded
        census := order.census
        stopping := fun _ _ => stopping
        alone := fun first second awaits waits =>
          (same first awaits).trans (same second waits).symm }

/-- Stopping begins. -/
theorem retireAll (order : InOrder capacity system)
    (active : system.roster.phase = .starting ∨ system.roster.phase = .running) :
    InOrder capacity system.retireAll.1 ∧ ∀ call, ¬ system.retireAll.1.Awaits call := by
  have nobody : ∀ call, ¬ system.Awaits call :=
    order.not_awaits (by rcases active with phase | phase <;> simp [phase])
  exact ⟨of_nobody order.bounded order.census.retireAll nobody, nobody⟩

/-- The last holder lets go of an open dispatcher. -/
theorem letGo (order : InOrder capacity system)
    (active : system.roster.phase = .starting ∨ system.roster.phase = .running) :
    InOrder capacity system.letGo.1 := by
  obtain ⟨retiring, nobody⟩ := order.retireAll active
  rw [letGo_of_active active]
  dsimp only
  split
  · rename_i deserted
    exact of_nobody retiring.bounded (retiring.census.stop rfl deserted) nobody
  · exact of_nobody retiring.bounded retiring.census nobody

/-- The order stays when only the workers change. -/
theorem keep_roster (order : InOrder capacity system) {workers : List Worker}
    (census : Census capacity system.roster workers) :
    InOrder capacity { system with workers := workers } :=
  order.keep rfl census rfl fun _ awaits => awaits

/-- Every section keeps the order. -/
theorem of_section (order : InOrder capacity system) {move : Move}
    {result : System × List Event} (made : Section system move result) :
    InOrder capacity result.1 := by
  cases made with
  | invoked request held =>
    exact order.keep_calls rfl rfl rfl fun other => awaits_of_add system other
  | illegal call =>
    exact order.keep_calls rfl rfl rfl fun other => awaits_of_reply system call other _
  | started call found stopped =>
    have idle : ∀ other, ¬ system.Awaits other := order.not_awaits (by simp [stopped])
    exact of_nobody order.bounded (order.census.start stopped) fun other awaits =>
      idle other (awaits_of_reply (system.setPhase .running) call other .done awaits)
  | retimed call timeout found stopped =>
    exact order.keep rfl (order.census.retime _) rfl fun other =>
      awaits_of_reply (system.setRoster _) call other _
  | turnedDown call | declined call =>
    cases ‹Bool› <;>
      exact order.keep_calls rfl rfl rfl fun other =>
        awaits_of_giveBack (system.count .declined) call other
  | claimed call fallsBack worker remaining found running parked ready =>
    exact order.keep rfl (order.census.claim parked call) rfl fun other =>
      awaits_of_reply _ call other .accepted
  | created call fallsBack found running nobody room =>
    have census := order.census.create running (by rw [← order.bounded]; exact room)
    exact order.keep rfl census rfl fun other => awaits_of_set_idle system.create call other rfl
  | counted call fallsBack count =>
    exact order.keep_calls rfl rfl rfl fun other =>
      awaits_of_set_idle (system.count count) call other rfl
  | restful call =>
    exact order.keep_calls rfl rfl rfl fun other => awaits_of_reply system call other _
  | joined call =>
    exact order.keep_calls rfl rfl rfl fun other => awaits_of_set_idle system call other rfl
  | stopBegun call found active =>
    obtain ⟨retiring, nobody⟩ := order.retireAll active
    exact retiring.awaitLastWorker rfl call fun other awaits => absurd awaits (nobody other)
  | looked call found =>
    -- The call may set the phase, so it matters that stopping is still its own affair.
    have waits : system.Awaits call := ⟨_, found, rfl⟩
    exact order.awaitLastWorker (order.stopping call waits) call fun other awaits =>
      order.alone other call awaits waits
  | announced call =>
    exact order.keep_calls rfl rfl rfl fun other awaits =>
      awaits_of_announce system other (awaits_of_reply system.announce call other .done awaits)
  | taken call | refused call =>
    exact order.keep_calls rfl rfl rfl fun other => awaits_of_set_idle system call other rfl
  | passedOn call =>
    exact order.keep_calls rfl rfl rfl fun other => awaits_of_reply system call other _
  | brokenOff call =>
    exact order.keep_calls rfl rfl rfl fun other => awaits_of_reply system call other .done
  | stale number epoch found past =>
    have unlisted : Worker.isStarting system.roster.epoch ⟨epoch, .queued⟩ = false := by
      simp [Worker.isStarting, past.symm]
    exact order.keep_roster (order.census.rest found rfl rfl unlisted (by simp))
  | registered number found running =>
    exact order.keep rfl (order.census.register found running _) rfl fun _ awaits => awaits
  | turnedAway number found | discarded number found =>
    exact order.keep rfl (order.census.giveBack found _ (by simp)) rfl fun _ awaits => awaits
  | forgotten number epoch found past =>
    have unlisted : Worker.isStarting system.roster.epoch ⟨epoch, .queued⟩ = false := by
      simp [Worker.isStarting, past.symm]
    exact order.keep_roster (order.census.rest found rfl rfl unlisted (by simp))
  | began number epoch idleTimeout task duty waits found =>
    refine order.keep_roster (order.census.serve found ?_ rfl (.inr ⟨rfl, rfl⟩))
    rcases waits with rfl | rfl <;> rfl
  | told number epoch idleTimeout duty waits found =>
    refine order.keep_roster (order.census.serve found ?_ rfl (.inl rfl))
    rcases waits with rfl | rfl <;> rfl
  | expired number epoch timeout found =>
    exact order.keep_roster (order.census.serve found rfl rfl (.inl rfl))
  | withdrawn number epoch timeout slot found parked =>
    exact order.keep rfl (order.census.withdraw found parked timeout) rfl fun _ awaits => awaits
  | kept number epoch timeout slot found gone =>
    have unparked := mt (order.census.parked_iff found).mpr gone
    apply order.keep_roster
    cases slot with
    | none => exact absurd rfl unparked
    | some handoff => cases handoff <;> exact order.census.serve found rfl rfl (.inl rfl)
  | ended number epoch idleTimeout slot task outcome found =>
    obtain rfl := (order.census.orderly_of_found found).placed.slot_eq_none rfl
    refine order.keep_roster (order.census.serve found rfl ?_ (.inl rfl))
    cases outcome <;> rfl
  | failed number epoch idleTimeout slot task failure found
  | reported number epoch idleTimeout slot task failure found =>
    obtain rfl := (order.census.orderly_of_found found).placed.slot_eq_none rfl
    exact order.keep rfl (order.census.serve found rfl rfl (.inl rfl)) rfl fun _ awaits => awaits
  | spilled number epoch idleTimeout slot task failure found
  | broke number epoch idleTimeout slot task failure found =>
    obtain rfl := (order.census.orderly_of_found found).placed.slot_eq_none rfl
    exact order.keep_roster (order.census.stay found
      ((order.census.orderly_of_found found).leave rfl) (by simp [Stage.station?, Duty.station?])
      rfl rfl rfl)
  | parkedAgain number idleTimeout slot task found running =>
    exact order.keep rfl (order.census.park idleTimeout found running) rfl fun _ awaits => awaits
  | leftAfterTask number epoch idleTimeout slot task found =>
    exact order.keep rfl (order.census.leaveAfterTask found _) rfl fun _ awaits => awaits
  | leftRetired number epoch idleTimeout slot found =>
    exact order.keep rfl (order.census.leaveRetired found _) rfl fun _ awaits => awaits
  | departed number epoch departure found =>
    cases departure <;>
      exact order.keep rfl (order.census.rest found rfl rfl rfl (by simp)) rfl fun other =>
        awaits_of_announce system other
  | idled number epoch timeout found =>
    exact order.keep rfl (order.census.rest found rfl rfl rfl (by simp)) rfl fun _ awaits => awaits
  | letGo unused closed => exact order.keep_calls rfl rfl rfl fun _ awaits => awaits
  | abandoned unused active => exact order.letGo active

/-- Every move keeps the order. -/
theorem of_step (order : InOrder capacity system) {move : Move} {result : System × List Event}
    (made : system.step move = some result) : InOrder capacity result.1 :=
  order.of_section (section_of_step order.parkedReady made)

end InOrder

/-- A run makes its moves one after the other. -/
theorem plays : Plays step play := ⟨fun _ => rfl, fun _ _ _ => rfl⟩

/-- A run is its first move and a run of what that leaves. -/
theorem play_cons_eq_some {system : System} {move : Move} {moves : List Move}
    {result : System × List Event} :
    system.play (move :: moves) = some result ↔
      ∃ first last, system.step move = some first ∧ first.1.play moves = some last ∧
        (last.1, first.2 ++ last.2) = result :=
  plays.cons_eq_some_iff

/-- A run may be continued. -/
theorem play_append {system : System} {first later : List Move} {result last : System × List Event}
    (run : system.play first = some result) (rest : result.1.play later = some last) :
    system.play (first ++ later) = some (last.1, result.2 ++ last.2) := by
  induction first generalizing system result with
  | nil =>
    obtain rfl := Option.some.inj run
    exact rest
  | cons move moves inductionHypothesis =>
    obtain ⟨one, others, made, played, rfl⟩ := play_cons_eq_some.mp run
    refine play_cons_eq_some.mpr ⟨one, _, made, inductionHypothesis played rest, ?_⟩
    simp

/-- What every move of a run keeps, the whole run keeps. The property may speak of what
has happened so far. -/
theorem play_induction (invariant : System → List Event → Prop) (events : List Event)
    (moves : List Move)
    (kept : ∀ move ∈ moves, ∀ system events result, invariant system events →
      system.step move = some result → invariant result.1 (events ++ result.2))
    {system : System} (start : invariant system events)
    {result : System × List Event} (run : system.play moves = some result) :
    invariant result.1 (events ++ result.2) :=
  plays.run_induction (fun _ => invariant) (fun move member _ => kept move member) [] start run

/-- What every section keeps in a dispatcher that is in order, a run from there keeps, and
the order with it. -/
theorem play_sections {capacity : Nat} (invariant : System → List Event → Prop)
    (events : List Event) (moves : List Move)
    (kept : ∀ move ∈ moves, ∀ system events result, InOrder capacity system →
      invariant system events → Section system move result →
        invariant result.1 (events ++ result.2))
    {system : System} (order : InOrder capacity system) (start : invariant system events)
    {result : System × List Event} (run : system.play moves = some result) :
    InOrder capacity result.1 ∧ invariant result.1 (events ++ result.2) := by
  let both (system : System) (events : List Event) : Prop :=
    InOrder capacity system ∧ invariant system events
  refine play_induction both events moves ?_ ⟨order, start⟩ run
  rintro move member system events result ⟨order, before⟩ made
  exact ⟨order.of_step made,
    kept move member system events result order before (section_of_step order.parkedReady made)⟩

/-- Every run leaves a dispatcher in order. -/
theorem inOrder_of_play {capacity : Nat} {idleTimeout : Option Millis} {moves : List Move}
    {result : System × List Event}
    (run : (fresh capacity idleTimeout).play moves = some result) :
    InOrder capacity result.1 :=
  play_induction (fun system _ => InOrder capacity system) [] moves
    (fun _ _ _ _ _ order made => order.of_step made) (.fresh capacity idleTimeout)
    run

end System

end Standby.Dispatcher
