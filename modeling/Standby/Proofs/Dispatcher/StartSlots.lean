import Standby.Proofs.Dispatcher.Order

/-!
# Start slots

A worker loop takes a start slot when it is created and gives it back when it
registers or is dropped unrun, whichever comes first; stopping gives all of them back
at once and leaves the loops of that epoch nothing to give back. Two accounts are kept
here. The roster's number is the number of loops of this epoch that still hold their
slot, and among all that has happened every loop that was created is either still
queued or has been launched or dropped exactly once.
-/

namespace Standby.Dispatcher

open Duration (Millis)

namespace Event

/-- A worker loop has been launched, or dropped unrun. -/
def closes (number : WorkerId) (event : Event) : Bool :=
  match event with
  | .registered other | .stale other | .discarded other => other = number
  | _ => false

/-- A worker loop has been created, launched, or dropped unrun. -/
def opensOrCloses : Event → Bool
  | .created _ | .registered _ | .stale _ | .discarded _ => true
  | _ => false

/-- Where the slot of a loop is closed, a loop is concerned. -/
theorem opensOrCloses_of_closes {number : WorkerId} {event : Event}
    (closed : event.closes number = true) : event.opensOrCloses = true := by
  cases event <;> first | rfl | cases closed

/-- Where no loop is concerned, none is created. -/
theorem count_created {events : List Event}
    (quiet : ∀ event ∈ events, event.opensOrCloses = false) (number : WorkerId) :
    events.count (.created number) = 0 := by
  rw [List.count_eq_zero]
  intro created
  cases quiet _ created

/-- Where no loop is concerned, none is launched or dropped. -/
theorem countP_closes {events : List Event}
    (quiet : ∀ event ∈ events, event.opensOrCloses = false) (number : WorkerId) :
    events.countP (·.closes number) = 0 := by
  rw [List.countP_eq_zero]
  intro event member closed
  have concerned := opensOrCloses_of_closes closed
  rw [quiet event member] at concerned
  cases concerned

end Event

/-- A worker loop that has not been launched. -/
def Worker.isQueued (worker : Worker) : Bool := worker.stage = .queued

/-- A worker that is told to retire has long been launched. -/
theorem Worker.isQueued_receive (worker : Worker) (handoff : Handoff) :
    (worker.receive handoff).isQueued = worker.isQueued := by
  unfold receive
  split
  · rename_i stage
    simp [isQueued, stage]
  · rfl

/-- Whoever is told to retire is as little queued as before. -/
theorem Worker.isQueued_tell (worker : Worker) (roster : Roster) (number : WorkerId) :
    (roster.tell number worker).isQueued = worker.isQueued := by
  unfold Roster.tell
  split
  · exact isQueued_receive worker .retire
  · rfl

namespace System

/-- A worker loop of this system has been created and not yet launched. -/
def isQueued (system : System) (number : WorkerId) : Bool :=
  system.workers[number]?.any Worker.isQueued

/-- What happens in one section agrees with the loops that are queued before and after
it. -/
structure Balanced (system next : System) (events : List Event) : Prop where
  grown : ∀ number, (decide (number < next.workers.length)).toNat =
    (decide (number < system.workers.length)).toNat + events.count (.created number)
  queued : ∀ number, (next.isQueued number).toNat + events.countP (·.closes number) =
    (system.isQueued number).toNat + events.count (.created number)

namespace Balanced

variable {system next : System} {events : List Event} {number : WorkerId} {worker : Worker}

/-- Nothing is to be said when the queued loops stay as they are. -/
theorem still (length : next.workers.length = system.workers.length)
    (queued : ∀ number, next.isQueued number = system.isQueued number)
    (quiet : ∀ event ∈ events, event.opensOrCloses = false) : Balanced system next events where
  grown number := by rw [length, Event.count_created quiet, Nat.add_zero]
  queued number := by rw [queued, Event.count_created quiet, Event.countP_closes quiet]

/-- The loops stay when only calls and the roster change. -/
theorem same (workers : next.workers = system.workers)
    (quiet : ∀ event ∈ events, event.opensOrCloses = false) : Balanced system next events :=
  still (by rw [workers]) (fun number => by rw [isQueued, isQueued, workers]) quiet

/-- The loops stay when a worker changes that has long been launched. -/
theorem launched (found : system.workers[number]? = some worker) (change : Worker → Worker)
    (workers : next.workers = system.workers.modify number change)
    (changed : (change worker).isQueued = worker.isQueued)
    (quiet : ∀ event ∈ events, event.opensOrCloses = false) : Balanced system next events := by
  refine still (by rw [workers, List.length_modify]) (fun other => ?_) quiet
  rw [isQueued, isQueued, workers]
  by_cases same : number = other
  · subst same
    simp [found, changed]
  · rw [List.getElem?_modify_ne _ _ same]

/-- A queued loop is launched or dropped. -/
theorem closed (found : system.workers[number]? = some worker) (was : worker.stage = .queued)
    {stage : Stage} (launched : stage ≠ .queued) {event : Event}
    (workers : next.workers = system.workers.modify number (Worker.move stage))
    (closes : ∀ other, event.closes other = decide (number = other))
    (creates : ∀ other, event ≠ .created other) : Balanced system next [event] where
  grown other := by
    rw [workers, List.length_modify, List.count_singleton, beq_eq_false_iff_ne.mpr (creates other)]
    rfl
  queued other := by
    rw [List.count_singleton, beq_eq_false_iff_ne.mpr (creates other), List.countP_singleton,
      closes, isQueued, isQueued, workers]
    by_cases same : number = other
    · subst same
      simp [found, Worker.isQueued, Worker.move, launched, was]
    · simp [List.getElem?_modify_ne _ _ same, same]

/-- A loop is created. -/
theorem created (workers : next.workers = system.workers ++ [⟨system.roster.epoch, .queued⟩]) :
    Balanced system next [.created system.workers.length] where
  grown other := by
    rw [workers, List.length_append, List.count_singleton]
    rcases Nat.lt_trichotomy other system.workers.length with older | rfl | later
    · simp [older, Nat.lt_succ_of_lt older, Nat.ne_of_gt older]
    · simp
    · simp [Nat.not_lt_of_gt later, Nat.ne_of_lt later, Nat.not_lt.mpr (Nat.succ_le_of_lt later)]
  queued other := by
    rw [isQueued, isQueued, workers, List.count_singleton, List.countP_singleton,
      Counting.getElem?_concat]
    by_cases newest : other = system.workers.length
    · simp [newest, Worker.isQueued, Event.closes]
    · simp [newest, Ne.symm newest, Event.closes]

/-- All parked workers are told to retire. -/
theorem told (workers : next.workers = system.workers.mapIdx system.roster.tell)
    (quiet : ∀ event ∈ events, event.opensOrCloses = false) : Balanced system next events := by
  refine still (by rw [workers, List.length_mapIdx]) (fun other => ?_) quiet
  rw [isQueued, isQueued, workers, List.getElem?_mapIdx]
  cases system.workers[other]? with
  | none => rfl
  | some worker => exact Worker.isQueued_tell worker system.roster other

/-- Every section agrees with its loops. -/
theorem of_section {move : Move} {result : System × List Event}
    (running : ∀ number : WorkerId,
      system.workers[number]? = some ⟨system.roster.epoch, .queued⟩ →
        system.roster.phase = .running)
    (made : Section system move result) : Balanced system result.1 result.2 := by
  cases made with
  | invoked | illegal | started | retimed | restful | joined | announced | taken | refused
  | passedOn | brokenOff | letGo => exact same rfl (by simp [Event.opensOrCloses, reply])
  | turnedDown call fallsBack | declined call fallsBack =>
    cases fallsBack <;> exact same rfl (by simp [Event.opensOrCloses, decline, giveBack, reply])
  | claimed call fallsBack worker remaining found running parked ready =>
    obtain ⟨held, found, slot⟩ := Option.bind_eq_some_iff.mp ready
    exact launched found _ rfl (held.isQueued_receive _)
      (by simp [handOver, Event.opensOrCloses, reply])
  | created => exact created rfl
  | counted call fallsBack count event stage found answered =>
    refine same rfl ?_
    rcases answered with ⟨_, _, _, rfl⟩ | ⟨_, _, _, _, rfl⟩ <;> simp [Event.opensOrCloses]
  | stopBegun call =>
    exact told (awaitLastWorker_workers _ call) (by simp [retireAll, Event.opensOrCloses])
  | looked call => exact same (awaitLastWorker_workers _ call) (by simp)
  | abandoned unused active =>
    refine told (letGo_workers active) ?_
    simp [letGo_of_active active, retireAll, Event.opensOrCloses]
  | turnedAway number found busy =>
    -- This loop would give its slot back unseen, but it cannot be: its epoch still runs.
    exact absurd (running number found) busy
  | stale number epoch found | registered number found | discarded number found
  | forgotten number epoch found =>
    exact closed found rfl (by simp) rfl (fun _ => rfl) (by simp)
  | departed number epoch departure found =>
    cases departure <;> exact launched found _ rfl rfl (by simp [Event.opensOrCloses, depart])
  | began number epoch idleTimeout task duty waits found
  | told number epoch idleTimeout duty waits found
  | expired number epoch timeout found
  | withdrawn number epoch timeout slot found
  | kept number epoch timeout slot found
  | ended number epoch idleTimeout slot task outcome found
  | failed number epoch idleTimeout slot task failure found
  | reported number epoch idleTimeout slot task failure found
  | spilled number epoch idleTimeout slot task failure found
  | broke number epoch idleTimeout slot task failure found
  | parkedAgain number idleTimeout slot task found
  | leftAfterTask number epoch idleTimeout slot task found
  | leftRetired number epoch idleTimeout slot found
  | idled number epoch timeout found =>
    exact launched found _ rfl rfl (by simp [Event.opensOrCloses])

end Balanced

/-- All that has happened agrees with the loops: each was created once, and is queued
until it is launched or dropped. -/
theorem play_balanced {capacity : Nat} {idleTimeout : Option Millis} {moves : List Move}
    {result : System × List Event}
    (run : (fresh capacity idleTimeout).play moves = some result) :
    Balanced (fresh capacity idleTimeout) result.1 result.2 := by
  let invariant := Balanced (fresh capacity idleTimeout)
  have start : invariant (fresh capacity idleTimeout) [] := .same rfl (by simp)
  refine (play_sections invariant [] moves ?_ (.fresh capacity idleTimeout) start run).2
  rintro move - system events result order balanced made
  have section_balanced : Balanced system result.1 result.2 :=
    .of_section (fun number => order.census.running_of_queued) made
  constructor
  · intro number
    have before := balanced.grown number
    have after := section_balanced.grown number
    rw [List.count_append]
    omega
  · intro number
    have before := balanced.queued number
    have after := section_balanced.queued number
    rw [List.count_append, List.countP_append]
    omega

section Launching

variable {capacity : Nat} {system : System} {number : WorkerId} {epoch : Nat}

/-- A queued loop can be launched. -/
theorem step_launch (found : system.workers[number]? = some ⟨epoch, .queued⟩) :
    system.step (.launch number) = some (system.launch number epoch) := by
  simp [step, found]

/-- A queued loop can be dropped. -/
theorem step_discard (found : system.workers[number]? = some ⟨epoch, .queued⟩) :
    system.step (.discard number) = some (system.discard number epoch) := by
  simp [step, found]

/-- A loop that is launched in its epoch parks and gives up its slot. -/
theorem launch_of_current (census : Census capacity system.roster system.workers)
    (found : system.workers[number]? = some ⟨system.roster.epoch, .queued⟩) :
    number ∈ (system.launch number system.roster.epoch).1.roster.parked ∧
      (system.launch number system.roster.epoch).1.roster.starting + 1 =
        system.roster.starting := by
  have running := census.running_of_queued found
  have slot := census.starting_pos found
  have registered : (system.launch number system.roster.epoch).1.roster =
      system.roster.register number := by
    simp [launch, Roster.accepts, running, setStage]
  rw [registered]
  constructor
  · exact List.mem_cons_self
  · exact Nat.sub_add_cancel slot

/-- A loop that is dropped unrun in its epoch gives up its slot. -/
theorem discard_of_current (census : Census capacity system.roster system.workers)
    (found : system.workers[number]? = some ⟨system.roster.epoch, .queued⟩) :
    (system.discard number system.roster.epoch).1.roster.starting + 1 =
      system.roster.starting := by
  have slot := census.starting_pos found
  have given : (system.discard number system.roster.epoch).1.roster =
      system.roster.giveBack := by
    simp [discard, setStage]
  rw [given]
  exact Nat.sub_add_cancel slot

/-- Later a loop leaves the roster alone. -/
theorem roster_of_past (past : epoch ≠ system.roster.epoch) :
    (system.launch number epoch).1.roster = system.roster ∧
      (system.discard number epoch).1.roster = system.roster := by
  constructor
  · simp [launch, past.symm, setStage]
  · simp [discard, past.symm, setStage]

end Launching

/-- Every loop was created once. -/
theorem count_created_of_play {capacity : Nat} {idleTimeout : Option Millis} {moves : List Move}
    {result : System × List Event} (run : (fresh capacity idleTimeout).play moves = some result)
    (number : WorkerId) :
    result.2.count (.created number) = if number < result.1.workers.length then 1 else 0 := by
  have balanced : Balanced (fresh capacity idleTimeout) result.1 result.2 := play_balanced run
  have grown := balanced.grown number
  by_cases present : number < result.1.workers.length <;>
    simpa [fresh, present] using grown.symm

/-- The start slots are accounted for, at this moment and over all that has happened. -/
structure StartSlotsExact (system : System) (events : List Event) : Prop where
  /-- A slot is taken for every loop of this epoch that is still to be launched. -/
  exact : system.roster.starting = system.workers.countP fun worker =>
    worker.stage = .queued ∧ worker.epoch = system.roster.epoch
  /-- No slot is taken unless the dispatcher runs. -/
  idle : system.roster.phase ≠ .running → system.roster.starting = 0
  /-- A loop that is launched in its epoch finds the dispatcher running, gives up its
  slot and parks. Later it leaves the roster alone. -/
  launched : ∀ number epoch, system.workers[number]? = some ⟨epoch, .queued⟩ →
    ∃ result, system.step (.launch number) = some result ∧
      if epoch = system.roster.epoch then
        system.roster.phase = .running ∧ number ∈ result.1.roster.parked ∧
          result.1.roster.starting + 1 = system.roster.starting
      else result.1.roster = system.roster
  /-- A loop that is dropped unrun in its epoch gives up its slot. Later it leaves the
  roster alone. -/
  dropped : ∀ number epoch, system.workers[number]? = some ⟨epoch, .queued⟩ →
    ∃ result, system.step (.discard number) = some result ∧
      if epoch = system.roster.epoch then
        result.1.roster.starting + 1 = system.roster.starting
      else result.1.roster = system.roster
  /-- Every loop was created once. -/
  created : ∀ number, events.count (.created number) =
    if number < system.workers.length then 1 else 0
  /-- Every loop that is not queued any more was launched or dropped, once. -/
  closed : ∀ number worker, system.workers[number]? = some worker →
    events.countP (·.closes number) = if worker.stage = .queued then 0 else 1

/-- Every run accounts for its start slots. -/
theorem play_startSlotsExact (capacity : Nat) (idleTimeout : Option Millis) (moves : List Move)
    (system : System) (events : List Event)
    (run : (fresh capacity idleTimeout).play moves = some (system, events)) :
    system.StartSlotsExact events := by
  have census : Census capacity system.roster system.workers := (inOrder_of_play run).census
  have balanced : Balanced (fresh capacity idleTimeout) system events := play_balanced run
  have once (number : WorkerId) :
      events.count (.created number) = if number < system.workers.length then 1 else 0 :=
    count_created_of_play run number
  exact
    { exact := census.starting
      idle := census.starting_of_not_running
      launched := by
        intro number epoch found
        refine ⟨_, step_launch found, ?_⟩
        split
        · rename_i current
          subst current
          exact ⟨census.running_of_queued found, launch_of_current census found⟩
        · rename_i past
          exact (roster_of_past past).1
      dropped := by
        intro number epoch found
        refine ⟨_, step_discard found, ?_⟩
        split
        · rename_i current
          subst current
          exact discard_of_current census found
        · rename_i past
          exact (roster_of_past past).2
      created := once
      closed := by
        intro number worker found
        have present := (List.getElem?_eq_some_iff.mp found).1
        have opened : events.count (.created number) = 1 := by rw [once, if_pos present]
        have queued := balanced.queued number
        by_cases waits : worker.stage = .queued <;>
          simpa [fresh, isQueued, found, Worker.isQueued, opened, waits] using queued }

/-- A loop is still queued when the dispatcher is stopped, and another is created after
the next start. -/
def lateLoop : List Move :=
  [.invoke .start, .proceed 0, .invoke (.offer false), .proceed 1, .invoke .stop, .proceed 2,
    .proceed 2, .invoke .start, .proceed 3, .invoke (.offer false), .proceed 4]

/-- Of two loops that are queued, only the later one holds a slot. -/
theorem lateLoop_startSlotsExact :
    ∃ system events, (fresh 1 none).play lateLoop = some (system, events) ∧
      system.workers.countP Worker.isQueued = 2 ∧ system.roster.starting = 1 ∧
      system.StartSlotsExact events :=
  ⟨_, _, rfl, rfl, rfl, play_startSlotsExact 1 none lateLoop _ _ rfl⟩

end System

end Standby.Dispatcher
