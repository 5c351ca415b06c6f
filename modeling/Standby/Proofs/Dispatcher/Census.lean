import Standby.Proofs.Counting
import Standby.Proofs.Dispatcher.Station

/-!
# The census of a dispatcher

How the roster of a dispatcher agrees with its workers: the list of parked workers
names those that are parked, and the three numbers count those that they are meant
to count. A worker that has nothing to do with the roster any more is counted
nowhere.

Most sections change the stage of one worker and the roster with it; for these
`Census.turn` says what has to be checked.
-/

namespace Standby.Dispatcher

open Duration (Millis)

/-- A worker is in order at this phase and epoch. Nobody retires while the
dispatcher runs, nobody stays parked when it does not, and no worker is ahead of the
epoch. -/
structure Worker.Orderly (phase : Phase) (epoch : Nat) (worker : Worker) : Prop where
  placed : worker.stage.Placed
  early : worker.epoch ≤ epoch
  current : phase = .running → worker.stage.isServing →
    worker.epoch = epoch ∧ worker.stage.station? ≠ some .retiring
  past : phase ≠ .running → worker.epoch < epoch ∧ worker.stage.station? ≠ some .parked

/-- The worker loop was created in this epoch and has not been launched. -/
def Worker.isStarting (epoch : Nat) (worker : Worker) : Bool :=
  worker.stage = .queued ∧ worker.epoch = epoch

namespace Worker.Orderly

variable {phase : Phase} {epoch : Nat} {worker : Worker} {stage : Stage}

/-- A worker stays in order when it neither registers, nor parks, nor begins to
retire. -/
theorem move (orderly : worker.Orderly phase epoch) (placed : stage.Placed)
    (serving : stage.isServing → worker.stage.isServing)
    (retiring : stage.station? = some .retiring → worker.stage.station? = some .retiring)
    (parked : stage.station? = some .parked → worker.stage.station? = some .parked) :
    (⟨worker.epoch, stage⟩ : Worker).Orderly phase epoch where
  placed := placed
  early := orderly.early
  current running serves :=
    have before := orderly.current running (serving serves)
    ⟨before.1, fun stands => before.2 (retiring stands)⟩
  past idle :=
    have before := orderly.past idle
    ⟨before.1, fun stands => before.2 (parked stands)⟩

/-- A worker that does not serve any more stays in order. -/
theorem leave (orderly : worker.Orderly phase epoch) (idle : stage.isServing = false) :
    (⟨worker.epoch, stage⟩ : Worker).Orderly phase epoch := by
  have nowhere (station : Station) : stage.station? ≠ some station := fun stands => by
    simp [Stage.serving_of_station stands] at idle
  refine orderly.move ?_ ?_ (fun stands => absurd stands (nowhere _))
    fun stands => absurd stands (nowhere _)
  · intro serves
    simp [serves] at idle
  · intro serves
    simp [serves] at idle

end Worker.Orderly

/-- The roster agrees with the workers, within a capacity. -/
structure Census (capacity : Nat) (roster : Roster) (workers : List Worker) : Prop where
  distinct : roster.parked.Nodup
  parked : ∀ number, number ∈ roster.parked ↔
    ∃ worker, workers[number]? = some worker ∧ worker.stage.station? = some .parked
  orderly : ∀ worker ∈ workers, worker.Orderly roster.phase roster.epoch
  live : roster.live = workers.countP (·.stage.isLive)
  pending : roster.pending = workers.countP (·.stage.isPending)
  starting : roster.starting = workers.countP (Worker.isStarting roster.epoch)
  deserted : roster.phase = .stopped → roster.live = 0
  settled : roster.phase ≠ .starting
  within : roster.live + roster.starting ≤ capacity

namespace Census

variable {capacity : Nat} {roster : Roster} {workers : List Worker}

/-- Nothing is out of order in a new dispatcher. -/
theorem fresh (capacity : Nat) (idleTimeout : Option Millis) :
    Census capacity (.fresh idleTimeout) [] where
  distinct := List.nodup_nil
  parked := by simp [Roster.fresh]
  orderly := by simp
  live := rfl
  pending := rfl
  starting := rfl
  deserted _ := rfl
  settled := by simp [Roster.fresh]
  within := Nat.zero_le capacity

/-- A worker that is found is in order. -/
theorem orderly_of_found (census : Census capacity roster workers) {number : WorkerId}
    {worker : Worker} (found : workers[number]? = some worker) :
    worker.Orderly roster.phase roster.epoch :=
  census.orderly worker (List.mem_of_getElem? found)

/-- Whether a worker is parked can be seen from its stage. -/
theorem parked_iff (census : Census capacity roster workers) {number : WorkerId}
    {worker : Worker} (found : workers[number]? = some worker) :
    number ∈ roster.parked ↔ worker.stage.station? = some .parked := by
  rw [census.parked]
  simp [found]

/-- No loop of the current epoch is left to launch unless the dispatcher runs. -/
theorem starting_of_not_running (census : Census capacity roster workers)
    (idle : roster.phase ≠ .running) : roster.starting = 0 := by
  rw [census.starting]
  apply List.countP_eq_zero.mpr
  intro worker member starting
  have epochs := ((census.orderly worker member).past idle).1
  simp [Worker.isStarting] at starting
  omega

/-- As many workers are parked as the list names. -/
theorem available (census : Census capacity roster workers) :
    roster.available = workers.countP fun worker => worker.stage.station? = some .parked :=
  Counting.length_of_positions _ workers roster.parked census.distinct fun number => by
    simp [census.parked]

/-- The live workers are those that are parked, those that count as having a task,
and those that retire. -/
theorem live_eq (census : Census capacity roster workers) :
    roster.live = roster.available + roster.pending +
      workers.countP fun worker => worker.stage.station? = some .retiring := by
  rw [census.live, census.available, census.pending]
  exact Counting.countP_split _ _ _ _ workers fun worker member =>
    worker.stage.live_split (census.orderly worker member).placed

/-- While the dispatcher runs, nobody retires. -/
theorem live_of_running (census : Census capacity roster workers)
    (running : roster.phase = .running) : roster.live = roster.available + roster.pending := by
  have nobody : (workers.countP fun worker => worker.stage.station? = some .retiring) = 0 := by
    apply List.countP_eq_zero.mpr
    intro worker member retiring
    have stands : worker.stage.station? = some .retiring := of_decide_eq_true retiring
    exact ((census.orderly worker member).current running
      (Stage.serving_of_station stands)).2 stands
  rw [census.live_eq, nobody, Nat.add_zero]

end Census

/-- What has to be checked when one worker comes to another stage and the roster
changes with it. -/
structure Turn (roster : Roster) (number : WorkerId) (worker : Worker) (roster' : Roster)
    (stage : Stage) : Prop where
  phase : roster'.phase = roster.phase
  epoch : roster'.epoch = roster.epoch
  distinct : roster'.parked.Nodup
  others : ∀ other, other ≠ number → (other ∈ roster'.parked ↔ other ∈ roster.parked)
  parked : number ∈ roster'.parked ↔ stage.station? = some .parked
  orderly : (⟨worker.epoch, stage⟩ : Worker).Orderly roster.phase roster.epoch
  live : roster'.live + worker.stage.isLive.toNat = roster.live + stage.isLive.toNat
  pending : roster'.pending + worker.stage.isPending.toNat =
    roster.pending + stage.isPending.toNat
  starting : roster'.starting + (worker.isStarting roster.epoch).toNat =
    roster.starting + (Worker.isStarting roster.epoch ⟨worker.epoch, stage⟩).toNat
  within : roster'.live + roster'.starting ≤ roster.live + roster.starting

namespace Census

variable {capacity : Nat} {roster roster' : Roster} {workers : List Worker}
  {number : WorkerId} {worker : Worker} {stage : Stage}

/-- The census stands when one worker turns. -/
theorem turn (census : Census capacity roster workers)
    (found : workers[number]? = some worker) (change : Worker → Worker)
    (changed : change worker = ⟨worker.epoch, stage⟩)
    (turn : Turn roster number worker roster' stage) :
    Census capacity roster' (workers.modify number change) where
  distinct := turn.distinct
  parked other := by
    by_cases same : other = number
    · subst same
      rw [turn.parked, List.getElem?_modify_eq, found]
      simp [changed]
    · rw [turn.others other same, census.parked, List.getElem?_modify_ne _ _ (Ne.symm same)]
  orderly := by
    rw [turn.phase, turn.epoch]
    exact Counting.forall_modify found census.orderly (changed ▸ turn.orderly)
  live := by
    have counted := Counting.countP_modify (·.stage.isLive) change workers number worker found
    have before := census.live
    have after := turn.live
    simp only [changed] at counted
    omega
  pending := by
    have counted := Counting.countP_modify (·.stage.isPending) change workers number worker found
    have before := census.pending
    have after := turn.pending
    simp only [changed] at counted
    omega
  starting := by
    have counted := Counting.countP_modify (Worker.isStarting roster.epoch) change workers
      number worker found
    have before := census.starting
    have after := turn.starting
    rw [turn.epoch]
    simp only [changed] at counted
    omega
  deserted stopped := by
    rw [turn.phase] at stopped
    have nobody := census.deserted stopped
    have none := census.starting_of_not_running (by simp [stopped])
    have within := turn.within
    omega
  settled := by
    rw [turn.phase]
    exact census.settled
  within := Nat.le_trans turn.within census.within

/-- A worker whose turn leaves the roster alone only has to be counted as before. -/
theorem stay (census : Census capacity roster workers)
    (found : workers[number]? = some worker)
    (orderly : (⟨worker.epoch, stage⟩ : Worker).Orderly roster.phase roster.epoch)
    (parked : stage.station? = some .parked ↔ worker.stage.station? = some .parked)
    (live : stage.isLive = worker.stage.isLive)
    (pending : stage.isPending = worker.stage.isPending)
    (starting : Worker.isStarting roster.epoch ⟨worker.epoch, stage⟩ =
      worker.isStarting roster.epoch) :
    Census capacity roster (workers.modify number (Worker.move stage)) :=
  census.turn found (Worker.move stage) rfl
    { phase := rfl
      epoch := rfl
      distinct := census.distinct
      others := fun _ _ => Iff.rfl
      parked := (census.parked_iff found).trans parked.symm
      orderly := orderly
      live := by rw [live]
      pending := by rw [pending]
      starting := by rw [starting]
      within := Nat.le_refl _ }

/-- A live worker is counted. -/
theorem live_pos (census : Census capacity roster workers)
    (found : workers[number]? = some worker) (live : worker.stage.isLive) :
    0 < roster.live := by
  rw [census.live, List.countP_pos_iff]
  exact ⟨worker, List.mem_of_getElem? found, live⟩

/-- A worker with a task is counted. -/
theorem pending_pos (census : Census capacity roster workers)
    (found : workers[number]? = some worker) (pending : worker.stage.isPending) :
    0 < roster.pending := by
  rw [census.pending, List.countP_pos_iff]
  exact ⟨worker, List.mem_of_getElem? found, pending⟩

/-- A loop of the current epoch that has not been launched is counted. -/
theorem starting_pos (census : Census capacity roster workers)
    (found : workers[number]? = some ⟨roster.epoch, .queued⟩) : 0 < roster.starting := by
  rw [census.starting, List.countP_pos_iff]
  exact ⟨_, List.mem_of_getElem? found, by simp [Worker.isStarting]⟩

/-- A loop of the current epoch finds the dispatcher running. -/
theorem running_of_queued (census : Census capacity roster workers)
    (found : workers[number]? = some ⟨roster.epoch, .queued⟩) : roster.phase = .running := by
  apply Decidable.byContradiction
  intro idle
  have past := ((census.orderly_of_found found).past idle).1
  exact Nat.lt_irrefl _ past

end Census

end Standby.Dispatcher
