import Standby.Proofs.Dispatcher.Census

/-!
# What keeps the census

The sections of a dispatcher, as far as the census is concerned: what one worker does,
what happens to the phase, and what concerns all workers at once.
-/

namespace Standby.Dispatcher

open Duration (Millis)

/-- What becomes of a worker when all that are parked are told to retire. -/
def Roster.tell (roster : Roster) (number : WorkerId) (worker : Worker) : Worker :=
  if number ∈ roster.parked then worker.receive .retire else worker

namespace Census

variable {capacity : Nat} {roster : Roster} {workers : List Worker}
  {number : WorkerId} {worker : Worker} {stage : Stage}

/-- A worker that serves on stands where it stood, or takes its task into its
hands. -/
theorem serve (census : Census capacity roster workers) {epoch : Nat}
    {before after : Option Millis} {slot left : Option Handoff} {duty next : Duty}
    {station arrived : Station}
    (found : workers[number]? = some ⟨epoch, .serving before slot duty⟩)
    (stood : duty.station? slot = some station) (stands : next.station? left = some arrived)
    (alike : arrived = station ∨ station = .claimed ∧ arrived = .executing) :
    Census capacity roster
      (workers.modify number (Worker.move (.serving after left next))) := by
  have old : (Stage.serving before slot duty).station? = some station := stood
  have new : (Stage.serving after left next).station? = some arrived := stands
  refine census.stay found ?_ ?_ rfl ?_ rfl
  · refine (census.orderly_of_found found).move (fun _ => by simp [new]) (fun _ => rfl) ?_ ?_ <;>
      rcases alike with rfl | ⟨rfl, rfl⟩ <;> simp [old, new]
  · rcases alike with rfl | ⟨rfl, rfl⟩ <;> simp [old, new]
  · rcases alike with rfl | ⟨rfl, rfl⟩ <;> simp [Stage.isPending, old, new]

/-- Nothing counts a worker that is not live, whatever becomes of it, unless its loop
is still to be launched in this epoch. -/
theorem rest (census : Census capacity roster workers)
    (found : workers[number]? = some worker) (dead : worker.stage.isLive = false)
    (departed : stage.isLive = false) (late : worker.isStarting roster.epoch = false)
    (launched : stage ≠ .queued) :
    Census capacity roster (workers.modify number (Worker.move stage)) := by
  obtain ⟨before, idle, nowhere⟩ := Stage.of_not_live dead
  obtain ⟨after, rested, gone⟩ := Stage.of_not_live departed
  refine census.stay found ((census.orderly_of_found found).leave after) ?_ ?_ ?_ ?_
  · simp [nowhere, gone]
  · rw [dead, departed]
  · rw [idle, rested]
  · rw [late]
    simp [Worker.isStarting, launched]

/-- A worker loop that ends unlaunched gives its start slot back. -/
theorem giveBack (census : Census capacity roster workers)
    (found : workers[number]? = some ⟨roster.epoch, .queued⟩) (ending : Ending)
    (whole : ending ≠ .broken) :
    Census capacity roster.giveBack (workers.modify number (Worker.move (.gone ending))) := by
  have slot := census.starting_pos found
  have dead : (Stage.gone ending).isLive = false := by cases ending <;> simp_all [Stage.isLive]
  have idle : (Stage.gone ending).isPending = false := by
    simp [Stage.isPending, Stage.station?, whole]
  refine census.turn found _ rfl
    { phase := rfl
      epoch := rfl
      distinct := census.distinct
      others := fun _ _ => Iff.rfl
      parked := census.parked_iff found
      orderly := (census.orderly_of_found found).leave rfl
      live := ?_
      pending := ?_
      starting := ?_
      within := ?_ }
  · rw [dead]
    rfl
  · rw [idle]
    rfl
  · simp only [Worker.isStarting, Roster.giveBack]
    simp
    omega
  · simp only [Roster.giveBack]
    omega

/-- A worker loop registers and parks. -/
theorem register (census : Census capacity roster workers)
    (found : workers[number]? = some ⟨roster.epoch, .queued⟩)
    (running : roster.phase = .running) (idleTimeout : Option Millis) :
    Census capacity (roster.register number)
      (workers.modify number (Worker.move (.serving idleTimeout none .waiting))) := by
  have slot := census.starting_pos found
  have unlisted : number ∉ roster.parked := by
    rw [census.parked_iff found]
    nofun
  refine census.turn found _ rfl
    { phase := rfl
      epoch := rfl
      distinct := List.nodup_cons.mpr ⟨unlisted, census.distinct⟩
      others := fun other different => by simp [Roster.register, Roster.park, different]
      parked := by simp [Roster.register, Roster.park, Stage.station?, Duty.station?]
      orderly :=
        { placed := fun _ => rfl
          early := Nat.le_refl _
          current := fun _ _ => ⟨rfl, nofun⟩
          past := fun idle => absurd running idle }
      live := rfl
      pending := rfl
      starting := ?_
      within := ?_ }
  · simp only [Worker.isStarting, Roster.register]
    simp
    omega
  · simp only [Roster.register]
    omega

/-- A parked worker is given a task. -/
theorem claim (census : Census capacity roster workers) {remaining : List WorkerId}
    (parked : roster.parked = number :: remaining) (task : Task) :
    Census capacity (roster.claim remaining)
      (workers.modify number (Worker.receive (.task task))) := by
  obtain ⟨⟨epoch, stage⟩, found, stands⟩ := (census.parked number).mp (by simp [parked])
  obtain ⟨idleTimeout, duty, rfl, waits⟩ := (Stage.parked_iff stage).mp stands
  have waiting : duty.isWaiting = true := by rcases waits with rfl | rfl <;> rfl
  have before : (Stage.serving idleTimeout none duty).isPending = false := by
    simp [Stage.isPending, stands]
  have after : (Stage.serving idleTimeout (some (.task task)) duty).station? =
      some .claimed := by
    simp [Stage.station?, Duty.station?, waiting]
  have distinct := census.distinct
  rw [parked, List.nodup_cons] at distinct
  refine census.turn found (Worker.receive (.task task)) rfl
    { phase := rfl
      epoch := rfl
      distinct := distinct.2
      others := fun other different => by simp [Roster.claim, parked, different]
      parked := by simp [Roster.claim, distinct.1, after]
      orderly := (census.orderly_of_found found).move (fun _ => by simp [after]) (fun _ => rfl)
        (fun stands => by simp [after] at stands) fun stands => by simp [after] at stands
      live := rfl
      pending := ?_
      starting := rfl
      within := Nat.le_refl _ }
  rw [before]
  simp [Roster.claim, Stage.isPending, after]

/-- A parked worker leaves for being idle. -/
theorem withdraw (census : Census capacity roster workers)
    (found : workers[number]? = some worker) (parked : number ∈ roster.parked)
    (timeout : Millis) :
    Census capacity (roster.withdraw number)
      (workers.modify number (Worker.move (.announcing (.idle timeout)))) := by
  have stands := (census.parked_iff found).mp parked
  obtain ⟨epoch, stage⟩ := worker
  obtain ⟨idleTimeout, duty, rfl, waits⟩ := (Stage.parked_iff stage).mp stands
  have counted := census.live_pos found rfl
  have idle : (Stage.serving idleTimeout none duty).isPending = false := by
    simp [Stage.isPending, stands]
  refine census.turn found _ rfl
    { phase := rfl
      epoch := rfl
      distinct := census.distinct.erase number
      others := fun other different => List.mem_erase_of_ne different
      parked := by simp [Roster.withdraw, census.distinct.mem_erase_iff, Stage.station?]
      orderly := (census.orderly_of_found found).leave rfl
      live := ?_
      pending := ?_
      starting := rfl
      within := ?_ }
  · simp only [Roster.withdraw, Roster.leave, Stage.isLive, Bool.toNat_true, Bool.toNat_false]
    omega
  · rw [idle]
    rfl
  · simp only [Roster.withdraw, Roster.leave]
    omega

/-- A worker gives its task back and parks. -/
theorem park (census : Census capacity roster workers) (idleTimeout : Option Millis)
    {slot : Option Handoff} {task : Task}
    (found : workers[number]? = some ⟨roster.epoch, .serving idleTimeout slot (.ended task)⟩)
    (running : roster.phase = .running) :
    Census capacity (roster.release.park number)
      (workers.modify number (Worker.move (.serving idleTimeout slot .waiting))) := by
  obtain rfl : slot = none := (census.orderly_of_found found).placed.slot_eq_none rfl
  have counted := census.pending_pos found rfl
  have unlisted : number ∉ roster.parked := by
    rw [census.parked_iff found]
    nofun
  refine census.turn found _ rfl
    { phase := rfl
      epoch := rfl
      distinct := List.nodup_cons.mpr ⟨unlisted, census.distinct⟩
      others := fun other different => by simp [Roster.release, Roster.park, different]
      parked := by simp [Roster.release, Roster.park, Stage.station?, Duty.station?]
      orderly :=
        { placed := fun _ => rfl
          early := Nat.le_refl _
          current := fun _ _ => ⟨rfl, nofun⟩
          past := fun idle => absurd running idle }
      live := rfl
      pending := ?_
      starting := rfl
      within := Nat.le_refl _ }
  simp only [Roster.park, Roster.release, Stage.isPending, Stage.station?, Duty.station?,
    Bool.toNat_true, Bool.toNat_false]
  omega

/-- A worker gives its task back and leaves. -/
theorem leaveAfterTask (census : Census capacity roster workers) {epoch : Nat}
    {idleTimeout : Option Millis} {slot : Option Handoff} {task : Task}
    (found : workers[number]? = some ⟨epoch, .serving idleTimeout slot (.ended task)⟩)
    (departure : Departure) :
    Census capacity roster.release.leave
      (workers.modify number (Worker.move (.announcing departure))) := by
  obtain rfl : slot = none := (census.orderly_of_found found).placed.slot_eq_none rfl
  have pending := census.pending_pos found rfl
  have live := census.live_pos found rfl
  refine census.turn found _ rfl
    { phase := rfl
      epoch := rfl
      distinct := census.distinct
      others := fun _ _ => Iff.rfl
      parked := (census.parked_iff found).trans (by simp [Stage.station?, Duty.station?])
      orderly := (census.orderly_of_found found).leave rfl
      live := ?_
      pending := ?_
      starting := rfl
      within := ?_ }
  · simp only [Roster.leave, Roster.release, Stage.isLive, Bool.toNat_true, Bool.toNat_false]
    omega
  · simp only [Roster.leave, Roster.release, Stage.isPending, Stage.station?, Duty.station?,
      Bool.toNat_true]
    simp
    omega
  · simp only [Roster.leave, Roster.release]
    omega

/-- A worker that was told to retire leaves. -/
theorem leaveRetired (census : Census capacity roster workers) {epoch : Nat}
    {idleTimeout : Option Millis} {slot : Option Handoff}
    (found : workers[number]? = some ⟨epoch, .serving idleTimeout slot .retiring⟩)
    (departure : Departure) :
    Census capacity roster.leave
      (workers.modify number (Worker.move (.announcing departure))) := by
  obtain rfl : slot = none := (census.orderly_of_found found).placed.slot_eq_none rfl
  have live := census.live_pos found rfl
  refine census.turn found _ rfl
    { phase := rfl
      epoch := rfl
      distinct := census.distinct
      others := fun _ _ => Iff.rfl
      parked := (census.parked_iff found).trans (by simp [Stage.station?, Duty.station?])
      orderly := (census.orderly_of_found found).leave rfl
      live := ?_
      pending := rfl
      starting := rfl
      within := ?_ }
  · simp only [Roster.leave, Stage.isLive, Bool.toNat_true, Bool.toNat_false]
    omega
  · simp only [Roster.leave]
    omega

/-- Nobody serves when nobody is counted as live. -/
theorem not_serving (census : Census capacity roster workers) (nobody : roster.live = 0)
    {worker : Worker} (member : worker ∈ workers) : worker.stage.isServing = false := by
  rw [census.live, List.countP_eq_zero] at nobody
  have dead := nobody worker member
  cases stage : worker.stage <;> simp_all [Stage.isLive, Stage.isServing]

/-- A stopped dispatcher starts. -/
theorem start (census : Census capacity roster workers) (stopped : roster.phase = .stopped) :
    Census capacity { roster with phase := .running } workers where
  distinct := census.distinct
  parked := census.parked
  orderly worker member :=
    have before := census.orderly worker member
    { placed := before.placed
      early := before.early
      current := fun _ serves => by
        simp [census.not_serving (census.deserted stopped) member] at serves
      past := fun idle => absurd rfl idle }
  live := census.live
  pending := census.pending
  starting := census.starting
  deserted := nofun
  settled := nofun
  within := census.within

/-- The idle timeout does not matter to the census. -/
theorem retime (census : Census capacity roster workers) (idleTimeout : Option Millis) :
    Census capacity { roster with idleTimeout := idleTimeout } workers where
  distinct := census.distinct
  parked := census.parked
  orderly := census.orderly
  live := census.live
  pending := census.pending
  starting := census.starting
  deserted := census.deserted
  settled := census.settled
  within := census.within

/-- A dispatcher that begins to stop is stopped once its last worker has left. -/
theorem stop (census : Census capacity roster workers) (stopping : roster.phase = .stopping)
    (nobody : roster.live = 0) : Census capacity { roster with phase := .stopped } workers where
  distinct := census.distinct
  parked := census.parked
  orderly worker member :=
    have before := census.orderly worker member
    { placed := before.placed
      early := before.early
      current := nofun
      past := fun _ => before.past (by simp [stopping]) }
  live := census.live
  pending := census.pending
  starting := census.starting
  deserted _ := nobody
  settled := nofun
  within := census.within

/-- A running dispatcher with room for another worker creates a loop. -/
theorem create (census : Census capacity roster workers) (running : roster.phase = .running)
    (room : roster.reserved < capacity) :
    Census capacity roster.announce (workers ++ [⟨roster.epoch, .queued⟩]) where
  distinct := census.distinct
  parked number := by
    rw [show roster.announce.parked = roster.parked from rfl, census.parked,
      Counting.getElem?_concat]
    split
    · rename_i newest
      simp [newest, Stage.station?]
    · rfl
  orderly worker member := by
    rcases List.mem_append.mp member with older | newest
    · exact census.orderly worker older
    · obtain rfl := List.mem_singleton.mp newest
      exact
        { placed := fun serves => absurd serves (by simp [Stage.isServing])
          early := Nat.le_refl _
          current := fun _ serves => absurd serves (by simp [Stage.isServing])
          past := fun idle => absurd running idle }
  live := by
    rw [List.countP_append]
    exact census.live
  pending := by
    rw [List.countP_append]
    exact census.pending
  starting := by
    rw [List.countP_append]
    simp [Roster.announce, Worker.isStarting, census.starting]
  deserted := by simp [Roster.announce, running]
  settled := census.settled
  within := by
    have live := census.live_of_running running
    simp only [Roster.announce, Roster.reserved, Roster.available] at live room ⊢
    omega

/-- A worker is told to retire if it is parked. Any other stays as it is. -/
theorem told (census : Census capacity roster workers)
    (found : workers[number]? = some worker) :
    number ∉ roster.parked ∧ worker.stage.station? ≠ some .parked ∧
        roster.tell number worker = worker ∨
      number ∈ roster.parked ∧ ∃ epoch idleTimeout duty, duty.isWaiting = true ∧
        worker = ⟨epoch, .serving idleTimeout none duty⟩ ∧
        worker.stage.station? = some .parked ∧
        roster.tell number worker = ⟨epoch, .serving idleTimeout (some .retire) duty⟩ := by
  by_cases parked : number ∈ roster.parked
  · have stands := (census.parked_iff found).mp parked
    obtain ⟨epoch, stage⟩ := worker
    obtain ⟨idleTimeout, duty, rfl, waits⟩ := (Stage.parked_iff stage).mp stands
    have waiting : duty.isWaiting = true := by rcases waits with rfl | rfl <;> rfl
    refine .inr ⟨parked, epoch, idleTimeout, duty, waiting, rfl, stands, ?_⟩
    simp [Roster.tell, parked, Worker.receive]
  · refine .inl ⟨parked, fun stands => parked ((census.parked_iff found).mpr stands), ?_⟩
    simp [Roster.tell, parked]

/-- A worker that is told to retire counts as before, and is parked no more. -/
theorem of_tell (census : Census capacity roster workers)
    (found : workers[number]? = some worker) :
    (roster.tell number worker).epoch = worker.epoch ∧
      (roster.tell number worker).stage.Placed ∧
      (roster.tell number worker).stage.isLive = worker.stage.isLive ∧
      (roster.tell number worker).stage.isPending = worker.stage.isPending ∧
      (roster.tell number worker).stage.station? ≠ some .parked := by
  rcases census.told found with ⟨_, elsewhere, same⟩ |
    ⟨_, epoch, idleTimeout, duty, waiting, rfl, stands, told⟩
  · rw [same]
    exact ⟨rfl, (census.orderly_of_found found).placed, rfl, rfl, elsewhere⟩
  · have retiring : (Stage.serving idleTimeout (some .retire) duty).station? =
        some .retiring := by
      simp [Stage.station?, Duty.station?, waiting]
    rw [told]
    refine ⟨rfl, fun _ => by simp [retiring], rfl, ?_, by simp [retiring]⟩
    simp [Stage.isPending, stands, retiring]

/-- Stopping begins, and all parked workers are told to retire. -/
theorem retireAll (census : Census capacity roster workers) :
    Census capacity roster.retireAll (workers.mapIdx roster.tell) where
  distinct := List.nodup_nil
  parked number := by
    rw [List.getElem?_mapIdx]
    apply iff_of_false List.not_mem_nil
    rintro ⟨worker, found, stands⟩
    obtain ⟨before, held, rfl⟩ := Option.map_eq_some_iff.mp found
    exact (census.of_tell held).2.2.2.2 stands
  orderly worker member := by
    obtain ⟨number, found⟩ := List.mem_iff_getElem?.mp member
    rw [List.getElem?_mapIdx] at found
    obtain ⟨before, held, rfl⟩ := Option.map_eq_some_iff.mp found
    obtain ⟨epoch, placed, _, _, elsewhere⟩ := census.of_tell held
    have early : (roster.tell number before).epoch < roster.retireAll.epoch := by
      rw [epoch]
      exact Nat.lt_succ_of_le (census.orderly_of_found held).early
    exact
      { placed := placed
        early := Nat.le_of_lt early
        current := nofun
        past := fun _ => ⟨early, elsewhere⟩ }
  live := by
    rw [Counting.countP_mapIdx _ (·.stage.isLive) _ _ fun number before held =>
      (census.of_tell held).2.2.1]
    exact census.live
  pending := by
    rw [Counting.countP_mapIdx _ (·.stage.isPending) _ _ fun number before held =>
      (census.of_tell held).2.2.2.1]
    exact census.pending
  starting := by
    refine (List.countP_eq_zero.mpr fun worker member starting => ?_).symm
    obtain ⟨number, found⟩ := List.mem_iff_getElem?.mp member
    rw [List.getElem?_mapIdx] at found
    obtain ⟨before, held, rfl⟩ := Option.map_eq_some_iff.mp found
    have early := (census.orderly_of_found held).early
    have epoch := (census.of_tell held).1
    have latest : (roster.tell number before).epoch = roster.epoch + 1 :=
      (of_decide_eq_true starting).2
    omega
  deserted := nofun
  settled := nofun
  within := Nat.le_trans (Nat.add_le_add_left (Nat.zero_le _) _) census.within

end Census

end Standby.Dispatcher
