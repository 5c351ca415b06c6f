import Standby.Proofs.Dispatcher.Past

/-!
# What goes on behind a past

A past makes no difference to a dispatcher. Every program of its calls and of its loops
does the same under the later numbers, so every move is possible behind the past if and
only if it is possible without it, leaves the same dispatcher behind the past, and tells
the same. It follows for runs of any length.

The programs are compared one by one, as they are defined, since the list of sections
would not do: it assumes that parked workers are in order, and it has no entry for a move
that is not possible.
-/

namespace Standby.Dispatcher

open Duration (Millis)
open Executor (Refusal)

/-- What happened first is told first, behind a past as well. -/
theorem Leftover.result_append {past : Past} (leftover : Leftover past) (first : List Event)
    (result : System × List Event) :
    leftover.result (result.1, first ++ result.2) =
      ((leftover.result result).1, first.map (Event.after past) ++ (leftover.result result).2) :=
  Prod.ext rfl List.map_append

namespace System

variable {past : Past} (leftover : Leftover past) (system : System)

section Calls

variable (call : Nat)

/-- A task is given back behind a past as without it. -/
theorem giveBack_after (fallsBack : Bool) :
    (system.after leftover).giveBack (past.call call) fallsBack =
      leftover.result (system.giveBack call fallsBack) := by
  cases fallsBack with
  | true => exact Prod.ext (setCall_after leftover system call .fallingBack) rfl
  | false => exact reply_after leftover system call (.declined call)

/-- A declined offer counts behind a past as without it. -/
theorem decline_after (fallsBack : Bool) :
    (system.after leftover).decline (past.call call) fallsBack =
      leftover.result (system.decline call fallsBack) := by
  unfold decline
  rw [count_after]
  exact giveBack_after leftover (system.count .declined) call fallsBack

/-- A loop that is created takes the next number behind the past. -/
theorem create_after : (system.after leftover).create = system.create.after leftover := by
  simp only [create, after, List.map_append, List.append_assoc]
  rfl

/-- A declined offer creates a loop behind a past if it does without it. -/
theorem declineAndSpawn_after (fallsBack : Bool) :
    (system.after leftover).declineAndSpawn (past.call call) fallsBack =
      leftover.result (system.declineAndSpawn call fallsBack) := by
  have next : (system.after leftover).workers.length = past.worker system.workers.length := by
    simp [after, Past.worker, leftover.length_eq]
  have same : (system.after leftover).roster.reserved = system.roster.reserved :=
    system.roster.reserved_after
  by_cases room : system.roster.reserved < system.capacity
  · have submitting := setCall_after leftover system.create call
      (.submitting fallsBack system.workers.length)
    rw [← create_after] at submitting
    unfold declineAndSpawn
    rw [if_pos room, if_pos (by rw [same]; exact room), next]
    exact Prod.ext submitting rfl
  · unfold declineAndSpawn
    rw [if_neg room, if_neg (by rw [same]; exact room)]
    exact decline_after leftover system call fallsBack

/-- A task is handed over behind a past to the later worker. -/
theorem handOver_after (worker : WorkerId) (remaining : List WorkerId) :
    (system.after leftover).handOver (past.call call) (past.worker worker)
        (remaining.map past.worker) =
      leftover.result (system.handOver call worker remaining) := by
  let claimed : System :=
    { system with
      roster := system.roster.claim remaining
      workers := system.workers.modify worker (Worker.receive (.task call)) }
  have given := workers_after_modify leftover system worker
    (Worker.receive (.task (past.call call))) (Worker.receive (.task call))
    fun held => held.receive_after (.task call)
  have same :
      { system.after leftover with
        roster := (system.after leftover).roster.claim (remaining.map past.worker)
        workers := (system.after leftover).workers.modify (past.worker worker)
          (Worker.receive (.task (past.call call))) } = claimed.after leftover := by
    rw [given]
    rfl
  have replied := reply_after leftover (claimed.count .accepted) call .accepted
  rw [← count_after, ← same] at replied
  have left := congrArg Prod.fst replied
  exact Prod.ext left rfl

/-- Whoever has no slot is passed over, behind a past as well. -/
theorem absent_after :
    (fun number => ((system.after leftover).slot? number).isNone) ∘ past.worker =
      fun number => (system.slot? number).isNone := by
  funext number
  simp [slot?_after]

/-- Whoever remains parked does so behind a past as well. -/
theorem setParked_after (parked : List WorkerId) :
    { system.after leftover with
      roster := { (system.after leftover).roster with parked := parked.map past.worker } } =
      System.after { system with roster := { system.roster with parked := parked } } leftover :=
  rfl

/-- An offer enters behind a past as without it. -/
theorem offer_after (fallsBack : Bool) :
    (system.after leftover).offer (past.call call) fallsBack =
      leftover.result (system.offer call fallsBack) := by
  have phase : (system.after leftover).roster.phase = system.roster.phase := rfl
  have parked : (system.after leftover).roster.parked = system.roster.parked.map past.worker :=
    rfl
  have vanished (numbers : List WorkerId) :
      (numbers.map past.worker).map Event.vanished =
        (numbers.map Event.vanished).map (Event.after past) := by
    simp [Event.after]
  by_cases running : system.roster.phase = .running
  · unfold offer
    rw [phase, if_neg (by simpa using running), if_neg (by simpa using running)]
    dsimp only
    rw [parked, List.takeWhile_map, List.dropWhile_map, absent_after, vanished]
    generalize (system.roster.parked.takeWhile fun number => (system.slot? number).isNone).map
      Event.vanished = passed
    cases system.roster.parked.dropWhile fun number => (system.slot? number).isNone with
    | nil =>
      have spawned := declineAndSpawn_after leftover
        { system with roster := { system.roster with parked := [] } } call fallsBack
      rw [← setParked_after] at spawned
      simp only [List.map_nil] at spawned ⊢
      rw [spawned]
      exact (leftover.result_append passed _).symm
    | cons worker remaining =>
      have empty : (system.after leftover).slot? (past.worker worker) = some none ↔
          system.slot? worker = some none := by
        rw [slot?_after]
        exact slot_empty_after _
      simp only [List.map_cons]
      by_cases ready : system.slot? worker = some none
      · rw [if_pos ready, if_pos (empty.mpr ready), handOver_after]
        exact (leftover.result_append passed (_, .claimed worker call :: _)).symm
      · have declined := decline_after leftover
          { system with roster := { system.roster with parked := worker :: remaining } } call
          fallsBack
        rw [← setParked_after, List.map_cons] at declined
        rw [if_neg ready, if_neg (mt empty.mp ready), declined]
        exact (leftover.result_append passed (_, .slotOccupied worker :: _)).symm
  · unfold offer
    rw [phase, if_pos (by simpa using running), if_pos (by simpa using running)]
    exact decline_after leftover system call fallsBack

/-- Nobody of the past is told to retire, and everybody else is told as without it. -/
theorem told_after :
    (system.after leftover).workers.mapIdx (system.after leftover).roster.tell =
      leftover.loops ++ (system.workers.mapIdx system.roster.tell).map (Worker.after past) := by
  have unheard : leftover.loops.mapIdx (system.roster.after past).tell = leftover.loops := by
    refine List.ext_getElem? fun number => ?_
    rw [List.getElem?_mapIdx]
    cases found : leftover.loops[number]? with
    | none => rfl
    | some loop =>
      have early : number < past.workers :=
        leftover.length_eq ▸ (List.getElem?_eq_some_iff.mp found).1
      exact congrArg some (system.roster.tell_of_lt early loop)
  have heard : ((system.workers.map (Worker.after past)).mapIdx fun number =>
      (system.roster.after past).tell (number + leftover.loops.length)) =
        (system.workers.mapIdx system.roster.tell).map (Worker.after past) := by
    refine List.ext_getElem? fun number => ?_
    have place : number + leftover.loops.length = past.worker number := by
      rw [leftover.length_eq]
      exact Nat.add_comm number past.workers
    rw [List.getElem?_mapIdx, List.getElem?_map, List.getElem?_map, List.getElem?_mapIdx, place]
    cases system.workers[number]? with
    | none => rfl
    | some worker => exact congrArg some (system.roster.tell_after number worker)
  simp only [after]
  rw [List.mapIdx_append, unheard, heard]

/-- All parked workers are told to retire behind a past, and no others. -/
theorem retireAll_after :
    (system.after leftover).retireAll = leftover.result system.retireAll := by
  have counted : (system.after leftover).roster.parked.length = system.roster.parked.length :=
    List.length_map _
  have told := told_after leftover system
  unfold Roster.tell at told
  unfold retireAll
  dsimp only
  rw [counted, told]
  rfl

/-- A call waits for the last worker behind a past as without it. -/
theorem awaitLastWorker_after :
    (system.after leftover).awaitLastWorker (past.call call) =
      (system.awaitLastWorker call).after leftover := by
  have live : (system.after leftover).roster.live = system.roster.live := rfl
  unfold awaitLastWorker
  rw [live]
  split
  · exact setCall_after leftover (system.setPhase .stopped) call .announcing
  · exact setCall_after leftover system call (.sleeping .lastWorker)

/-- A call waits for another stop behind a past as without it. -/
theorem awaitStopped_after :
    (system.after leftover).awaitStopped (past.call call) =
      leftover.result (system.awaitStopped call) := by
  have phase : (system.after leftover).roster.phase = system.roster.phase := rfl
  unfold awaitStopped
  rw [phase]
  split
  · exact reply_after leftover system call .done
  · exact Prod.ext (setCall_after leftover system call (.sleeping .stopped)) rfl

/-- A stop enters behind a past as without it. -/
theorem stop_after :
    (system.after leftover).stop (past.call call) = leftover.result (system.stop call) := by
  have begun : ((system.after leftover).retireAll.1.awaitLastWorker (past.call call),
      (system.after leftover).retireAll.2) =
        leftover.result (system.retireAll.1.awaitLastWorker call, system.retireAll.2) := by
    rw [retireAll_after]
    exact Prod.ext (awaitLastWorker_after leftover system.retireAll.1 call) rfl
  have phase : (system.after leftover).roster.phase = system.roster.phase := rfl
  unfold stop
  rw [phase]
  cases system.roster.phase with
  | stopped => exact reply_after leftover system call .done
  | stopping => exact awaitStopped_after leftover system call
  | starting | running => exact begun

/-- What is done to a stopped dispatcher is done behind a past as well. -/
theorem whileStopped_after (operation : String)
    (first second : System → System × List Event)
    (same : first (system.after leftover) = leftover.result (second system)) :
    (system.after leftover).whileStopped (past.call call) operation first =
      leftover.result (system.whileStopped call operation second) := by
  have phase : (system.after leftover).roster.phase = system.roster.phase := rfl
  unfold whileStopped
  rw [phase, same]
  split
  · have replied := reply_after leftover (second system).1 call .done
    simp only [Answer.after] at replied
    simp only [Leftover.result]
    rw [replied]
    exact (leftover.result_append (second system).2 _).symm
  · exact reply_after leftover system call (.illegal ⟨operation, system.roster.phase⟩)

/-- Every call enters behind a past as without it. -/
theorem enter_after (request : Request) :
    (system.after leftover).enter (past.call call) request =
      leftover.result (system.enter call request) := by
  unfold enter
  cases request with
  | start | setIdleTimeout timeout =>
    apply whileStopped_after
    rfl
  | stop => exact stop_after leftover system call
  | offer fallsBack => exact offer_after leftover system call fallsBack

/-- Every call goes on behind a past as without it. -/
theorem proceed_after (stage : Call) :
    (system.after leftover).proceed (past.call call) (stage.after past) =
      (system.proceed call stage).map leftover.result := by
  cases stage with
  | entering request => exact congrArg some (enter_after leftover system call request)
  | countingSpawned fallsBack worker =>
    have set := setCall_after leftover (system.count .spawned) call (.countingDeclined fallsBack)
    rw [← count_after] at set
    exact congrArg some (Prod.ext set rfl)
  | countingRefused fallsBack worker refusal =>
    have set := setCall_after leftover (system.count .spawnFailures) call
      (.countingDeclined fallsBack)
    rw [← count_after] at set
    exact congrArg some (Prod.ext set rfl)
  | countingDeclined fallsBack =>
    exact congrArg some (decline_after leftover system call fallsBack)
  | woken awaited =>
    cases awaited with
    | lastWorker =>
      exact congrArg some (Prod.ext (awaitLastWorker_after leftover system call) rfl)
    | stopped => exact congrArg some (awaitStopped_after leftover system call)
  | announcing =>
    have replied := reply_after leftover system.announce call .done
    rw [← announce_after] at replied
    have left := congrArg Prod.fst replied
    exact congrArg some (Prod.ext left rfl)
  | submitting | fallingBack | sleeping => rfl

/-- The executor answers behind a past as without it. -/
theorem answer_after (refusal : Option Refusal) (stage : Call) :
    (system.after leftover).answer (past.call call) refusal (stage.after past) =
      (system.answer call refusal stage).map leftover.result := by
  cases stage with
  | submitting fallsBack worker =>
    cases refusal with
    | none =>
      have set := setCall_after leftover system call (.countingSpawned fallsBack worker)
      exact congrArg some (Prod.ext set rfl)
    | some refusal =>
      have set := setCall_after leftover system call (.countingRefused fallsBack worker refusal)
      exact congrArg some (Prod.ext set rfl)
  | fallingBack =>
    cases refusal with
    | none => exact congrArg some (reply_after leftover system call .fallback)
    | some refusal => exact congrArg some (reply_after leftover system call (.refused refusal))
  | entering | countingSpawned | countingRefused | countingDeclined | sleeping | woken
  | announcing => rfl

/-- The executor breaks down behind a past as without it. -/
theorem breakOff_after (stage : Call) :
    (system.after leftover).breakOff (past.call call) (stage.after past) =
      (system.breakOff call stage).map leftover.result := by
  have removed := system.calls.remove_after past.calls call (Call.after past)
  have same (loop? : Option WorkerId) :
      ({ system.after leftover with
          calls := (system.after leftover).calls.remove (past.call call) },
        [Event.brokenOff (past.call call) (loop?.map past.worker)]) =
      leftover.result ({ system with calls := system.calls.remove call },
        [.brokenOff call loop?]) := by
    simp only [after, Past.call, removed]
    rfl
  cases stage with
  | submitting fallsBack worker => exact congrArg some (same (some worker))
  | fallingBack => exact congrArg some (same none)
  | _ => rfl

end Calls

section Loops

variable (number : WorkerId)

/-- A loop is launched behind a past as without it. -/
theorem launch_after (epoch : Nat) :
    (system.after leftover).launch (past.worker number) (past.epoch + epoch) =
      leftover.result (system.launch number epoch) := by
  have current : (system.after leftover).roster.epoch = past.epoch + epoch ↔
      system.roster.epoch = epoch := Nat.add_left_cancel_iff
  have accepts : (system.after leftover).roster.accepts (past.epoch + epoch) =
      system.roster.accepts epoch := system.roster.accepts_after epoch
  by_cases past : system.roster.epoch = epoch
  · unfold launch
    rw [if_neg (not_not.mpr past), if_neg (not_not.mpr (current.mpr past)), accepts]
    split
    · exact Prod.ext (setStage_after leftover
        { system with roster := system.roster.register number } number
        (.serving system.roster.idleTimeout none .waiting)) rfl
    · exact Prod.ext (setStage_after leftover
        { system with roster := system.roster.giveBack } number (.gone .turnedAway)) rfl
  · unfold launch
    rw [if_pos past, if_pos (mt current.mp past)]
    exact Prod.ext (setStage_after leftover system number (.gone .stale)) rfl

/-- A loop is dropped behind a past as without it. -/
theorem discard_after (epoch : Nat) :
    (system.after leftover).discard (past.worker number) (past.epoch + epoch) =
      leftover.result (system.discard number epoch) := by
  have current : (system.after leftover).roster.epoch = past.epoch + epoch ↔
      system.roster.epoch = epoch := Nat.add_left_cancel_iff
  by_cases own : system.roster.epoch = epoch
  · unfold discard
    rw [if_pos own, if_pos (current.mpr own)]
    exact Prod.ext (setStage_after leftover
      { system with roster := system.roster.giveBack } number (.gone .discarded)) rfl
  · unfold discard
    rw [if_neg own, if_neg (mt current.mp own)]
    exact Prod.ext (setStage_after leftover system number (.gone .discarded)) rfl

/-- A worker takes its later handoff out of its slot. -/
theorem take_after (idleTimeout : Option Millis) (handoff : Handoff) :
    (system.after leftover).take (past.worker number) idleTimeout (handoff.after past) =
      leftover.result (system.take number idleTimeout handoff) := by
  cases handoff with
  | task task =>
    exact Prod.ext (setStage_after leftover system number
      (.serving idleTimeout none (.executing task))) rfl
  | retire =>
    exact Prod.ext (setStage_after leftover system number
      (.serving idleTimeout none .retiring)) rfl

/-- A worker parks or leaves after its task behind a past as without it. -/
theorem conclude_after (epoch : Nat) (idleTimeout : Option Millis) (slot : Option Handoff)
    (task : Task) :
    (system.after leftover).conclude (past.worker number) (past.epoch + epoch) idleTimeout
        (slot.map (Handoff.after past)) (past.call task) =
      leftover.result (system.conclude number epoch idleTimeout slot task) := by
  have accepts : (system.after leftover).roster.release.accepts (past.epoch + epoch) =
      system.roster.release.accepts epoch := system.roster.release.accepts_after epoch
  unfold conclude
  dsimp only
  rw [accepts]
  split
  · exact Prod.ext (setStage_after leftover
      { system with roster := system.roster.release.park number } number
      (.serving idleTimeout slot .waiting)) rfl
  · exact Prod.ext (setStage_after leftover
      { system with roster := system.roster.release.leave } number
      (.announcing .afterTask)) rfl

/-- An idle worker withdraws behind a past as without it. -/
theorem retireIdle_after (timeout : Millis) (slot : Option Handoff) :
    (system.after leftover).retireIdle (past.worker number) timeout
        (slot.map (Handoff.after past)) =
      leftover.result (system.retireIdle number timeout slot) := by
  have listed : past.worker number ∈ (system.after leftover).roster.parked ↔
      number ∈ system.roster.parked := system.roster.mem_parked_after number
  by_cases parked : number ∈ system.roster.parked
  · have withdrawn : (system.after leftover).roster.withdraw (past.worker number) =
        (system.roster.withdraw number).after past := system.roster.withdraw_after number
    unfold retireIdle
    rw [if_pos parked, if_pos (listed.mpr parked), withdrawn]
    exact Prod.ext (setStage_after leftover
      { system with roster := system.roster.withdraw number } number
      (.announcing (.idle timeout))) rfl
  · unfold retireIdle
    rw [if_neg parked, if_neg (mt listed.mp parked)]
    exact Prod.ext (setStage_after leftover system number
      (.serving (some timeout) slot .awaiting)) rfl

/-- A serving worker goes on behind a past as without it. -/
theorem serve_after (epoch : Nat) (idleTimeout : Option Millis) (slot : Option Handoff)
    (duty : Duty) :
    (system.after leftover).serve (past.worker number) (past.epoch + epoch) idleTimeout
        (slot.map (Handoff.after past)) (duty.after past) =
      (system.serve number epoch idleTimeout slot duty).map leftover.result := by
  have taken : (slot.map (Handoff.after past)).map
      ((system.after leftover).take (past.worker number) idleTimeout) =
        (slot.map (system.take number idleTimeout)).map leftover.result := by
    cases slot with
    | none => rfl
    | some handoff => exact congrArg some (take_after leftover system number idleTimeout handoff)
  cases duty with
  | waiting | awaiting => exact taken
  | expired =>
    cases idleTimeout with
    | none => rfl
    | some timeout => exact congrArg some (retireIdle_after leftover system number timeout slot)
  | executing task => rfl
  | failed task failure =>
    have set := setStage_after leftover (system.count .taskFailures) number
      (.serving idleTimeout slot (.reporting task failure))
    rw [← count_after] at set
    exact congrArg some (Prod.ext set rfl)
  | reporting task failure =>
    have set := setStage_after leftover system number
      (.afterReport idleTimeout slot task failure)
    rw [Stage.afterReport_after] at set
    exact congrArg some (Prod.ext set rfl)
  | ended task =>
    exact congrArg some (conclude_after leftover system number epoch idleTimeout slot task)
  | retiring =>
    exact congrArg some (Prod.ext (setStage_after leftover
      { system with roster := system.roster.leave } number (.announcing .retired)) rfl)

/-- A worker that has left says so behind a past as without it. -/
theorem depart_after (departure : Departure) :
    (system.after leftover).depart (past.worker number) departure =
      leftover.result (system.depart number departure) := by
  unfold depart
  rw [announce_after]
  cases departure with
  | afterTask =>
    exact Prod.ext (setStage_after leftover system.announce number (.gone (.left .afterTask))) rfl
  | retired =>
    exact Prod.ext (setStage_after leftover system.announce number (.gone (.left .retired))) rfl
  | idle timeout =>
    exact Prod.ext (setStage_after leftover system.announce number (.counting timeout)) rfl

/-- A worker goes on behind a past as without it. -/
theorem work_after (worker : Worker) :
    (system.after leftover).work (past.worker number) (worker.after past) =
      (system.work number worker).map leftover.result := by
  obtain ⟨epoch, stage⟩ := worker
  cases stage with
  | serving idleTimeout slot duty =>
    exact serve_after leftover system number epoch idleTimeout slot duty
  | announcing departure => exact congrArg some (depart_after leftover system number departure)
  | counting timeout =>
    have set := setStage_after leftover (system.count .idleRetired) number
      (.gone (.left (.idle timeout)))
    rw [← count_after] at set
    exact congrArg some (Prod.ext set rfl)
  | queued | gone => rfl

/-- An idle timeout fires behind a past as without it. -/
theorem expire_after (worker : Worker) :
    (system.after leftover).expire (past.worker number) (worker.after past) =
      (system.expire number worker).map leftover.result := by
  obtain ⟨epoch, stage⟩ := worker
  cases stage with
  | serving idleTimeout slot duty =>
    match idleTimeout, slot with
    | some timeout, none =>
      cases duty with
      | waiting =>
        exact congrArg some (Prod.ext (setStage_after leftover system number
          (.serving (some timeout) none .expired)) rfl)
      | _ => rfl
    | none, _ | some _, some _ => rfl
  | _ => rfl

/-- A task ends behind a past as without it. -/
theorem finish_after (outcome : Outcome) (worker : Worker) :
    (system.after leftover).finish (past.worker number) outcome (worker.after past) =
      (system.finish number outcome worker).map leftover.result := by
  obtain ⟨epoch, stage⟩ := worker
  cases stage with
  | serving idleTimeout slot duty =>
    cases duty with
    | executing task =>
      cases outcome with
      | returned =>
        exact congrArg some (Prod.ext (setStage_after leftover system number
          (.serving idleTimeout slot (.ended task))) rfl)
      | failed failure =>
        exact congrArg some (Prod.ext (setStage_after leftover system number
          (.serving idleTimeout slot (.failed task failure))) rfl)
    | _ => rfl
  | _ => rfl

/-- A worker is brought down behind a past as without it. -/
theorem breakDown_after (worker : Worker) :
    (system.after leftover).breakDown (past.worker number) (worker.after past) =
      (system.breakDown number worker).map leftover.result := by
  obtain ⟨epoch, stage⟩ := worker
  cases stage with
  | serving idleTimeout slot duty =>
    cases duty with
    | reporting task failure =>
      exact congrArg some (Prod.ext (setStage_after leftover system number (.gone .broken)) rfl)
    | _ => rfl
  | _ => rfl

end Loops

/-- A dispatcher is let go behind a past as without it. -/
theorem letGo_after : (system.after leftover).letGo = leftover.result system.letGo := by
  let free : System := { system with held := false }
  have retired : (free.after leftover).retireAll = leftover.result free.retireAll :=
    retireAll_after leftover free
  have phase : (free.after leftover).roster.phase = free.roster.phase := rfl
  have same : System.after { system with held := false } leftover =
      { system.after leftover with held := false } := rfl
  -- Whether anybody is still live does not depend on the past.
  have closed (retiring : System × List Event) :
      (if (leftover.result retiring).1.roster.live = 0
        then (leftover.result retiring).1.setPhase .stopped else (leftover.result retiring).1,
        (leftover.result retiring).2) =
      leftover.result (if retiring.1.roster.live = 0 then retiring.1.setPhase .stopped
        else retiring.1, retiring.2) := by
    have live : (leftover.result retiring).1.roster.live = retiring.1.roster.live := rfl
    rw [live]
    split <;> rfl
  unfold letGo
  rw [← same]
  dsimp only
  rw [phase, retired]
  cases system.roster.phase with
  | stopped | stopping => rfl
  | starting | running => exact closed free.retireAll

/-- What is found under a later number goes on as it would without a past. -/
theorem bind_after {α : Type} {change : α → α} {first second : α → Option (System × List Event)}
    (found : Option α)
    (same : ∀ value, first (change value) = (second value).map leftover.result) :
    (found.map change).bind first = (found.bind second).map leftover.result := by
  cases found with
  | none => rfl
  | some value => exact same value

/-- A move is possible behind a past if and only if it is possible without it, and does the
same. -/
theorem step_after (move : Move) :
    (system.after leftover).step (move.after past) =
      (system.step move).map leftover.result := by
  have call (number : Nat) : (system.after leftover).calls.get? (past.call number) =
      (system.calls.get? number).map (Call.after past) := Register.get?_after ..
  have queued (worker : Worker) :
      (worker.after past).stage = .queued ↔ worker.stage = .queued := worker.stage.queued_after
  cases move with
  | invoke request =>
    have held : (system.after leftover).held = system.held := rfl
    simp only [step, Move.after, held]
    split
    · have entered := system.calls.add_after past.calls (Call.after past) (.entering request)
      refine congrArg some (Prod.ext ?_ rfl)
      simp only [after, Leftover.result, ← entered]
      rfl
    · rfl
  | proceed number =>
    simp only [step, Move.after, call]
    exact bind_after leftover _ fun stage => proceed_after leftover system number stage
  | answer number refusal =>
    simp only [step, Move.after, call]
    exact bind_after leftover _ fun stage => answer_after leftover system number refusal stage
  | breakOff number =>
    simp only [step, Move.after, call]
    exact bind_after leftover _ fun stage => breakOff_after leftover system number stage
  | launch number =>
    simp only [step, Move.after, worker_after]
    refine bind_after leftover _ fun worker => ?_
    simp only [queued]
    split
    · exact congrArg some (launch_after leftover system number worker.epoch)
    · rfl
  | discard number =>
    simp only [step, Move.after, worker_after]
    refine bind_after leftover _ fun worker => ?_
    simp only [queued]
    split
    · exact congrArg some (discard_after leftover system number worker.epoch)
    · rfl
  | work number =>
    simp only [step, Move.after, worker_after]
    exact bind_after leftover _ fun worker => work_after leftover system number worker
  | expire number =>
    simp only [step, Move.after, worker_after]
    exact bind_after leftover _ fun worker => expire_after leftover system number worker
  | finish number outcome =>
    simp only [step, Move.after, worker_after]
    exact bind_after leftover _ fun worker => finish_after leftover system number outcome worker
  | breakDown number =>
    simp only [step, Move.after, worker_after]
    exact bind_after leftover _ fun worker => breakDown_after leftover system number worker
  | letGo =>
    have unused : ((system.after leftover).held && (system.after leftover).calls.isEmpty) =
        (system.held && system.calls.isEmpty) :=
      congrArg (system.held && ·) (Register.isEmpty_after ..)
    simp only [step, Move.after, unused]
    split
    · exact congrArg some (letGo_after leftover system)
    · rfl

/-- Behind a past exactly the same runs are possible. -/
theorem play_after (moves : List Move) :
    (system.after leftover).play (moves.map (Move.after past)) =
      (system.play moves).map leftover.result := by
  induction moves generalizing system with
  | nil => rfl
  | cons move moves inductionHypothesis =>
    simp only [List.map_cons, play, step_after]
    cases system.step move with
    | none => rfl
    | some first =>
      have rest := inductionHypothesis first.1
      have behind : (leftover.result first).1 = first.1.after leftover := rfl
      simp only [Option.map_some, Option.bind_eq_bind, Option.bind_some, behind, rest]
      cases first.1.play moves with
      | none => rfl
      | some last => exact congrArg some (leftover.result_append first.2 last).symm

end System

end Standby.Dispatcher
