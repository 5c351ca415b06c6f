import Standby.Proofs.Dispatcher.Accounts
import Standby.Proofs.Dispatcher.Exchange
import Standby.Proofs.Dispatcher.Execution
import Standby.Proofs.Dispatcher.Lots
import Standby.Proofs.Dispatcher.Past
import Standby.Proofs.Dispatcher.Standing

/-!
# Failures that are pardoned

A run in which some tasks fail beside the run in which they return instead. A worker whose task
has failed makes two moves more, in which it counts the failure and reports it; while it does so,
its counterpart has just ended its task. Everything else is the same in both runs except the
counts, and the counts never decide anything.

So each section of the one run is a section of the other, or one of the two additional moves, which
cannot be seen. This only holds as long as nobody is brought down by a failed task.
-/

namespace Standby.Dispatcher

open Duration (Millis)

section Pardon

variable (pardons : Task → Bool)

/-- A worker that counts or reports a pardoned failure has just ended its task. -/
def Duty.pardoned : Duty → Duty
  | .failed task failure => if pardons task then .ended task else .failed task failure
  | .reporting task failure => if pardons task then .ended task else .reporting task failure
  | duty => duty

/-- A serving worker with a pardoned duty. -/
def Stage.pardoned : Stage → Stage
  | .serving idleTimeout slot duty => .serving idleTimeout slot (duty.pardoned pardons)
  | stage => stage

/-- A worker with a pardoned duty is of the same epoch. -/
def Worker.pardoned (worker : Worker) : Worker := ⟨worker.epoch, worker.stage.pardoned pardons⟩

/-- The dispatcher as it is when the tasks return that are pardoned. Its counts are its own. -/
def System.pardoned (tally : Tally) (system : System) : System :=
  { system with
    tally := tally
    workers := system.workers.map (Worker.pardoned pardons) }

/-- A pardoned task returns, whatever its end was. -/
def Event.pardoned : Event → Event
  | .ended worker task outcome => .ended worker task (if pardons task then .returned else outcome)
  | event => event

/-- A worker at this stage is about to count or to report a pardoned failure. -/
def Stage.isHidden : Stage → Bool
  | .serving _ _ (.failed task _) | .serving _ _ (.reporting task _) => pardons task
  | _ => false

/-- The move is one that a worker only makes because its task has failed. -/
def System.hides (system : System) : Move → Bool
  | .work number => system.hasStage (Stage.isHidden pardons) number
  | _ => false

/-- The move that is made instead. -/
def System.spare (system : System) : Move → Move
  | .finish number outcome =>
    .finish number
      (if system.hasStage (fun stage => stage.task?.any pardons) number then .returned else outcome)
  | move => move

/-- The moves of the run in which the pardoned tasks return: the same without those that are
hidden. -/
def System.spared (system : System) : List Move → List Move
  | [] => []
  | move :: moves =>
    match system.step move with
    | none => []
    | some (next, _) =>
      if system.hides pardons move then next.spared moves
      else system.spare pardons move :: next.spared moves

end Pardon

/-- What can be seen of a move: the roster that it leaves, and what callers are told. -/
abbrev Sight := Roster × List (Nat × Answer)

/-- What can be seen of a run. A move that neither changes the roster nor answers anybody cannot be
seen. -/
def System.sights (system : System) : List Move → List Sight
  | [] => []
  | move :: moves =>
    match system.step move with
    | none => []
    | some (next, events) =>
      let replies := events.filterMap Event.reply?
      if next.roster = system.roster ∧ replies = [] then next.sights moves
      else (next.roster, replies) :: next.sights moves

/-- A first move that cannot be seen makes no difference. -/
theorem System.sights_of_unseen {system : System} {move : Move} {first : System × List Event}
    (made : system.step move = some first) (roster : first.1.roster = system.roster)
    (silent : first.2.filterMap Event.reply? = []) (moves : List Move) :
    system.sights (move :: moves) = first.1.sights moves := by
  rw [sights, made]
  exact if_pos ⟨roster, silent⟩

/-- What can be seen of a run that is continued. -/
theorem System.sights_append {system : System} {first later : List Move}
    {result : System × List Event} (run : system.play first = some result) :
    system.sights (first ++ later) = system.sights first ++ result.1.sights later := by
  induction first generalizing system result with
  | nil =>
    obtain rfl := Option.some.inj run
    rfl
  | cons move moves inductionHypothesis =>
    obtain ⟨one, last, made, played, rfl⟩ := play_cons_eq_some.mp run
    have rest := inductionHypothesis played
    simp only [List.cons_append, sights, made, rest]
    split <;> rfl

/-- Whatever is counted, is counted on both sides. -/
theorem Tally.get_add_comm (left right : Tally) (counted count : Count) :
    (left.add counted).get count + right.get count =
      left.get count + (right.add counted).get count := by
  simp only [get_add]
  split <;> omega

section Parts

variable {pardons : Task → Bool}

/-- What is put into the slot of a worker does not depend on its duty. -/
theorem Worker.receive_pardoned (handoff : Handoff) (worker : Worker) :
    (worker.pardoned pardons).receive handoff = (worker.receive handoff).pardoned pardons := by
  obtain ⟨epoch, stage⟩ := worker
  cases stage with
  | serving idleTimeout slot duty => cases slot <;> rfl
  | _ => rfl

/-- The slot of a worker is the same. -/
theorem Worker.slot?_pardoned (worker : Worker) :
    (worker.pardoned pardons).slot? = worker.slot? := by
  obtain ⟨epoch, stage⟩ := worker
  cases stage <;> rfl

/-- A worker is told to retire whatever its duty is. -/
theorem Roster.tell_pardoned (roster : Roster) (number : WorkerId) (worker : Worker) :
    roster.tell number (worker.pardoned pardons) =
      (roster.tell number worker).pardoned pardons := by
  unfold tell
  split
  · exact worker.receive_pardoned .retire
  · rfl

/-- A task that returns instead has ended. -/
theorem Duty.pardoned_ofOutcome (task : Task) (outcome : Outcome) :
    (Duty.ofOutcome task outcome).pardoned pardons =
      .ofOutcome task (if pardons task then .returned else outcome) := by
  cases outcome with
  | returned => cases pardons task <;> rfl
  | failed failure =>
    simp only [ofOutcome, pardoned]
    split <;> rfl

/-- Answers are no ends of tasks. -/
theorem replies_pardoned (events : List Event) :
    (events.map (Event.pardoned pardons)).filterMap Event.reply? =
      events.filterMap Event.reply? := by
  rw [List.filterMap_map]
  refine List.filterMap_congr fun event _ => ?_
  cases event <;> rfl

/-- A report stays a report, and nothing else becomes one. -/
theorem unfaulted_pardoned (events : List Event) :
    (events.map (Event.pardoned pardons)).filter (!·.isFaulted) =
      (events.filter (!·.isFaulted)).map (Event.pardoned pardons) := by
  rw [List.filter_map]
  congr 1
  refine List.filter_congr fun event _ => ?_
  cases event <;> rfl

end Parts

/-- A report answers nobody. -/
theorem silent_of_faulted {events : List Event}
    (faults : ∀ event ∈ events, event.isFaulted = true) :
    events.filterMap Event.reply? = [] := by
  refine List.filterMap_eq_nil_iff.mpr fun event held => ?_
  have faulted := faults event held
  cases event <;> first | rfl | cases faulted

namespace System

variable {pardons : Task → Bool} (tally : Tally) (system : System)

/-- Each worker is found with its pardoned duty. -/
theorem worker_pardoned (number : WorkerId) :
    (system.pardoned pardons tally).workers[number]? =
      system.workers[number]?.map (Worker.pardoned pardons) := List.getElem?_map

/-- A worker that is found has its counterpart. -/
theorem found_pardoned {system : System} {number : WorkerId} {epoch : Nat} {stage : Stage}
    (found : system.workers[number]? = some ⟨epoch, stage⟩) :
    (system.pardoned pardons tally).workers[number]? = some ⟨epoch, stage.pardoned pardons⟩ := by
  rw [worker_pardoned, found]
  rfl

/-- Each worker has the same in its slot. -/
theorem slot?_pardoned (number : WorkerId) :
    (system.pardoned pardons tally).slot? number = system.slot? number := by
  unfold slot?
  rw [worker_pardoned]
  cases system.workers[number]? with
  | none => rfl
  | some worker => exact worker.slot?_pardoned

/-- The counterpart of a worker moves to the pardoned stage. -/
theorem setStage_pardoned (number : WorkerId) (stage : Stage) :
    (system.setStage number stage).pardoned pardons tally =
      (system.pardoned pardons tally).setStage number (stage.pardoned pardons) := by
  have moved := modify_map (Worker.pardoned pardons) (Worker.move (stage.pardoned pardons))
    (Worker.move stage) system.workers number fun _ => rfl
  simp only [setStage, pardoned, moved]

/-- The same workers are told to retire. -/
theorem retireAll_pardoned :
    system.retireAll.1.pardoned pardons tally = (system.pardoned pardons tally).retireAll.1 := by
  have told : (system.workers.mapIdx system.roster.tell).map (Worker.pardoned pardons) =
      (system.workers.map (Worker.pardoned pardons)).mapIdx system.roster.tell := by
    refine List.ext_getElem? fun number => ?_
    rw [List.getElem?_map, List.getElem?_mapIdx, List.getElem?_mapIdx, List.getElem?_map]
    cases system.workers[number]? with
    | none => rfl
    | some worker => exact congrArg some (system.roster.tell_pardoned number worker).symm
  exact congrArg (fun workers : List Worker => { system.retireAll.1 with tally, workers }) told

/-- A call waits for the last worker as it does in the other run. -/
theorem awaitLastWorker_pardoned (call : Nat) :
    (system.awaitLastWorker call).pardoned pardons tally =
      (system.pardoned pardons tally).awaitLastWorker call := by
  have same : (system.pardoned pardons tally).roster = system.roster := rfl
  unfold awaitLastWorker
  rw [same]
  split <;> rfl

/-- A task is handed to the same worker, and counted in both runs. -/
theorem handOver_pardoned (call : Nat) (worker : WorkerId) (remaining : List WorkerId) :
    (system.handOver call worker remaining).1.pardoned pardons (tally.add .accepted) =
      ((system.pardoned pardons tally).handOver call worker remaining).1 := by
  have given := modify_map (Worker.pardoned pardons) (Worker.receive (.task call))
    (Worker.receive (.task call)) system.workers worker (Worker.receive_pardoned (.task call))
  exact congrArg (fun workers : List Worker => { (system.handOver call worker remaining).1 with
    tally := tally.add .accepted, workers }) given.symm

/-- An offer is declined in both runs, and counted in both. -/
theorem decline_pardoned (call : Nat) (fallsBack : Bool) :
    ((system.decline call fallsBack).1.pardoned pardons (tally.add .declined),
        (system.decline call fallsBack).2.map (Event.pardoned pardons)) =
      (system.pardoned pardons tally).decline call fallsBack := by
  cases fallsBack <;> rfl

/-- A loop is created in both runs. -/
theorem create_pardoned :
    system.create.pardoned pardons tally = (system.pardoned pardons tally).create := by
  simp only [create, pardoned, List.map_append]
  rfl

/-- An active dispatcher is let go as it is in the other run. -/
theorem letGo_pardoned (active : system.roster.phase = .starting ∨ system.roster.phase = .running) :
    system.letGo.1.pardoned pardons tally = (system.pardoned pardons tally).letGo.1 := by
  have still : (system.pardoned pardons tally).roster.phase = .starting ∨
      (system.pardoned pardons tally).roster.phase = .running := active
  have same : (system.pardoned pardons tally).roster = system.roster := rfl
  have retired : system.retireAll.1.pardoned pardons tally =
      (system.pardoned pardons tally).retireAll.1 := system.retireAll_pardoned tally
  rw [letGo_of_active active, letGo_of_active still, ← retired, same]
  dsimp only
  split <;> rfl

variable {system} {move : Move} {result : System × List Event}

/-- It is no change to move a worker to a stage that is pardoned to the same. -/
theorem setStage_pardoned_self {number : WorkerId} {epoch : Nat} {stage after : Stage}
    (found : system.workers[number]? = some ⟨epoch, stage⟩)
    (same : after.pardoned pardons = stage.pardoned pardons) :
    (system.setStage number after).pardoned pardons tally = system.pardoned pardons tally := by
  have unchanged : (system.workers.map (Worker.pardoned pardons)).modify number
      (Worker.move (stage.pardoned pardons)) = system.workers.map (Worker.pardoned pardons) := by
    refine List.ext_getElem? fun other => ?_
    rw [List.getElem?_modify, List.getElem?_map]
    by_cases here : number = other
    · subst here
      simp [found, Worker.move, Worker.pardoned]
    · simp [here]
  rw [setStage_pardoned, same]
  simp only [setStage, pardoned, unchanged]

/-- A worker that was brought down is not whole. -/
theorem broken_of_setStage {number : WorkerId} {worker : Worker}
    (found : system.workers[number]? = some worker) :
    ¬ (system.setStage number (.gone .broken)).Unbroken := by
  intro whole
  have stands : (system.setStage number (.gone .broken)).workers[number]? =
      some ⟨worker.epoch, .gone .broken⟩ := by
    simp [setStage, found, Worker.move]
  exact Stage.ne_broken_of_whole (whole _ (List.mem_of_getElem? stands)) rfl

/-- A section that is not hidden is one when the failures are pardoned, and counts the same. -/
theorem section_pardoned (made : Section system move result) (whole : result.1.Unbroken)
    (shown : system.hides pardons move = false) :
    ∃ next : Tally, Section (system.pardoned pardons tally) (system.spare pardons move)
        (result.1.pardoned pardons next, result.2.map (Event.pardoned pardons)) ∧
      ∀ count, next.get count + system.tally.get count =
        tally.get count + result.1.tally.get count := by
  have uncounted : ∀ count, tally.get count + system.tally.get count =
      tally.get count + system.tally.get count := fun _ => rfl
  have counted (event : Count) : ∀ count, (tally.add event).get count + system.tally.get count =
      tally.get count + (system.tally.add event).get count :=
    Tally.get_add_comm tally system.tally event
  have declined (call : Nat) (fallsBack : Bool) : ∀ count,
      (tally.add .declined).get count + system.tally.get count =
        tally.get count + (system.decline call fallsBack).1.tally.get count := by
    cases fallsBack <;> exact counted .declined
  -- A section that moves one worker and counts nothing does the same to its counterpart.
  have moved {base : System} {number : WorkerId} {stage : Stage} {move : Move}
      {events : List Event} (uncounted : base.tally = system.tally)
      (made : Section (system.pardoned pardons tally) move
        ((base.pardoned pardons tally).setStage number (stage.pardoned pardons),
          events.map (Event.pardoned pardons))) :
      ∃ next, Section (system.pardoned pardons tally) move
          ((base.setStage number stage).pardoned pardons next,
            events.map (Event.pardoned pardons)) ∧
        ∀ count, next.get count + system.tally.get count =
          tally.get count + (base.setStage number stage).tally.get count := by
    refine ⟨tally, ?_, fun count => by rw [← uncounted]; rfl⟩
    rw [setStage_pardoned]
    exact made
  -- A worker whose task has not failed is the same worker.
  have same {number : WorkerId} {epoch : Nat} {idleTimeout : Option Millis}
      {slot : Option Handoff} {duty : Duty}
      (found : system.workers[number]? = some ⟨epoch, .serving idleTimeout slot duty⟩)
      (plain : duty.pardoned pardons = duty) :
      (system.pardoned pardons tally).workers[number]? =
        some ⟨epoch, .serving idleTimeout slot duty⟩ := by
    rw [found_pardoned tally found, Stage.pardoned, plain]
  cases made with
  | invoked request held => exact ⟨tally, .invoked request held, uncounted⟩
  | illegal call request operation found needs busy named =>
    exact ⟨tally, .illegal call request operation found needs busy named, uncounted⟩
  | started call found stopped => exact ⟨tally, .started call found stopped, uncounted⟩
  | retimed call timeout found stopped =>
    exact ⟨tally, .retimed call timeout found stopped, uncounted⟩
  | turnedDown call fallsBack found reason =>
    refine ⟨tally.add .declined, ?_, declined call fallsBack⟩
    rw [decline_pardoned]
    exact .turnedDown call fallsBack found reason
  | claimed call fallsBack worker remaining found running parked ready =>
    refine ⟨tally.add .accepted, ?_, counted .accepted⟩
    rw [handOver_pardoned]
    exact .claimed call fallsBack worker remaining found running parked
      ((system.slot?_pardoned tally worker).trans ready)
  | created call fallsBack found running nobody room =>
    refine ⟨tally, ?_, uncounted⟩
    have length : (system.pardoned pardons tally).workers.length = system.workers.length :=
      List.length_map _
    have created : Section (system.pardoned pardons tally) (.proceed call)
        ((system.pardoned pardons tally).create.setCall call
          (.submitting fallsBack (system.pardoned pardons tally).workers.length),
          [.created (system.pardoned pardons tally).workers.length]) :=
      .created call fallsBack found running nobody room
    rw [← create_pardoned, length] at created
    exact created
  | counted call fallsBack count event stage found answered =>
    refine ⟨tally.add count, ?_, counted count⟩
    have told : [event].map (Event.pardoned pardons) = [event] := by
      rcases answered with ⟨_, _, _, rfl⟩ | ⟨_, _, _, _, rfl⟩ <;> rfl
    rw [told]
    exact .counted call fallsBack count event stage found answered
  | declined call fallsBack found =>
    refine ⟨tally.add .declined, ?_, declined call fallsBack⟩
    rw [decline_pardoned]
    exact .declined call fallsBack found
  | restful call found stopped => exact ⟨tally, .restful call found stopped, uncounted⟩
  | joined call found => exact ⟨tally, .joined call found, uncounted⟩
  | stopBegun call found active =>
    refine ⟨tally, ?_, fun count => by rw [awaitLastWorker_tally]; rfl⟩
    rw [awaitLastWorker_pardoned, retireAll_pardoned]
    exact .stopBegun call found active
  | looked call found =>
    refine ⟨tally, ?_, fun count => by rw [awaitLastWorker_tally]⟩
    rw [awaitLastWorker_pardoned]
    exact .looked call found
  | announced call found => exact ⟨tally, .announced call found, uncounted⟩
  | taken call fallsBack worker found =>
    exact ⟨tally, .taken call fallsBack worker found, uncounted⟩
  | refused call fallsBack worker refusal found =>
    exact ⟨tally, .refused call fallsBack worker refusal found, uncounted⟩
  | passedOn call refusal found => exact ⟨tally, .passedOn call refusal found, uncounted⟩
  | brokenOff call stage loop? found has =>
    exact ⟨tally, .brokenOff call stage loop? found has, uncounted⟩
  | stale number epoch found past =>
    exact moved rfl (.stale number epoch (found_pardoned tally found) past)
  | registered number found running =>
    exact moved rfl (.registered number (found_pardoned tally found) running)
  | turnedAway number found busy =>
    exact moved rfl (.turnedAway number (found_pardoned tally found) busy)
  | discarded number found =>
    exact moved rfl (.discarded number (found_pardoned tally found))
  | forgotten number epoch found past =>
    exact moved rfl (.forgotten number epoch (found_pardoned tally found) past)
  | began number epoch idleTimeout task duty waits found =>
    exact moved rfl (.began number epoch idleTimeout task duty waits
      (same found (by rcases waits with rfl | rfl <;> rfl)))
  | told number epoch idleTimeout duty waits found =>
    exact moved rfl (.told number epoch idleTimeout duty waits
      (same found (by rcases waits with rfl | rfl <;> rfl)))
  | expired number epoch timeout found =>
    exact moved rfl (.expired number epoch timeout (same found rfl))
  | withdrawn number epoch timeout slot found parked =>
    exact moved rfl (.withdrawn number epoch timeout slot (same found rfl) parked)
  | kept number epoch timeout slot found gone =>
    exact moved rfl (.kept number epoch timeout slot (same found rfl) gone)
  | ended number epoch idleTimeout slot task outcome found =>
    refine ⟨tally, ?_, uncounted⟩
    have spares : system.spare pardons (.finish number outcome) =
        .finish number (if pardons task then .returned else outcome) := by
      simp [spare, hasStage, found, Stage.task?]
    rw [setStage_pardoned, Stage.pardoned, Duty.pardoned_ofOutcome, spares]
    exact .ended number epoch idleTimeout slot task _ (same found rfl)
  | failed number epoch idleTimeout slot task failure found =>
    have blamed : pardons task = false := by
      simpa [hides, hasStage, found, Stage.isHidden] using shown
    refine ⟨tally.add .taskFailures, ?_, counted .taskFailures⟩
    have reports : (Duty.reporting task failure).pardoned pardons = .reporting task failure := by
      simp [Duty.pardoned, blamed]
    rw [setStage_pardoned, Stage.pardoned, reports]
    exact .failed number epoch idleTimeout slot task failure
      (same found (by simp [Duty.pardoned, blamed]))
  | reported number epoch idleTimeout slot task failure found quiet =>
    have blamed : pardons task = false := by
      simpa [hides, hasStage, found, Stage.isHidden] using shown
    exact moved rfl (.reported number epoch idleTimeout slot task failure
      (same found (by simp [Duty.pardoned, blamed])) quiet)
  | spilled number epoch idleTimeout slot task failure found
  | broke number epoch idleTimeout slot task failure found =>
    exact absurd whole (broken_of_setStage found)
  | parkedAgain number idleTimeout slot task found running =>
    exact moved rfl (.parkedAgain number idleTimeout slot task (same found rfl) running)
  | leftAfterTask number epoch idleTimeout slot task found unaccepted =>
    exact moved rfl (.leftAfterTask number epoch idleTimeout slot task (same found rfl) unaccepted)
  | leftRetired number epoch idleTimeout slot found =>
    exact moved rfl (.leftRetired number epoch idleTimeout slot (same found rfl))
  | departed number epoch departure found =>
    have departed : Section (system.pardoned pardons tally) (.work number)
        ((system.pardoned pardons tally).depart number departure) :=
      .departed number epoch departure (found_pardoned tally found)
    cases departure <;> refine ⟨tally, ?_, uncounted⟩ <;> rw [depart, setStage_pardoned] <;>
      exact departed
  | idled number epoch timeout found =>
    refine ⟨tally.add .idleRetired, ?_, counted .idleRetired⟩
    rw [setStage_pardoned]
    exact .idled number epoch timeout (found_pardoned tally found)
  | letGo unused closed held => exact ⟨tally, .letGo unused closed held, uncounted⟩
  | abandoned unused active held =>
    refine ⟨tally, ?_, fun count => by rw [letGo_tally active]⟩
    have told : system.letGo.2.map (Event.pardoned pardons) =
        (system.pardoned pardons tally).letGo.2 := by
      have still : (system.pardoned pardons tally).roster.phase = .starting ∨
          (system.pardoned pardons tally).roster.phase = .running := active
      rw [letGo_of_active active, letGo_of_active still]
      rfl
    rw [letGo_pardoned tally system active, told]
    exact .abandoned unused active held

/-- A hidden move changes nothing but the count of failures, once the failures are pardoned. -/
theorem section_hidden (made : Section system move result) (whole : result.1.Unbroken)
    (hidden : system.hides pardons move = true) :
    result.1.pardoned pardons tally = system.pardoned pardons tally ∧
      (∀ event ∈ result.2, event.isFaulted = true) ∧
      ∀ count, count ≠ .taskFailures → result.1.tally.get count = system.tally.get count := by
  have possible := step_of_section made
  cases move with
  | work number =>
    obtain ⟨⟨epoch, stage⟩, found, hides⟩ := Option.any_eq_true _ _ |>.mp hidden
    cases stage with
    | serving idleTimeout slot duty =>
      cases duty with
      | failed task failure =>
        have pardoned : pardons task = true := hides
        obtain rfl : ((system.count .taskFailures).setStage number
            (.serving idleTimeout slot (.reporting task failure)), []) = result := by
          simpa [step, found, System.work, serve] using possible
        have stands : (system.count .taskFailures).workers[number]? =
            some ⟨epoch, .serving idleTimeout slot (.failed task failure)⟩ := found
        refine ⟨setStage_pardoned_self tally stands ?_, by simp, fun count other => ?_⟩
        · simp [Stage.pardoned, Duty.pardoned, pardoned]
        · simp [setStage, System.count, other]
      | reporting task failure =>
        have pardoned : pardons task = true := hides
        obtain rfl : (system.setStage number (.afterReport idleTimeout slot task failure),
            [.faulted number failure.message]) = result := by
          simpa [step, found, System.work, serve] using possible
        refine ⟨setStage_pardoned_self tally found ?_, by simp [Event.isFaulted], fun _ _ => rfl⟩
        unfold Stage.afterReport at whole ⊢
        split
        · rename_i spills
          rw [if_pos spills] at whole
          exact absurd whole (broken_of_setStage found)
        · simp [Stage.pardoned, Duty.pardoned, pardoned]
      | _ => cases hides
    | _ => cases hides
  | _ => cases hidden

/-- A run in which some failures are pardoned shows the same as the run with the failures, and
all else happens in it in the same way. -/
theorem play_pardoned {capacity : Nat} (pardons : Task → Bool) (order : InOrder capacity system)
    {moves : List Move} (whole : system.Unbroken)
    (sound : ∀ move ∈ moves, move.bringsDown = false) (tally : Tally)
    (run : system.play moves = some result) :
    ∃ next told, (system.pardoned pardons tally).play (system.spared pardons moves) =
        some (result.1.pardoned pardons next, told) ∧
      (system.pardoned pardons tally).sights (system.spared pardons moves) =
        system.sights moves ∧
      told.filter (!·.isFaulted) =
        (result.2.filter (!·.isFaulted)).map (Event.pardoned pardons) ∧
      ∀ count, count ≠ .taskFailures → next.get count + system.tally.get count =
        tally.get count + result.1.tally.get count := by
  -- Every run is taken from its first move on, so the dispatcher that it begins with varies.
  induction moves generalizing system result tally with
  | nil =>
    obtain rfl := Option.some.inj run
    exact ⟨tally, [], rfl, rfl, rfl, fun _ _ => rfl⟩
  | cons move moves inductionHypothesis =>
    obtain ⟨first, last, made, played, rfl⟩ := play_cons_eq_some.mp run
    have section_made : Section system move first := section_of_step order.parkedReady made
    have later : InOrder capacity first.1 := order.of_step made
    have unbroken : first.1.Unbroken :=
      unbroken_of_section whole section_made (sound move List.mem_cons_self)
    have further : ∀ move ∈ moves, move.bringsDown = false := fun move member =>
      sound move (List.mem_cons_of_mem _ member)
    cases hidden : system.hides pardons move with
    | true =>
      obtain ⟨same, faults, counts⟩ := section_hidden tally section_made unbroken hidden
      obtain ⟨next, told, run, sights, happened, tallied⟩ :=
        inductionHypothesis later unbroken further tally played
      rw [same] at run sights
      have roster : first.1.roster = system.roster := (congrArg System.roster same :)
      have silent : first.2.filterMap Event.reply? = [] := silent_of_faulted faults
      have quiet : first.2.filter (!·.isFaulted) = [] := by
        apply List.filter_eq_nil_iff.mpr
        intro event held
        simp [faults event held]
      refine ⟨next, told, by simp [spared, made, hidden, run], ?_, ?_, ?_⟩
      · rw [sights_of_unseen made roster silent, ← sights]
        simp only [spared, made, hidden, if_true]
      · rw [List.filter_append, quiet]
        exact happened
      · intro count other
        rw [← counts count other]
        exact tallied count other
    | false =>
      obtain ⟨between, own, counts⟩ := section_pardoned tally section_made unbroken hidden
      obtain ⟨next, told, run, sights, happened, tallied⟩ :=
        inductionHypothesis later unbroken further between played
      have step := step_of_section own
      have replied : (first.2.map (Event.pardoned pardons)).filterMap Event.reply? =
          first.2.filterMap Event.reply? := replies_pardoned first.2
      refine ⟨next, first.2.map (Event.pardoned pardons) ++ told, ?_, ?_, ?_, ?_⟩
      · simp only [spared, made, hidden]
        exact play_cons_eq_some.mpr ⟨_, _, step, run, rfl⟩
      · simp only [spared, System.sights, made, hidden, step, replied, sights, Bool.false_eq_true,
          if_false]
        rfl
      · rw [List.filter_append, List.filter_append, List.map_append, unfaulted_pardoned, happened]
      · intro count other
        have before := counts count
        have after := tallied count other
        show next.get count + system.tally.get count = tally.get count + last.1.tally.get count
        omega

end System

end Standby.Dispatcher
