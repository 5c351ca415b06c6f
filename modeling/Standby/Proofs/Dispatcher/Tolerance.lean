import Standby.Proofs.Dispatcher.Offering
import Standby.Proofs.Dispatcher.Pardon
import Standby.Proofs.Dispatcher.Reports

/-!
# Failures make no difference

To a dispatcher a task that fails is the same as one that returns. Take any run, and let any of the
tasks fail that return in it. Then there is a run which shows the same, in which everything else
happens in the same order and whose result differs by the count of failures only. Conversely a run
in which tasks fail shows the same as one in which they return.

What a failure adds is the report of the worker that had the task. It is made once, and before the
task is given back. All this takes for granted that nobody is brought down: whoever hears of the
failures returns, and none of them spills.
-/

namespace Standby.Dispatcher

open Duration (Millis)

section Failing

variable (fails : Task → Option Failure)

/-- The moves that are made if these tasks fail: a worker whose task would have returned counts
the failure and reports it. -/
def System.fail (system : System) : Move → List Move
  | .finish number .returned =>
    match (system.workers[number]?.bind (·.stage.task?)).bind fails with
    | some failure => [.finish number (.failed failure), .work number, .work number]
    | none => [.finish number .returned]
  | move => [move]

/-- The moves of the run in which these tasks fail. -/
def System.failing (system : System) : List Move → List Move
  | [] => []
  | move :: moves =>
    match system.step move with
    | none => []
    | some (next, _) => system.fail fails move ++ next.failing moves

/-- What happens if these tasks fail: a failure that is reported takes the place of their return. -/
def Event.failing : Event → List Event
  | .ended number task .returned =>
    match fails task with
    | some failure => [.ended number task (.failed failure), .faulted number failure.message]
    | none => [.ended number task .returned]
  | event => [event]

/-- A task has returned that is among these. -/
def Event.isFailing : Event → Bool
  | .ended _ task .returned => (fails task).isSome
  | _ => false

/-- How much more is counted if these tasks fail. -/
def failures (events : List Event) (count : Count) : Nat :=
  if count = .taskFailures then events.countP (Event.isFailing fails) else 0

end Failing

/-- The dispatcher has these counts. -/
def System.recounted (system : System) (tally : Tally) : System := { system with tally := tally }

/-- A task among these has failed. -/
def Event.isPardoned (pardons : Task → Bool) : Event → Bool
  | .ended _ task (.failed _) => pardons task
  | _ => false

/-- A task among these has failed, and is about to be counted. -/
def Stage.isPardoned (pardons : Task → Bool) : Stage → Bool
  | .serving _ _ (.failed task _) => pardons task
  | _ => false

section Parts

variable {fails : Task → Option Failure} {pardons : Task → Bool}

/-- A worker is about to count a failure that is pardoned, or one that it also has to count in the
counterpart. -/
theorem Stage.owes_pardoned (stage : Stage) : (stage.owes .taskFailures).toNat =
    ((stage.pardoned pardons).owes .taskFailures).toNat + (stage.isPardoned pardons).toNat := by
  cases stage with
  | serving idleTimeout slot duty =>
    cases duty with
    | failed task | reporting task =>
      cases blamed : pardons task <;>
        simp [Stage.pardoned, Duty.pardoned, isPardoned, owes, owed?, blamed]
    | _ => rfl
  | announcing departure => cases departure <;> rfl
  | _ => rfl

/-- A failure is pardoned, or also happens in the counterpart. -/
theorem Event.incurs_pardoned (event : Event) : (event.incurs .taskFailures).toNat =
    ((event.pardoned pardons).incurs .taskFailures).toNat + (event.isPardoned pardons).toNat := by
  cases event with
  | ended number task outcome =>
    cases outcome with
    | returned | failed =>
      cases blamed : pardons task <;> simp [pardoned, isPardoned, incurs, blamed]
  | _ => rfl

/-- Failures of a run add up. -/
theorem failures_append (events later : List Event) (count : Count) :
    failures fails (events ++ later) count =
      failures fails events count + failures fails later count := by
  unfold failures
  rw [List.countP_append]
  split <;> rfl

/-- What happens is the same if none of the tasks returns. -/
theorem flatMap_failing {events : List Event}
    (others : ∀ number task, .ended number task .returned ∈ events → fails task = none) :
    events.flatMap (Event.failing fails) = events ∧ ∀ count, failures fails events count = 0 := by
  have same : ∀ event ∈ events,
      event.failing fails = [event] ∧ event.isFailing fails = false := by
    intro event happened
    cases event with
    | ended number task outcome =>
      cases outcome with
      | returned => simp [Event.failing, Event.isFailing, others number task happened]
      | failed failure => exact ⟨rfl, rfl⟩
    | _ => exact ⟨rfl, rfl⟩
  constructor
  · calc events.flatMap (Event.failing fails)
        = events.flatMap fun event => [event] :=
          List.flatMap_congr fun event happened => (same event happened).1
      _ = events := List.flatMap_singleton' events
  · have nothing : events.countP (Event.isFailing fails) = 0 :=
      List.countP_eq_zero.mpr fun event happened => by simp [(same event happened).2]
    intro count
    simp [failures, nothing]

end Parts

namespace System

variable {capacity : Nat} {system : System} {move : Move} {result : System × List Event}

/-- Only the last stage of a worker counts. -/
theorem setStage_setStage (system : System) (number : WorkerId) (first last : Stage) :
    (system.setStage number first).setStage number last = system.setStage number last := by
  have moved : Worker.move last ∘ Worker.move first = Worker.move last := rfl
  simp [setStage, List.modify_modify_eq, moved]

section Failed

variable {number : WorkerId} {epoch : Nat} {idleTimeout : Option Millis} {slot : Option Handoff}
  {task : Task} {failure : Failure} (quiet : failure.spills = false)
include quiet

/-- A worker whose task has failed counts the failure and reports it. -/
theorem play_report (found : system.workers[number]? =
      some ⟨epoch, .serving idleTimeout slot (.failed task failure)⟩) :
    system.play [.work number, .work number] =
        some ((system.count .taskFailures).setStage number
            (.serving idleTimeout slot (.ended task)),
          [.faulted number failure.message]) ∧
      system.sights [.work number, .work number] = [] := by
  have counted := step_of_section (.failed number epoch idleTimeout slot task failure found)
  have stands : ((system.count .taskFailures).setStage number
      (.serving idleTimeout slot (.reporting task failure))).workers[number]? =
        some ⟨epoch, .serving idleTimeout slot (.reporting task failure)⟩ := by
    simp [setStage, System.count, found, Worker.move]
  have reported := step_of_section
    (.reported number epoch idleTimeout slot task failure stands quiet)
  rw [setStage_setStage] at reported
  constructor
  · simp [play, counted, reported]
  · rw [sights_of_unseen counted rfl rfl, sights_of_unseen reported rfl rfl]
    rfl

/-- A task that fails has been reported when its worker is about to give it back. -/
theorem play_failure (found : system.workers[number]? =
      some ⟨epoch, .serving idleTimeout slot (.executing task)⟩) :
    system.play [.finish number (.failed failure), .work number, .work number] =
        some ((system.count .taskFailures).setStage number
            (.serving idleTimeout slot (.ended task)),
          [.ended number task (.failed failure), .faulted number failure.message]) ∧
      system.sights [.finish number (.failed failure), .work number, .work number] = [] := by
  have ended := step_of_section (.ended number epoch idleTimeout slot task (.failed failure) found)
  have stands : (system.setStage number
      (.serving idleTimeout slot (.failed task failure))).workers[number]? =
        some ⟨epoch, .serving idleTimeout slot (.failed task failure)⟩ := by
    simp [setStage, found, Worker.move]
  obtain ⟨reported, unseen⟩ := play_report quiet stands
  have last : ((system.setStage number
      (.serving idleTimeout slot (.failed task failure))).count .taskFailures).setStage
        number (.serving idleTimeout slot (.ended task)) =
        (system.count .taskFailures).setStage number (.serving idleTimeout slot (.ended task)) :=
    (system.count .taskFailures).setStage_setStage number _ _
  rw [last] at reported
  constructor
  · exact play_cons_eq_some.mpr ⟨_, _, ended, reported, rfl⟩
  · rw [sights_of_unseen ended rfl rfl]
    exact unseen

end Failed

/-- No worker is at a stage that there is not. -/
theorem hasStage_of_never {kind : Stage → Bool} (never : ∀ stage, kind stage = false)
    (system : System) (number : WorkerId) : system.hasStage kind number = false := by
  unfold hasStage
  cases system.workers[number]? with
  | none => rfl
  | some worker => exact never worker.stage

/-- When nobody is pardoned, a worker is the same in both runs. -/
theorem pardoned_nobody (tally : Tally) (system : System) :
    system.pardoned (fun _ => false) tally = system.recounted tally := by
  have worker (worker : Worker) : worker.pardoned (fun _ => false) = worker := by
    obtain ⟨epoch, stage⟩ := worker
    cases stage with
    | serving idleTimeout slot duty => cases duty <;> rfl
    | _ => rfl
  have workers : system.workers.map (Worker.pardoned fun _ => false) = system.workers := by
    rw [List.map_congr_left fun one _ => worker one, List.map_id']
  simp only [pardoned, recounted, workers]

/-- Without a pardon everything happens as it does. -/
theorem events_pardoned_nobody (events : List Event) :
    events.map (Event.pardoned fun _ => false) = events := by
  have same (event : Event) : event.pardoned (fun _ => false) = event := by cases event <;> rfl
  rw [List.map_congr_left fun event _ => same event, List.map_id']

/-- Without a pardon no move is another one. -/
theorem spare_nobody (system : System) (move : Move) :
    system.spare (fun _ => false) move = move := by
  cases move with
  | finish number outcome =>
    have never (stage : Stage) : stage.task?.any (fun _ => false) = false := by
      cases stage.task? <;> rfl
    simp only [spare]
    rw [hasStage_of_never never]
    rfl
  | _ => rfl

/-- Without a pardon no move is hidden. -/
theorem hides_nobody (system : System) (move : Move) :
    system.hides (fun _ => false) move = false := by
  cases move with
  | work number =>
    refine hasStage_of_never (fun stage => ?_) system number
    unfold Stage.isHidden
    split <;> rfl
  | _ => rfl

/-- A section does not depend on what was counted, and counts the same: it is the same section
when nobody is pardoned. -/
theorem section_recounted (made : Section system move result) (whole : result.1.Unbroken)
    (tally : Tally) :
    ∃ next, Section (system.recounted tally) move (result.1.recounted next, result.2) ∧
      ∀ count, next.get count + system.tally.get count =
        tally.get count + result.1.tally.get count := by
  obtain ⟨next, same, counts⟩ := section_pardoned tally made whole (hides_nobody system move)
  rw [pardoned_nobody, pardoned_nobody, events_pardoned_nobody, spare_nobody] at same
  exact ⟨next, same, counts⟩

/-- A move lets a task return that is to fail, or is the same if the tasks fail. -/
theorem fail_cases (fails : Task → Option Failure) (made : Section system move result) :
    (∃ number epoch idleTimeout slot task failure, move = .finish number .returned ∧
        system.workers[number]? = some ⟨epoch, .serving idleTimeout slot (.executing task)⟩ ∧
        fails task = some failure ∧
        result = (system.setStage number (.serving idleTimeout slot (.ended task)),
          [.ended number task .returned])) ∨
      system.fail fails move = [move] ∧
        ∀ number task, .ended number task .returned ∈ result.2 → fails task = none := by
  have possible : Section system move result := made
  cases made with
  | ended number epoch idleTimeout slot task outcome found =>
    cases outcome with
    | returned =>
      cases blamed : fails task with
      | none =>
        refine .inr ⟨by simp [fail, found, Stage.task?, blamed], ?_⟩
        rintro other given ends
        obtain ⟨-, rfl⟩ : other = number ∧ given = task := by simpa using ends
        exact blamed
      | some failure =>
        exact .inl ⟨number, epoch, idleTimeout, slot, task, failure, rfl, found, blamed, rfl⟩
    | failed failure => exact .inr ⟨rfl, by simp⟩
  | _ => exact .inr ⟨rfl, fun number task ends => by cases eq_finish_of_ended possible ends⟩

/-- What becomes of a section if the tasks fail. -/
theorem section_failing (fails : Task → Option Failure)
    (quiet : ∀ task, ∀ failure ∈ fails task, failure.spills = false)
    (made : Section system move result) (whole : result.1.Unbroken) (tally : Tally) :
    ∃ next, (system.recounted tally).play (system.fail fails move) =
        some (result.1.recounted next, result.2.flatMap (Event.failing fails)) ∧
      (system.recounted tally).sights (system.fail fails move) = system.sights [move] ∧
      ∀ count, next.get count + system.tally.get count =
        tally.get count + result.1.tally.get count + failures fails result.2 count := by
  have step := step_of_section made
  rcases fail_cases fails made with
    ⟨number, epoch, idleTimeout, slot, task, failure, rfl, found, blamed, rfl⟩ | ⟨same, others⟩
  · have moves : system.fail fails (.finish number .returned) =
        [.finish number (.failed failure), .work number, .work number] := by
      simp [fail, found, Stage.task?, blamed]
    have stands : (system.recounted tally).workers[number]? =
        some ⟨epoch, .serving idleTimeout slot (.executing task)⟩ := found
    obtain ⟨played, unseen⟩ := play_failure (quiet task failure blamed) stands
    refine ⟨tally.add .taskFailures, ?_, ?_, fun count => ?_⟩
    · rw [moves, played]
      simp [Event.failing, blamed]
      rfl
    · rw [moves, unseen, sights_of_unseen step rfl rfl]
      rfl
    · simp only [Tally.get_add, setStage, failures, List.countP_singleton, Event.isFailing, blamed]
      split
      · simp
        omega
      · simp
  · obtain ⟨next, own, counts⟩ := section_recounted made whole tally
    obtain ⟨events, none⟩ := flatMap_failing others
    have twin := step_of_section own
    refine ⟨next, ?_, ?_, fun count => ?_⟩
    · rw [same, events]
      exact play_cons_eq_some.mpr ⟨_, (_, []), twin, rfl, by simp⟩
    · rw [same]
      simp only [sights, twin, step]
      rfl
    · rw [none, counts]
      rfl

/-- A run in which the tasks fail shows the same as the run in which they return, and everything
else happens in it in the same order. -/
theorem play_failing (fails : Task → Option Failure)
    (quiet : ∀ task, ∀ failure ∈ fails task, failure.spills = false)
    (order : InOrder capacity system) {moves : List Move} (whole : system.Unbroken)
    (sound : ∀ move ∈ moves, move.bringsDown = false) (tally : Tally)
    (run : system.play moves = some result) :
    ∃ next, (system.recounted tally).play (system.failing fails moves) =
        some (result.1.recounted next, result.2.flatMap (Event.failing fails)) ∧
      (system.recounted tally).sights (system.failing fails moves) = system.sights moves ∧
      ∀ count, next.get count + system.tally.get count =
        tally.get count + result.1.tally.get count + failures fails result.2 count := by
  induction moves generalizing system result tally with
  | nil =>
    obtain rfl := Option.some.inj run
    exact ⟨tally, rfl, rfl, fun count => by simp [failures]⟩
  | cons move moves inductionHypothesis =>
    obtain ⟨first, last, made, played, rfl⟩ := play_cons_eq_some.mp run
    have section_made : Section system move first := section_of_step order.parkedReady made
    have unbroken : first.1.Unbroken :=
      unbroken_of_section whole section_made (sound move List.mem_cons_self)
    obtain ⟨between, own, shown, counts⟩ :=
      section_failing fails quiet section_made unbroken tally
    obtain ⟨next, rest, sights, later⟩ := inductionHypothesis (order.of_step made) unbroken
      (fun move member => sound move (List.mem_cons_of_mem _ member)) between played
    have one : system.play [move] = some first := play_cons_eq_some.mpr
      ⟨first, (first.1, []), made, rfl, by simp⟩
    refine ⟨next, ?_, ?_, fun count => ?_⟩
    · simp only [failing, made, List.flatMap_append]
      exact play_append own rest
    · calc (system.recounted tally).sights (system.failing fails (move :: moves))
          = (system.recounted tally).sights
              (system.fail fails move ++ first.1.failing fails moves) := by
            simp only [failing, made]
        _ = system.sights [move] ++ first.1.sights moves := by
            rw [sights_append own, shown]
            exact congrArg _ sights
        _ = system.sights (move :: moves) := (sights_append one).symm
    · have before := counts count
      have after := later count
      rw [failures_append]
      dsimp only
      omega

/-- Of the failures that a run counts or is about to count, those that are pardoned are missing
in its counterpart. -/
theorem taskFailures_of_pardoned {pardons : Task → Bool} {tally : Tally}
    {events told : List Event} (accounts : system.Accounts events)
    (others : (system.pardoned pardons tally).Accounts told)
    (same : told.filter (!·.isFaulted) =
      (events.filter (!·.isFaulted)).map (Event.pardoned pardons)) :
    system.tally.taskFailures + system.workers.countP (·.stage.isPardoned pardons) =
      tally.taskFailures + events.countP (Event.isPardoned pardons) := by
  have owed : system.workers.countP (·.stage.owes .taskFailures) =
      (system.workers.map (Worker.pardoned pardons)).countP (·.stage.owes .taskFailures) +
        system.workers.countP (·.stage.isPardoned pardons) := by
    rw [List.countP_map]
    exact Counting.countP_add _ _ _ _ fun worker _ => worker.stage.owes_pardoned
  -- Reports are no failures, so it makes no difference which of them are left out.
  have unreported (events : List Event) :
      (events.filter (!·.isFaulted)).countP (·.incurs .taskFailures) =
        events.countP (·.incurs .taskFailures) := by
    rw [List.countP_filter]
    refine List.countP_congr fun event _ => ?_
    cases event <;> simp [Event.incurs, Event.isFaulted]
  have kept : told.countP (·.incurs .taskFailures) =
      events.countP fun event => (event.pardoned pardons).incurs .taskFailures := by
    rw [← unreported told, same, List.countP_map, List.countP_filter]
    refine List.countP_congr fun event _ => ?_
    cases event <;> simp [Event.pardoned, Event.incurs, Event.isFaulted]
  have ended : events.countP (·.incurs .taskFailures) =
      told.countP (·.incurs .taskFailures) + events.countP (Event.isPardoned pardons) := by
    rw [kept]
    exact Counting.countP_add _ _ _ _ fun event _ => event.incurs_pardoned
  have incurred : system.tally.taskFailures +
      system.workers.countP (·.stage.owes .taskFailures) =
        events.countP (·.incurs .taskFailures) := accounts.incurred .taskFailures rfl
  have spared : tally.taskFailures +
      (system.workers.map (Worker.pardoned pardons)).countP (·.stage.owes .taskFailures) =
        told.countP (·.incurs .taskFailures) := others.incurred .taskFailures rfl
  omega

/-- A worker whose task has failed parks again if the dispatcher still accepts it, and serves. -/
theorem resumes_of_failed (order : InOrder capacity system) {number : WorkerId}
    {idleTimeout : Option Millis} {slot : Option Handoff} {task : Task} {failure : Failure}
    (found : system.workers[number]? =
      some ⟨system.roster.epoch, .serving idleTimeout slot (.failed task failure)⟩)
    (quiet : failure.spills = false) (running : system.roster.phase = .running) :
    ∃ next, system.play [.work number, .work number, .work number] =
        some (next, [.faulted number failure.message, .finished number task, .parkedAgain number]) ∧
      next.roster = { system.roster with
        parked := number :: system.roster.parked
        pending := system.roster.pending - 1 } ∧
      ∀ call fallsBack, system.Offers call fallsBack →
        ∃ last, next.play [.proceed call, .work number] = some (last,
          [.claimed number call, .returned call .accepted, .began number call]) := by
  obtain rfl : slot = none := (order.census.orderly_of_found found).placed.slot_eq_none rfl
  obtain ⟨reported, -⟩ := play_report quiet found
  obtain ⟨told, same⟩ : ∃ told, told = (system.count .taskFailures).setStage number
      (.serving idleTimeout none (.ended task)) := ⟨_, rfl⟩
  rw [← same] at reported
  have stands : told.workers[number]? =
      some ⟨told.roster.epoch, .serving idleTimeout none (.ended task)⟩ := by
    simp [same, setStage, System.count, found, Worker.move]
  have goesOn : told.roster.phase = .running := by rw [same]; exact running
  have parks := step_of_section (.parkedAgain number idleTimeout none task stands goesOn)
  have played := play_append reported
    (play_cons_eq_some.mpr ⟨_, _, parks, show play _ [] = some (_, []) from rfl, rfl⟩)
  refine ⟨_, played, by rw [same]; rfl, fun call fallsBack offers => ?_⟩
  obtain ⟨next, isNext⟩ : ∃ next, next = (told.setRoster (told.roster.release.park number)).setStage
      number (.serving idleTimeout none .waiting) := ⟨_, rfl⟩
  have later : InOrder capacity next := by
    have kept := (play_sections (fun _ _ => True) [] _ (by simp) order trivial played).1
    rw [isNext]
    exact kept
  have asks : next.Offers call fallsBack := by rw [isNext, same]; exact offers
  have parked : next.roster.parked = number :: system.roster.parked := by rw [isNext, same]; rfl
  have accepting : next.roster.phase = .running := by rw [isNext, same]; exact running
  obtain ⟨busy, handed, becomes, -⟩ := asks.handed accepting later parked
  have holds : busy.workers[number]? =
      some ⟨system.roster.epoch, .serving idleTimeout (some (.task call)) .waiting⟩ := by
    simp [becomes, isNext, same, setStage, setRoster, System.count, found, Worker.move,
      Worker.receive]
  have begins := step_of_section
    (.began number system.roster.epoch idleTimeout call .waiting (.inl rfl) holds)
  rw [← isNext]
  exact ⟨_, play_cons_eq_some.mpr ⟨_, _, handed,
    play_cons_eq_some.mpr ⟨_, (_, []), begins, rfl, rfl⟩, rfl⟩⟩

/-- Failed tasks make no difference to a dispatcher. The run is given by its start, its moves, what
it leaves and what happens. -/
structure ToleratesFailures (start : System) (moves : List Move) (system : System)
    (events : List Event) : Prop where
  /-- Whichever of the tasks that return in this run are to fail, and whatever they are to leave
  behind, if it does not spill: there is a run in which they do, nothing else can be seen to
  differ, and what it leaves differs by the count of failures only. All that happens besides is a
  report for each failure, which tells the worker and the message. -/
  failing : ∀ fails : Task → Option Failure,
    (∀ task, ∀ failure ∈ fails task, failure.spills = false) →
    start.play (start.failing fails moves) =
        some ({ system with tally := { system.tally with
            taskFailures :=
              system.tally.taskFailures + events.countP (Event.isFailing fails) } },
          events.flatMap (Event.failing fails)) ∧
      start.sights (start.failing fails moves) = start.sights moves
  /-- Whichever of the tasks that fail in this run are to return, and whatever comes between a
  failure and its report: there is a run in which they do, and it shows the same. -/
  spared : ∀ pardons : Task → Bool, ∃ tally told,
    start.play (start.spared pardons moves) = some (system.pardoned pardons tally, told) ∧
      start.sights (start.spared pardons moves) = start.sights moves ∧
      told.filter (!·.isFaulted) =
        (events.filter (!·.isFaulted)).map (Event.pardoned pardons) ∧
      (∀ count, count ≠ .taskFailures → tally.get count = system.tally.get count) ∧
      system.tally.taskFailures + system.workers.countP (·.stage.isPardoned pardons) =
        tally.taskFailures + events.countP (Event.isPardoned pardons)
  /-- A worker reports every failure of its tasks once, before it gives the task back. -/
  reported : ∀ number, ∃ ends : List (Task × Outcome),
    events.filter (Event.concludes number) ++ system.untold number =
      ends.flatMap fun last => conclusion number last.1 last.2
  /-- A worker whose task has failed parks again if it is still accepted, and serves. -/
  resumes : ∀ number idleTimeout slot task failure,
    system.workers[number]? =
        some ⟨system.roster.epoch, .serving idleTimeout slot (.failed task failure)⟩ →
      failure.spills = false → system.roster.phase = .running →
        ∃ next, system.play [.work number, .work number, .work number] = some (next,
            [.faulted number failure.message, .finished number task, .parkedAgain number]) ∧
          next.roster = { system.roster with
            parked := number :: system.roster.parked
            pending := system.roster.pending - 1 } ∧
          ∀ call fallsBack, system.Offers call fallsBack →
            ∃ last, next.play [.proceed call, .work number] = some (last,
              [.claimed number call, .returned call .accepted, .began number call])

/-- As long as nobody is brought down, failed tasks make no difference to a dispatcher. -/
theorem play_toleratesFailures (capacity : Nat) (idleTimeout : Option Millis) (moves : List Move)
    (sound : ∀ move ∈ moves, move.bringsDown = false) (system : System) (events : List Event)
    (run : (fresh capacity idleTimeout).play moves = some (system, events)) :
    (fresh capacity idleTimeout).ToleratesFailures moves system events := by
  have start : InOrder capacity (fresh capacity idleTimeout) := .fresh capacity idleTimeout
  have whole : (fresh capacity idleTimeout).Unbroken := by simp [Unbroken, fresh]
  constructor
  case failing =>
    intro fails quiet
    obtain ⟨tally, played, shown, counts⟩ := play_failing fails quiet start whole sound .zero run
    have counted : tally = { system.tally with taskFailures :=
        system.tally.taskFailures + events.countP (Event.isFailing fails) } := by
      refine Tally.ext fun count => ?_
      have balanced := counts count
      cases count <;> simpa [fresh, failures, Tally.get, Tally.zero, Tally.of] using balanced
    rw [counted] at played
    exact ⟨played, shown⟩
  case spared =>
    intro pardons
    obtain ⟨tally, told, played, shown, same, counts⟩ :=
      play_pardoned pardons start whole sound .zero run
    refine ⟨tally, told, played, shown, same, fun count other => ?_, ?_⟩
    · have balanced := counts count other
      simpa [fresh] using balanced
    · exact taskFailures_of_pardoned (accounts_of_play run) (accounts_of_play played) same
  case reported => exact play_concluded sound run
  case resumes =>
    intro number idleTimeout slot task failure found quiet running
    exact resumes_of_failed (inOrder_of_play run) found quiet running

/-- A task that has made an offer of its own fails when the dispatcher was let go meanwhile. -/
def lateFailure : List Move :=
  [.invoke .start, .proceed 0, .invoke (.offer false), .proceed 1, .answer 1 none, .proceed 1,
    .proceed 1, .launch 0, .invoke (.offer false), .proceed 2, .work 0, .invoke (.offer false),
    .proceed 3, .letGo, .finish 0 (.failed (.other false)), .work 0, .work 0, .work 0, .work 0]

/-- The last worker leaves, as it does when its task returns. -/
example :
    ∃ system events, (fresh 1 none).play lateFailure = some (system, events) ∧
      .faulted 0 "unknown panic payload" ∈ events ∧ system.roster.live = 0 ∧
      (fresh 1 none).ToleratesFailures lateFailure system events :=
  ⟨_, _, rfl, by decide, rfl, play_toleratesFailures 1 none lateFailure (by decide) _ _ rfl⟩

end System

end Standby.Dispatcher
