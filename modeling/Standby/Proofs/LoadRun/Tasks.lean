import Standby.Proofs.Hosted.Tasks
import Standby.Proofs.LoadRun.Rounds

/-!
# Whose turns there are

A turn is only taken as long as its task is executed, or as the main thread has a chain to
begin, so no turn is left when all threads of the pool have stopped. What the main thread has
seen by then is all that there is to see.
-/

namespace Standby.LoadRun

open Dispatcher (WorkerId Task)

namespace System

variable {system next : System} {capacity : Nat} {moves : List (Pool.Move Hosted.Job)}
  {told : List Pool.Event} {move : Move} {result : System × List Event} {runner : Runner}
  {task : Task}

/-- The task of a worker is the one that it executes. -/
theorem taskOf_eq_some_iff {number : WorkerId} :
    system.taskOf? number = some task ↔ system.host.WorkerHas number task := by
  unfold taskOf? Hosted.System.WorkerHas
  cases found : system.host.dispatcher.workers[number]? with
  | none => simp
  | some worker =>
    obtain ⟨epoch, stage⟩ := worker
    cases stage with
    | serving idleTimeout slot duty => cases duty <;> simp [Dispatcher.Stage.task?]
    | _ => simp [Dispatcher.Stage.task?]

/-- The task of a thread is the one that it runs. -/
theorem pooledTask_eq_some_iff {thread : Nat} :
    system.pooledTask? thread = some task ↔ system.host.ThreadHas thread task := by
  unfold pooledTask? Hosted.System.ThreadHas
  cases found : system.host.pool.threads[thread]? with
  | none => simp
  | some stage =>
    cases stage with
    | running number job => cases job <;> simp
    | _ => simp

/-- A task runs when a worker or a thread has it. -/
theorem isRunning_iff : system.isRunning task = true ↔ system.host.Executes task := by
  unfold isRunning Hosted.System.Executes
  rw [Bool.or_eq_true, Hosted.System.runs_iff, List.any_eq_true]
  refine or_congr ⟨?_, ?_⟩ Iff.rfl
  · rintro ⟨number, -, same⟩
    exact ⟨number, taskOf_eq_some_iff.mp (eq_of_beq same)⟩
  · rintro ⟨number, worker, found, has⟩
    refine ⟨number, List.mem_range.mpr (List.getElem?_eq_some_iff.mp found).1, ?_⟩
    rw [taskOf_eq_some_iff.mpr ⟨worker, found, has⟩]
    exact beq_self_eq_true _

/-- Whether a turn may be taken depends on the main thread and on who executes what. -/
theorem Due.keep (due : system.Due runner)
    (executes : ∀ task, runner = .task task → system.host.Executes task → next.host.Executes task)
    (main : ∀ chains, system.main = .seeding (chains + 1) → next.main = system.main) :
    next.Due runner := by
  cases runner with
  | task task => exact isRunning_iff.mpr (executes task rfl (isRunning_iff.mp due))
  | main =>
    obtain ⟨chains, seeding⟩ := due
    exact ⟨chains, (main chains seeding).trans seeding⟩

/-- Every turn may be taken, and after the end there is nothing left to see. -/
structure Seated (system : System) : Prop where
  turns : ∀ runner progress, system.progress? runner = some progress → system.Due runner
  finished : system.main = .finished → system.isDeserted = true ∧ system.unseen = 0

/-- A turn that is there after an answer was there before. -/
theorem found_of_heard {host : Hosted.System} {answers : List (Nat × Dispatcher.Answer)}
    (heard : Heard system host answers next) {progress : Progress}
    (found : next.progress? runner = some progress) :
    ∃ before, system.progress? runner = some before := by
  cases heard with
  | nothing | main => exact ⟨progress, found⟩
  | turn other call answer calls =>
    by_cases same : runner = other
    · exact ⟨_, same ▸ calls⟩
    · exact ⟨progress, (progressIn_setIn_of_ne same).symm.trans found⟩

/-- No answer concerns the main thread while it begins chains, nor when it has finished. -/
theorem main_of_heard {host : Hosted.System} {answers : List (Nat × Dispatcher.Answer)}
    (heard : Heard system host answers next) :
    (∀ chains, system.main = .seeding (chains + 1) → next.main = system.main) ∧
      (next.main = .finished → system.main = .finished) := by
  cases heard with
  | nothing main calls turned =>
    rcases turned with rfl | ⟨⟨call, closes⟩, rfl⟩
    · exact ⟨fun _ _ => rfl, id⟩
    · rw [closes]
      exact ⟨nofun, nofun⟩
  | turn => exact ⟨fun _ _ => rfl, id⟩
  | main call stage request answer main waits turned =>
    refine ⟨fun chains seeding => ?_, fun ends => ?_⟩
    · rw [seeding] at waits
      cases waits
    · rcases turned with ⟨-, rfl⟩ | ⟨-, rfl⟩ <;> cases ends

/-- A move that ends no task leaves all of them running. -/
theorem Plain.not_releases {own : Hosted.Move} (plain : system.Plain own) :
    ¬ system.host.Releases task own := by
  intro releases
  cases releases with
  | worker number outcome has =>
    have idle : system.taskOf? number = none := plain
    rw [taskOf_eq_some_iff.mpr has] at idle
    cases idle
  | thread thread outcome has =>
    have idle : system.pooledTask? thread = none := plain
    rw [pooledTask_eq_some_iff.mpr has] at idle
    cases idle

/-- A move that ends a task ends no other. -/
theorem Ends.eq_of_releases {own : Hosted.Move} {other : Task} (ends : system.Ends own task)
    (releases : system.host.Releases other own) : other = task := by
  cases ends with
  | worker number _ executes =>
    cases releases with
    | worker _ _ has => exact Option.some.inj ((taskOf_eq_some_iff.mpr has).symm.trans executes)
  | thread thread _ runs =>
    cases releases with
    | thread _ _ has => exact Option.some.inj ((pooledTask_eq_some_iff.mpr has).symm.trans runs)

namespace Seated

/-- There are no turns at the beginning. -/
theorem fresh (host : Hosted.System) (loops chains : Nat) :
    (System.fresh host loops chains).Seated := ⟨nofun, nofun⟩

/-- No turn is left at the end. -/
theorem nobody (seated : system.Seated)
    (order : Hosted.System.InOrder capacity moves system.host told)
    (ends : system.main = .finished) (runner : Runner) : system.progress? runner = none := by
  refine Option.eq_none_iff_forall_ne_some.mpr fun progress found => ?_
  have due := seated.turns runner progress found
  cases runner with
  | task task =>
    exact order.not_executes (seated.finished ends).1 task (isRunning_iff.mp due)
  | main =>
    obtain ⟨chains, seeding⟩ := due
    rw [ends] at seeding
    cases seeding

/-- When a turn goes on, all turns are still due. -/
theorem keep_turn (seated : system.Seated)
    (order : Hosted.System.InOrder capacity moves system.host told) {progress later : Progress}
    (found : system.progress? runner = some progress)
    (turns : next.turns = setIn system.turns runner later)
    (executes : ∀ task, system.host.Executes task → next.host.Executes task)
    (main : next.main = system.main) : next.Seated where
  turns other now stands := by
    have before : ∃ progress, system.progress? other = some progress := by
      by_cases same : other = runner
      · exact ⟨progress, same ▸ found⟩
      · refine ⟨now, Eq.trans ?_ stands⟩
        rw [progress?, progress?, turns]
        exact (progressIn_setIn_of_ne same).symm
    obtain ⟨own, held⟩ := before
    exact (seated.turns other own held).keep (fun task _ => executes task) fun _ _ => main
  finished ends := by
    -- At the end there is no turn that could go on.
    have absent := seated.nobody order (main.symm.trans ends) runner
    rw [found] at absent
    cases absent

/-- When only the main thread goes on and has no chain to begin, all turns are still due. -/
theorem keep_main (seated : system.Seated) (turns : next.turns = system.turns)
    (executes : ∀ task, system.host.Executes task → next.host.Executes task)
    (seeds : ∀ chains, system.main ≠ .seeding (chains + 1))
    (finished : next.main = .finished → next.isDeserted = true ∧ next.unseen = 0) :
    next.Seated where
  turns runner progress found := by
    have held : system.progress? runner = some progress := by
      rw [progress?, turns] at found
      exact found
    exact (seated.turns runner progress held).keep (fun task _ => executes task)
      fun chains seeding => absurd seeding (seeds chains)
  finished := finished

/-- All turns are still due after a move of the dispatcher or the pool, except that of a task
that ends. -/
theorem due_of_step (seated : system.Seated)
    (order : Hosted.System.InOrder capacity moves system.host told) {own : Hosted.Move}
    {host : Hosted.System} {events : List Hosted.Event}
    (stepped : system.host.step own = some (host, events))
    {answers : List (Nat × Dispatcher.Answer)}
    (heard : Heard system host answers next) (same : next.host = host) {progress : Progress}
    (found : next.progress? runner = some progress)
    (stays : ∀ task, runner = .task task → ¬ system.host.Releases task own) : next.Due runner := by
  obtain ⟨before, held⟩ := found_of_heard heard found
  refine (seated.turns runner before held).keep (fun task own executes => ?_)
    (main_of_heard heard).1
  rcases Hosted.System.executes_of_step order stepped executes with still | releases
  · exact same ▸ still
  · exact absurd releases (stays task own)

/-- After the end there is nothing left to see, whatever the dispatcher and the pool do. -/
theorem finished_of_step (seated : system.Seated) {own : Hosted.Move} {host : Hosted.System}
    {events : List Hosted.Event} (stepped : system.host.step own = some (host, events))
    {answers : List (Nat × Dispatcher.Answer)} (heard : Heard system host answers next)
    (ends : next.main = .finished) : next.isDeserted = true ∧ next.unseen = 0 := by
  obtain ⟨deserted, seen⟩ := seated.finished ((main_of_heard heard).2 ends)
  have still : host.pool.deserted = true := Hosted.System.deserted_of_step stepped deserted
  cases heard <;> exact ⟨still, seen⟩

/-- Every section keeps the turns due. -/
theorem of_section (seated : system.Seated) (linked : system.Linked)
    (order : Hosted.System.InOrder capacity moves system.host told)
    (made : Section system move result) : result.1.Seated := by
  cases made with
  | began runner idle due =>
    refine ⟨fun other progress found => ?_, seated.finished⟩
    have here : system.Due other := by
      rw [progress?, ← progressIn, progressIn_cons] at found
      split at found
      · rename_i same
        exact same ▸ due
      · exact seated.turns other progress found
    exact here.keep (fun _ _ => id) fun _ _ => rfl
  | exhausted runner found | claimed runner found | signalled runner found =>
    exact seated.keep_turn order found rfl (fun _ => id) rfl
  | offered runner found held => exact seated.keep_turn order found rfl (fun _ => id) rfl
  | counted runner answer found =>
    cases answer <;> exact seated.keep_turn order found rfl (fun _ => id) rfl
  | chained chains found seeding =>
    refine ⟨fun other progress stands => ?_, by simp [removeTurn]⟩
    have held : progressIn (dropIn system.turns .main) other = some progress := stands
    rw [progressIn_dropIn] at held
    cases other with
    | main => cases held
    | task task => exact (seated.turns (.task task) progress held : system.isRunning task = true)
  | hosted own host events plain stepped =>
    have heard := heard_of_step linked order stepped plain.begins_nothing
    exact ⟨fun runner progress found => seated.due_of_step order stepped heard
        (noting_host _ _ _) found fun _ _ => plain.not_releases,
      seated.finished_of_step stepped heard⟩
  | finished own task host events ends ended stepped =>
    have heard := heard_of_step linked order stepped ends.begins_nothing
    have ended := seated.finished_of_step stepped heard
    refine ⟨fun runner progress found => ?_, ended⟩
    have held : progressIn (dropIn (system.noting host events).turns (.task task)) runner =
        some progress := found
    rw [progressIn_dropIn] at held
    split at held
    · cases held
    · rename_i different
      have due : (system.noting host events).Due runner :=
        seated.due_of_step order stepped heard (noting_host _ _ _) held fun other same releases =>
          different (same.trans (congrArg Runner.task (ends.eq_of_releases releases)))
      exact due.keep (fun _ _ => id) fun _ _ => rfl
  | starting main | seeded main | sawAll main | stopping main | closing main | gaveUp main =>
    exact seated.keep_main rfl (fun _ => id) (by simp [main]) (by simp)
  | joined main deserted =>
    exact seated.keep_main rfl (fun _ => id) (by simp [main]) fun _ => ⟨deserted, rfl⟩
  | watched main =>
    exact seated.keep_main rfl (fun _ => id) (by simp [main]) (by simp [main])

end Seated

end System

end Standby.LoadRun
