import Standby.Proofs.Dispatcher.Stopped

/-!
# Shutting down

Once a dispatcher has begun to stop, whoever is live goes on by himself: a worker has
something in its slot, or a task in its hands, or nothing left but to leave. Every section
that a worker makes brings it nearer to its end, and nothing else puts it back. So there
are only so many of them, and when they have been made nobody is live.

Each worker ends one more task at most. A worker that is brought down by its task never
leaves; where that happens the others leave all the same, and somebody stays live for ever.
-/

namespace Standby.Dispatcher

open Duration (Millis)

/-- How far a worker at this duty is from its end, whatever lies in its slot. -/
def Duty.remaining : Duty → Nat
  | .waiting => 5
  | .expired => 4
  | .awaiting => 3
  | .executing _ => 6
  | .failed _ _ => 5
  | .reporting _ _ => 4
  | .ended _ => 3
  | .retiring => 3

/-- How much what lies in the slot adds. -/
def Handoff.remaining : Handoff → Nat
  | .task _ => 4
  | .retire => 1

namespace Stage

/-- A bound for the sections that a worker has before it once the dispatcher stops. -/
def remaining : Stage → Nat
  | .serving _ slot duty => duty.remaining + (slot.map Handoff.remaining).getD 0
  | .announcing _ => 2
  | .counting _ => 1
  | .queued | .gone _ => 0

/-- The tasks that a worker still has to bring to their end. -/
def owed : Stage → Nat
  | .serving _ slot duty =>
    (match slot with
      | some (.task _) => 1
      | _ => 0) +
    (match duty with
      | .executing _ => 1
      | _ => 0)
  | _ => 0

/-- Only a worker with an idle timeout can have waited for too long. -/
def Timed (stage : Stage) : Prop := ∀ slot, stage ≠ .serving none slot .expired

/-- A worker has one task at most. -/
theorem Placed.owed_le_one {stage : Stage} (placed : stage.Placed) : stage.owed ≤ 1 := by
  cases stage with
  | serving idleTimeout slot duty =>
    have stands : (duty.station? slot).isSome := placed rfl
    match slot with
    | none | some .retire =>
      simp only [owed]
      split <;> omega
    | some (.task _) =>
      cases duty <;> first | exact Nat.le_refl 1 | cases stands
  | _ => exact Nat.zero_le 1

end Stage

namespace Event

/-- The task of a worker has come to its end. -/
def ends (number : WorkerId) (event : Event) : Bool :=
  match event with
  | .ended other _ _ => other = number
  | _ => false

/-- The end of a task tells of its worker. -/
theorem actor_of_ends {number : WorkerId} {event : Event} (ended : event.ends number = true) :
    event.actor? = some number := by
  cases event with
  | ended other task outcome => exact congrArg some (of_decide_eq_true ended)
  | _ => cases ended

end Event

namespace Advance

variable {roster : Roster} {number : WorkerId} {epoch : Nat} {own : Bool} {before after : Stage}
  {events : List Event}

/-- Nobody waits for too long without an idle timeout. -/
theorem timed (advance : Advance roster number epoch own before after events)
    (timed : before.Timed) : after.Timed := by
  intro slot expires
  cases advance with
  | claimed task idleTimeout duty =>
    obtain ⟨rfl, -, rfl⟩ := Stage.serving.inj expires
    exact timed none rfl
  | ended task idleTimeout slot outcome => cases outcome <;> simp [Duty.ofOutcome] at expires
  | _ => simp at expires

variable (idle : roster.phase ≠ .running)
include idle

/-- While the dispatcher does not run, a worker only gets nearer to its end, and does so
whenever it moves by itself. -/
theorem remaining (advance : Advance roster number epoch own before after events) :
    after.remaining + own.toNat ≤ before.remaining := by
  cases advance with
  | registered _ running | claimed _ _ _ running | parkedAgain _ _ _ _ running =>
    exact absurd running idle
  | began task idleTimeout duty waits | told idleTimeout duty waits =>
    rcases waits with rfl | rfl <;>
      simp [Stage.remaining, Duty.remaining, Handoff.remaining]
  | ended task idleTimeout slot outcome =>
    cases outcome <;>
      simp only [Duty.ofOutcome, Stage.remaining, Duty.remaining, Bool.toNat_true] <;> omega
  | _ =>
    simp only [Stage.remaining, Duty.remaining, Bool.toNat_true, Bool.toNat_false]
    omega

/-- While the dispatcher does not run, nobody becomes live. -/
theorem live (advance : Advance roster number epoch own before after events) :
    after.isLive.toNat ≤ before.isLive.toNat := by
  cases advance with
  | registered _ running => exact absurd running idle
  | _ => simp [Stage.isLive]

/-- While the dispatcher does not run, nobody gets another task. -/
theorem owed (advance : Advance roster number epoch own before after events) :
    after.owed + events.countP (·.ends number) ≤ before.owed := by
  cases advance with
  | claimed _ _ _ running => exact absurd running idle
  | began task idleTimeout duty waits =>
    rcases waits with rfl | rfl <;> simp [Stage.owed, Event.ends]
  | told idleTimeout duty waits => rcases waits with rfl | rfl <;> simp [Stage.owed]
  | ended task idleTimeout slot outcome =>
    cases outcome <;> simp [Duty.ofOutcome, Stage.owed, Event.ends]
  | _ => simp [Stage.owed, Event.ends]

end Advance

namespace System

variable {capacity : Nat} {system next : System} {events : List Event}

/-- A bound for the sections that all workers together have before them. -/
def remaining (system : System) : Nat :=
  Counting.total (fun worker : Worker => worker.stage.remaining) system.workers

/-- The tasks that one worker still has to bring to their end. -/
def owed (system : System) (number : WorkerId) : Nat :=
  (system.workers[number]?.map fun worker => worker.stage.owed).getD 0

/-- Only workers with an idle timeout have waited for too long. -/
def Timed (system : System) : Prop := ∀ worker ∈ system.workers, worker.stage.Timed

/-- A worker can go on by itself, or executes a task and can do so once that has ended. -/
def CanWork (system : System) (number : WorkerId) : Prop :=
  (∃ result, system.step (.work number) = some result) ∨
    ∃ task, system.duty? number = some (.executing task) ∧
      ∀ outcome, ∃ result, system.step (.finish number outcome) = some result

/-- Nobody waits for too long without an idle timeout. -/
theorem timed_of_crew {own : Bool} (timed : system.Timed) (crew : Crew system next events own) :
    next.Timed := by
  refine crew.forall timed nofun (fun idleTimeout duty before slot expires => ?_)
    fun number epoch before after advance => advance.timed
  obtain ⟨rfl, -, rfl⟩ := Stage.serving.inj expires
  exact before none rfl

/-- A worker that serves can go on, unless it waits at an empty slot. -/
theorem canWork_of_busy (timed : system.Timed) {number : WorkerId} {worker : Worker}
    (found : system.workers[number]? = some worker) (placed : worker.stage.Placed)
    (serves : worker.stage.isServing = true)
    (busy : ∀ idleTimeout, worker.stage ≠ .serving idleTimeout none .waiting) :
    system.CanWork number := by
  have clocked : worker.stage.Timed := timed worker (List.mem_of_getElem? found)
  obtain ⟨epoch, stage⟩ := worker
  have works (idleTimeout : Option Millis) (slot : Option Handoff) (duty : Duty)
      (same : stage = .serving idleTimeout slot duty)
      (able : (system.serve number epoch idleTimeout slot duty).isSome) :
      system.CanWork number := by
    obtain ⟨result, served⟩ := Option.isSome_iff_exists.mp able
    exact .inl ⟨result, by simp [step, found, work, same, served]⟩
  cases stage with
  | serving idleTimeout slot duty =>
    cases duty with
    | waiting =>
      cases slot with
      | none => exact absurd rfl (busy idleTimeout)
      | some handoff => exact works _ _ _ rfl rfl
    | awaiting =>
      cases slot with
      | none => exact absurd (placed rfl) (by simp [Stage.station?, Duty.station?])
      | some handoff => exact works _ _ _ rfl rfl
    | expired =>
      cases idleTimeout with
      | none => exact absurd rfl (clocked slot)
      | some timeout => exact works _ _ _ rfl rfl
    | executing task =>
      refine .inr ⟨task, by simp [duty?, found, Worker.duty?], fun outcome => ?_⟩
      exact ⟨_, by simp only [step, found]; rfl⟩
    | failed task failure | reporting task failure | ended task | retiring =>
      exact works _ _ _ rfl rfl
  | _ => cases serves

section Idle

variable (order : InOrder capacity system) (idle : system.roster.phase ≠ .running)
include order idle

/-- Nobody can begin to stop a dispatcher that does not run. -/
theorem not_active :
    ¬ (system.roster.phase = .starting ∨ system.roster.phase = .running) := by
  rintro (starting | running)
  · exact order.census.settled starting
  · exact idle running

/-- While the dispatcher does not run nobody is parked. -/
theorem parked_of_not_running : system.roster.parked = [] := by
  apply List.eq_nil_iff_forall_not_mem.mpr
  intro number parked
  obtain ⟨worker, found, stands⟩ := (order.census.parked number).mp parked
  exact ((order.census.orderly_of_found found).past idle).2 stands

/-- While the dispatcher does not run, its workers only get nearer to their end, and do so
whenever one of them moves by itself. -/
theorem remaining_of_crew {own : Bool} (crew : Crew system next events own) :
    next.remaining + own.toNat ≤ system.remaining := by
  cases crew with
  | same workers => simp [remaining, workers]
  | created workers =>
    rw [remaining, workers, Counting.total_concat]
    exact Nat.le_refl _
  | told _ _ active => exact absurd active (not_active order idle)
  | advanced number epoch before after change found workers changed still advance =>
    have nearer := advance.remaining idle
    have summed := Counting.total_modify (fun worker : Worker => worker.stage.remaining) change
      system.workers number _ found
    simp only [changed] at summed
    rw [remaining, remaining, workers]
    omega

/-- While the dispatcher does not run, nobody becomes live. -/
theorem live_of_crew {own : Bool} (crew : Crew system next events own) :
    next.workers.countP (·.stage.isLive) ≤ system.workers.countP (·.stage.isLive) := by
  cases crew with
  | same workers => simp [workers]
  | created workers =>
    rw [workers, List.countP_append]
    simp [Stage.isLive]
  | told _ _ active => exact absurd active (not_active order idle)
  | advanced number epoch before after change found workers changed still advance =>
    have fewer := advance.live idle
    have counted := Counting.countP_modify (·.stage.isLive) change system.workers number _ found
    simp only [changed] at counted
    rw [workers]
    omega

/-- While the dispatcher does not run, nobody gets another task. -/
theorem owed_of_crew {own : Bool} (crew : Crew system next events own) (number : WorkerId) :
    next.owed number + events.countP (·.ends number) ≤ system.owed number := by
  have silent (quiet : ∀ event ∈ events, event.actor? = none) :
      events.countP (·.ends number) = 0 := by
    rw [List.countP_eq_zero]
    intro event happened ended
    have tells := quiet event happened
    simp [Event.actor_of_ends ended] at tells
  cases crew with
  | same workers _ quiet => simp [owed, workers, silent quiet]
  | created workers _ quiet =>
    rw [silent quiet, owed, owed, workers, Counting.getElem?_concat]
    split
    · exact Nat.zero_le _
    · exact Nat.le_refl _
  | told _ _ active => exact absurd active (not_active order idle)
  | advanced acting epoch before after change found workers changed still advance =>
    by_cases same : acting = number
    · subst same
      have fewer := advance.owed idle
      simpa [owed, workers, found, changed] using fewer
    · have none : events.countP (·.ends number) = 0 := by
        rw [List.countP_eq_zero]
        intro event happened ended
        exact same (advance.eq_of_actor happened (Event.actor_of_ends ended)).symm
      rw [owed, owed, workers, List.getElem?_modify_ne _ _ same, none]
      exact Nat.le_refl _

/-- A worker that serves while the dispatcher does not run can go on. -/
theorem canWork_of_serving (timed : system.Timed) {number : WorkerId} {worker : Worker}
    (found : system.workers[number]? = some worker) (serves : worker.stage.isServing = true) :
    system.CanWork number := by
  have orderly := order.census.orderly_of_found found
  have unparked : worker.stage.station? ≠ some .parked := (orderly.past idle).2
  refine canWork_of_busy timed found orderly.placed serves fun idleTimeout waits => unparked ?_
  rw [waits]
  rfl

/-- As long as somebody is live, and nobody is brought down, somebody can go on. -/
theorem exists_canWork (timed : system.Timed) (whole : system.Unbroken)
    (somebody : 0 < system.roster.live) :
    ∃ number worker, system.workers[number]? = some worker ∧ worker.stage.isLive = true ∧
      system.CanWork number := by
  rw [order.census.live, List.countP_pos_iff] at somebody
  obtain ⟨worker, member, live⟩ := somebody
  obtain ⟨number, found⟩ := List.mem_iff_getElem?.mp member
  have serves : worker.stage.isServing = true :=
    Stage.serving_of_live live (Stage.ne_broken_of_whole (whole worker member))
  exact ⟨number, worker, found, live, canWork_of_serving order idle timed found serves⟩

end Idle

/-- A run of a dispatcher that does not run, without a start. The moves that workers make by
themselves are paid for by what remains of them. -/
theorem play_remaining (order : InOrder capacity system) (idle : system.roster.phase ≠ .running)
    {moves : List Move} {result : System × List Event} (run : system.play moves = some result)
    (unstarted : ∀ event ∈ result.2, event.isStart = false) :
    moves.countP Move.isWork + result.1.remaining ≤ system.remaining := by
  induction moves generalizing system result with
  | nil =>
    obtain rfl := Option.some.inj run
    simp
  | cons move moves inductionHypothesis =>
    obtain ⟨first, last, made, played, rfl⟩ := play_cons_eq_some.mp run
    have section_made := section_of_step order.parkedReady made
    have earlier : ∀ event ∈ first.2, event.isStart = false := fun event happened =>
      unstarted event (List.mem_append_left _ happened)
    have later : ∀ event ∈ last.2, event.isStart = false := fun event happened =>
      unstarted event (List.mem_append_right _ happened)
    have nearer : first.1.remaining + move.isWork.toNat ≤ system.remaining :=
      remaining_of_crew order idle (crew_of_section section_made)
    have rest : moves.countP Move.isWork + last.1.remaining ≤ first.1.remaining :=
      inductionHypothesis (order.of_step made)
        (not_running_of_section order idle section_made earlier) played later
    rw [Counting.countP_cons]
    dsimp only
    omega

/-- What is kept while a dispatcher winds down: it does not run, its workers are timed and
its numbers do not grow. Who has given a task back has left, and nobody has ended more
tasks than were owed. -/
structure WindingDown (begun : System) (system : System) (events : List Event) : Prop where
  idle : system.roster.phase ≠ .running
  timed : system.Timed
  live : system.roster.live ≤ begun.roster.live
  owed : ∀ number, system.owed number + events.countP (·.ends number) ≤ begun.owed number
  left : ∀ number task, .finished number task ∈ events →
    ∃ worker, system.workers[number]? = some worker ∧ worker.stage.isLive = false

/-- Who is not live does not become so while the dispatcher does not run. -/
theorem dead_of_crew (order : InOrder capacity system) (idle : system.roster.phase ≠ .running)
    {own : Bool} (crew : Crew system next events own) {number : WorkerId} {worker : Worker}
    (found : system.workers[number]? = some worker) (dead : worker.stage.isLive = false) :
    ∃ worker, next.workers[number]? = some worker ∧ worker.stage.isLive = false := by
  cases crew with
  | same workers => exact ⟨worker, by rw [workers, found], dead⟩
  | created workers =>
    have present : number < system.workers.length := (List.getElem?_eq_some_iff.mp found).1
    exact ⟨worker, by rw [workers, List.getElem?_append_left present, found], dead⟩
  | told _ _ active => exact absurd active (not_active order idle)
  | advanced acting epoch before after change held workers changed still advance =>
    rw [workers]
    by_cases same : acting = number
    · subst same
      obtain rfl : worker = ⟨epoch, before⟩ := Option.some.inj (found.symm.trans held)
      have fewer := advance.live idle
      refine ⟨⟨epoch, after⟩, by simp [held, changed], ?_⟩
      cases lives : after.isLive
      · rfl
      · simp [lives, dead] at fewer
    · exact ⟨worker, by rw [List.getElem?_modify_ne _ _ same, found], dead⟩

/-- A worker that gives its task back while the dispatcher does not run leaves. -/
theorem dead_of_finished (idle : system.roster.phase ≠ .running) {own : Bool}
    (crew : Crew system next events own) {number : WorkerId} {task : Task}
    (finished : .finished number task ∈ events) :
    ∃ worker, next.workers[number]? = some worker ∧ worker.stage.isLive = false := by
  cases crew with
  | same _ _ quiet | created _ _ quiet | told _ _ _ quiet =>
    have tells := quiet _ finished
    simp [Event.actor?] at tells
  | advanced acting epoch before after change found workers changed still advance =>
    obtain rfl : number = acting := advance.eq_of_actor finished rfl
    refine ⟨⟨epoch, after⟩, by simp [workers, found, changed], ?_⟩
    cases advance with
    | parkedAgain _ _ _ _ running => exact absurd running idle
    | leftAfterTask => rfl
    | _ => simp at finished

/-- Until the next start every section of a dispatcher that winds down keeps this. -/
theorem WindingDown.of_section {begun : System} (order : InOrder capacity system)
    (winding : WindingDown begun system events) {move : Move} {result : System × List Event}
    (made : Section system move result) (unstarted : ∀ event ∈ result.2, event.isStart = false) :
    WindingDown begun result.1 (events ++ result.2) := by
  have crew := crew_of_section made
  have idle := winding.idle
  refine
    { idle := not_running_of_section order idle made unstarted
      timed := timed_of_crew winding.timed crew
      live := ?_
      owed := fun number => ?_
      left := fun number task finished => ?_ }
  · have fewer := live_of_crew order idle crew
    rw [← order.census.live, ← (order.of_section made).census.live] at fewer
    exact Nat.le_trans fewer winding.live
  · have before := winding.owed number
    have now := owed_of_crew order idle crew number
    rw [List.countP_append]
    omega
  · rcases List.mem_append.mp finished with earlier | latest
    · obtain ⟨worker, found, dead⟩ := winding.left number task earlier
      exact dead_of_crew order idle crew found dead
    · exact dead_of_finished idle crew latest

/-- No move that a worker makes by itself starts the dispatcher. -/
theorem unstarted_of_work (crew : Crew system next events true) :
    ∀ event ∈ events, event.isStart = false := by
  cases crew with
  | advanced number epoch before after change found workers changed still advance =>
    intro event happened
    cases advance <;> simp at happened
    case parkedAgain => rcases happened with rfl | rfl <;> rfl
    all_goals
      subst happened
      rfl

/-- From a dispatcher that does not run, its workers alone can come to an end, unless one
is brought down. -/
theorem exists_play_to_end (order : InOrder capacity system)
    (idle : system.roster.phase ≠ .running) (timed : system.Timed) (whole : system.Unbroken) :
    ∃ moves last events, (∀ move ∈ moves, move.isWork = true) ∧
      moves.length ≤ system.remaining ∧ system.play moves = some (last, events) ∧
      last.roster.live = 0 := by
  -- Each move of a worker uses up some of what remains.
  induction bound : system.remaining using Nat.strongRecOn generalizing system with
  | ind bound inductionHypothesis =>
    by_cases somebody : 0 < system.roster.live
    · obtain ⟨number, worker, found, live, able⟩ := exists_canWork order idle timed whole somebody
      have goes : ∃ move result, move.isWork = true ∧ move.bringsDown = false ∧
          system.step move = some result := by
        rcases able with ⟨result, made⟩ | ⟨task, _, ends⟩
        · exact ⟨.work number, result, rfl, rfl, made⟩
        · obtain ⟨result, made⟩ := ends .returned
          exact ⟨.finish number .returned, result, rfl, rfl, made⟩
      obtain ⟨move, result, works, sound, made⟩ := goes
      have section_made := section_of_step order.parkedReady made
      have crew := crew_of_section section_made
      have nearer := remaining_of_crew order idle crew
      rw [works, Bool.toNat_true] at nearer
      have unstarted : ∀ event ∈ result.2, event.isStart = false :=
        unstarted_of_work (works ▸ crew)
      obtain ⟨moves, last, events, all, short, played, empty⟩ :=
        inductionHypothesis result.1.remaining (by omega) (order.of_step made)
          (not_running_of_section order idle section_made unstarted) (timed_of_crew timed crew)
          (unbroken_of_section whole section_made sound) rfl
      refine ⟨move :: moves, last, result.2 ++ events, ?_, ?_, ?_, empty⟩
      · simpa [works] using all
      · simp only [List.length_cons]
        omega
      · exact play_cons_eq_some.mpr ⟨result, _, made, played, rfl⟩
    · exact ⟨[], system, [], by simp, Nat.zero_le _, rfl, Nat.eq_zero_of_not_pos somebody⟩

/-- A run of a dispatcher that winds down winds it down further, until the next start. -/
theorem WindingDown.of_play {begun : System} (order : InOrder capacity system)
    (winding : WindingDown begun system []) {moves : List Move}
    {result : System × List Event} (run : system.play moves = some result)
    (unstarted : ∀ event ∈ result.2, event.isStart = false) :
    InOrder capacity result.1 ∧ WindingDown begun result.1 result.2 := by
  let invariant (system : System) (events : List Event) : Prop :=
    (∀ event ∈ events, event.isStart = false) → WindingDown begun system events
  have kept := play_sections invariant [] moves ?_ order (fun _ => winding) run
  · exact ⟨kept.1, kept.2 unstarted⟩
  · rintro move - system events result order before made unstarted
    have earlier : ∀ event ∈ events, event.isStart = false := fun event happened =>
      unstarted event (List.mem_append_left _ happened)
    have now : ∀ event ∈ result.2, event.isStart = false := fun event happened =>
      unstarted event (List.mem_append_right _ happened)
    exact (before earlier).of_section order made now

/-- Only workers with an idle timeout have waited for too long, in every run. -/
theorem timed_of_play {idleTimeout : Option Millis} {moves : List Move}
    {result : System × List Event}
    (run : (fresh capacity idleTimeout).play moves = some result) : result.1.Timed := by
  have start : (fresh capacity idleTimeout).Timed := by simp [Timed, fresh]
  refine (play_sections (fun system _ => system.Timed) [] moves ?_ (.fresh capacity idleTimeout)
    start run).2
  rintro move - system events result - timed made
  exact timed_of_crew timed (crew_of_section made)

/-- A dispatcher that has just begun to stop winds down from there. -/
theorem WindingDown.start (idle : system.roster.phase ≠ .running) (timed : system.Timed) :
    WindingDown system system [] where
  idle := idle
  timed := timed
  live := Nat.le_refl _
  owed _ := Nat.le_refl _
  left _ _ := nofun

/-- A worker owes one task at most. -/
theorem owed_le_one (order : InOrder capacity system) (number : WorkerId) :
    system.owed number ≤ 1 := by
  unfold owed
  cases found : system.workers[number]? with
  | none => exact Nat.zero_le 1
  | some worker => exact (order.census.orderly_of_found found).placed.owed_le_one

/-- A dispatcher at some moment after it has begun to stop and before it is started again.
What has happened up to the beginning, the moves since then and what has happened in them
are given. -/
structure ShutsDown (begun : System) (past : List Event) (later : List Move) (new : List Event)
    (system : System) : Prop where
  emptied : system.roster.parked = []
  /-- Nobody becomes live. -/
  shrinks : system.roster.live ≤ begun.roster.live ∧ ∀ move result,
    system.step move = some result → result.1.roster.live ≤ system.roster.live
  /-- Every worker that serves can go on, or can do so once its task has ended. -/
  canWork : ∀ number worker, system.workers[number]? = some worker →
    worker.stage.isServing = true → system.CanWork number
  /-- As long as somebody is live, and nobody is brought down, somebody can go on. -/
  goesOn : system.Unbroken → 0 < system.roster.live → ∃ number worker,
    system.workers[number]? = some worker ∧ worker.stage.isLive = true ∧ system.CanWork number
  /-- Every move of a worker brings the workers nearer to their end. -/
  nearer : ∀ move result, move.isWork = true → system.step move = some result →
    result.1.remaining < system.remaining
  /-- So there have been only so many of them. -/
  bounded : later.countP Move.isWork + system.remaining ≤ begun.remaining
  /-- Nobody has ended more than one task. -/
  once : ∀ number, new.countP (·.ends number) ≤ 1
  /-- Who has given a task back has left. -/
  left : ∀ number task, .finished number task ∈ new →
    ∃ worker, system.workers[number]? = some worker ∧ worker.stage.isLive = false
  /-- When no worker has a move left, nobody is live. -/
  settles : system.Unbroken → (∀ move, move.isWork = true → system.step move = none) →
    system.roster.live = 0
  /-- The workers alone can get there, with no more moves than remain. -/
  reaches : system.Unbroken → ∃ moves last events, (∀ move ∈ moves, move.isWork = true) ∧
    moves.length ≤ system.remaining ∧ system.play moves = some (last, events) ∧
    last.roster.live = 0
  /-- When nobody is live any more, every accepted task has ended. -/
  ended : system.roster.live = 0 → ∀ task, .returned task .accepted ∈ past ++ new →
    ∃ worker outcome, .ended worker task outcome ∈ past ++ new

/-- Every dispatcher that begins to stop, on demand or because it was let go, shuts down. -/
theorem play_shutsDown (capacity : Nat) (idleTimeout : Option Millis) (moves : List Move)
    (system : System) (events : List Event)
    (run : (fresh capacity idleTimeout).play moves = some (system, events)) (move : Move)
    (begun : System) (told : List Event) (made : system.step move = some (begun, told))
    (begins : ∃ event ∈ told, event.isStopping = true) (later : List Move) (final : System)
    (new : List Event) (rest : begun.play later = some (final, new))
    (unstarted : ∀ event ∈ new, event.isStart = false) :
    ShutsDown begun (events ++ told) later new final := by
  have order : InOrder capacity system := inOrder_of_play run
  have begin_section := section_of_step order.parkedReady made
  have begun_order : InOrder capacity begun := order.of_step made
  have begun_idle : begun.roster.phase ≠ .running := by
    obtain ⟨event, happened, begins⟩ := begins
    exact not_running_of_stopping order begin_section happened begins
  have begun_timed : begun.Timed :=
    timed_of_crew (timed_of_play run) (crew_of_section begin_section)
  have begun_custody : begun.InCustody (events ++ told) :=
    (inCustody_of_play run).of_section order begin_section
  obtain ⟨final_order, winding⟩ : InOrder capacity final ∧ WindingDown begun final new :=
    WindingDown.of_play begun_order (.start begun_idle begun_timed) rest unstarted
  have custody : final.InCustody (events ++ told ++ new) :=
    (play_sections (fun system events => system.InCustody events) (events ++ told) later
      (fun _ _ _ _ _ order custody made => custody.of_section order made) begun_order
      begun_custody rest).2
  have idle : final.roster.phase ≠ .running := winding.idle
  have crew_of_step {move : Move} {result : System × List Event}
      (made : final.step move = some result) : Crew final result.1 result.2 move.isWork :=
    crew_of_section (section_of_step final_order.parkedReady made)
  have nearer (move : Move) (result : System × List Event) (works : move.isWork = true)
      (made : final.step move = some result) : result.1.remaining < final.remaining := by
    have closer := remaining_of_crew final_order idle (crew_of_step made)
    rw [works, Bool.toNat_true] at closer
    omega
  have bounded : later.countP Move.isWork + final.remaining ≤ begun.remaining :=
    play_remaining begun_order begun_idle rest unstarted
  exact
    { emptied := parked_of_not_running final_order idle
      shrinks := by
        refine ⟨winding.live, fun move result made => ?_⟩
        have fewer := live_of_crew final_order idle (crew_of_step made)
        rwa [← final_order.census.live, ← (final_order.of_step made).census.live] at fewer
      canWork := fun number worker found serves =>
        canWork_of_serving final_order idle winding.timed found serves
      goesOn := exists_canWork final_order idle winding.timed
      nearer := nearer
      bounded := bounded
      once := fun number => by
        have owed : final.owed number + new.countP (·.ends number) ≤ begun.owed number :=
          winding.owed number
        have one := owed_le_one begun_order number
        omega
      left := winding.left
      settles := by
        intro whole exhausted
        apply Nat.eq_zero_of_not_pos
        intro somebody
        obtain ⟨number, worker, found, live, able⟩ :=
          exists_canWork final_order idle winding.timed whole somebody
        rcases able with ⟨result, made⟩ | ⟨task, _, ends⟩
        · simp [exhausted (.work number) rfl] at made
        · obtain ⟨result, made⟩ := ends .returned
          simp [exhausted (.finish number .returned) rfl] at made
      reaches := exists_play_to_end final_order idle winding.timed
      ended := fun nobody task accepted =>
        ended_of_not_serving custody
          (fun worker member => final_order.census.not_serving nobody member) accepted }

/-- One worker executes a task and the other has waited for too long when the last holder
lets the dispatcher go. -/
def lastHolder : List Move :=
  [.invoke .start, .proceed 0, .invoke (.offer false), .proceed 1, .answer 1 none, .proceed 1,
    .proceed 1, .invoke (.offer false), .proceed 2, .answer 2 none, .proceed 2, .proceed 2,
    .launch 0, .launch 1, .invoke (.offer false), .proceed 3, .work 1, .expire 0]

/-- The idle worker finds the word to retire in its slot, and the busy one ends its task. -/
def lastMoves : List Move := [.work 0, .finish 1 .returned, .work 1, .work 0]

/-- After these moves the busy worker has left, and the idle one has read the word. -/
example :
    ∃ system events begun told final new,
      (fresh 2 (some 5)).play lastHolder = some (system, events) ∧
        system.step .letGo = some (begun, told) ∧ (∃ event ∈ told, event.isStopping = true) ∧
        begun.play lastMoves = some (final, new) ∧ (∀ event ∈ new, event.isStart = false) ∧
        begun.remaining = 11 ∧ final.remaining = 5 ∧ final.roster.live = 1 ∧
        ShutsDown begun (events ++ told) lastMoves new final :=
  ⟨_, _, _, _, _, _, rfl, rfl, by decide, rfl, by decide, rfl, rfl, rfl,
    play_shutsDown 2 (some 5) lastHolder _ _ rfl .letGo _ _ rfl (by decide) lastMoves _ _ rfl
      (by decide)⟩

end System

end Standby.Dispatcher
