import Standby.Proofs.Hosted.Soundness
import Standby.Proofs.Hosted.Whereabouts
import Standby.Proofs.LoadRun.Tasks

/-!
# Where the chains are

A chain that the main thread has begun is always with one step: a task that waits, or a turn that
may be taken or is taken and has not handed the chain over. A turn hands it over in the section in
which the next task gets its place, which may be before the turn hears of it. A chain ends when a
turn finds the budget empty, or counts a refusal. So the chains that were begun are the steps that
are live and the chains that have ended.
-/

namespace Standby.LoadRun

open Dispatcher (Task Answer)

/-- A turn at this progress has its chain: it has neither handed it over nor come to its end. -/
def Progress.holds (host : Hosted.System) : Progress → Bool
  | .claiming | .offering | .answered (.refused _) => true
  | .calling call => !host.isTaken call
  | .answered _ | .signalling | .spent => false

/-- A turn at this progress has its chain no more. -/
def Progress.hasParted (host : Hosted.System) (progress : Progress) : Bool := !progress.holds host

/-- A turn has found the budget empty. -/
def Event.isExhausted : Event → Bool
  | .exhausted _ => true
  | _ => false

/-- How many chains the main thread has begun by these moves. -/
def seeds (moves : List Move) : Nat := moves.count (.begin .main)

/-- How many chains the main thread has still to begin. -/
def Main.unseeded (chains : Nat) : Main → Nat
  | .starting | .callingStart _ => chains
  | .seeding left => left
  | _ => 0

namespace System

/-- Who may take a turn or takes one. -/
def runners (system : System) : List Runner :=
  system.host.executing.map .task ++ if (system.progress? .main).isSome then [.main] else []

/-- The runner has a chain. -/
def isAlive (system : System) (runner : Runner) : Bool :=
  (system.progress? runner).all (Progress.holds system.host)

/-- The steps that are live. -/
def live (system : System) : List Runner :=
  system.host.waiting.map .task ++ system.runners.filter system.isAlive

/-- The turns that have their chains no more. -/
def parted (system : System) : Nat := countIn (Progress.hasParted system.host) system.turns

/-- The turns of the main thread. -/
def mainTurns (system : System) : Nat := (system.progress? .main).isSome.toNat

/-- The chains that were begun are with the tasks that have a place and with the turn of the main
thread, or have ended; those of turns that have handed over are counted twice. -/
structure Chained (seeded exhausted : Nat) (system : System) : Prop where
  conserved : system.host.places (fun _ => true) + system.mainTurns + system.failed + exhausted =
    seeded + system.parted
  seeded : seeded + system.main.unseeded system.chains = system.chains + system.mainTurns
  spent : 0 < exhausted → system.remaining = 0

variable {system next : System} {capacity : Nat} {moves : List (Pool.Move Hosted.Job)}
  {told : List Pool.Event} {move : Move} {result : System × List Event} {runner : Runner}
  {seeded exhausted : Nat}

/-- A load run makes loyal moves of the dispatcher and the pool only. -/
theorem Plain.loyal {own : Hosted.Move} (plain : system.Plain own) : Hosted.System.Loyal own := by
  cases own with
  | dispatcher own => cases own <;> first | exact plain | exact trivial
  | pool own =>
    cases own with
    | invoke => exact plain.elim
    | letGo => exact plain
    | _ => exact trivial

/-- A move that ends no task lets none fail. -/
theorem Plain.returns {own : Hosted.Move} (plain : system.Plain own) :
    system.host.TaskReturns own := by
  cases own with
  | dispatcher => exact trivial
  | pool own =>
    cases own with
    | finish thread outcome =>
      intro task has
      cases (pooledTask_eq_some_iff.mpr has).symm.trans plain
    | _ => exact trivial

/-- In every section the dispatcher and the pool make a loyal move that lets no task fail, or
rest. -/
theorem loyal_of_section (made : Section system move result) :
    result.1.host = system.host ∨ ∃ own events, Hosted.System.Loyal own ∧
      system.host.TaskReturns own ∧ system.host.step own = some (result.1.host, events) := by
  cases made with
  | began | exhausted | claimed | signalled | chained | seeded | sawAll | joined | watched
  | gaveUp => exact .inl rfl
  | counted runner answer => cases answer <;> exact .inl rfl
  | offered runner found held =>
    exact .inr ⟨.dispatcher (.invoke (.offer true)), _, trivial, trivial, step_invoke held _⟩
  | starting main held =>
    exact .inr ⟨.dispatcher (.invoke .start), _, trivial, trivial, step_invoke held _⟩
  | stopping main held =>
    exact .inr ⟨.dispatcher (.invoke .stop), _, trivial, trivial, step_invoke held _⟩
  | closing main held => exact .inr ⟨.pool (.invoke .close), _, trivial, trivial, step_close held⟩
  | hosted own host events plain stepped =>
    refine .inr ⟨own, events, plain.loyal, plain.returns, ?_⟩
    rw [noting_host]
    exact stepped
  | finished own task host events ends ended stepped =>
    rw [removeTurn, noting_host]
    refine .inr ⟨own, events, ?_, ?_, stepped⟩
    · cases ends <;> exact trivial
    · cases ends with
      | worker => exact trivial
      | thread => exact fun _ _ => rfl

/-- Whoever has a turn has one when some turn goes on. -/
theorem isSome_progressIn_setIn {turns : List Turn} {progress later : Progress}
    (found : progressIn turns runner = some progress) (other : Runner) :
    (progressIn (setIn turns runner later) other).isSome = (progressIn turns other).isSome := by
  rw [progressIn_setIn found]
  split
  · rename_i same
    rw [same, found]
    rfl
  · rfl

/-- What a turn has done with its chain depends on the calls that the pool has taken. -/
theorem hasParted_congr {host later : Hosted.System} {progress : Progress}
    (same : ∀ call, progress = .calling call → later.isTaken call = host.isTaken call) :
    progress.hasParted later = progress.hasParted host := by
  cases progress with
  | calling call => simp [Progress.hasParted, Progress.holds, same call rfl]
  | answered answer => cases answer <;> rfl
  | _ => rfl

/-- The turns that wait for other calls have done with their chains what they had. -/
theorem hasParted_of_others (linked : system.Linked) {later : Hosted.System} {call : Nat}
    (found : system.progress? runner = some (.calling call))
    (others : ∀ other, other ≠ call → later.isTaken other = system.host.isTaken other)
    {other : Runner} {held : Progress} (apart : other ≠ runner)
    (stands : system.progress? other = some held) :
    held.hasParted later = held.hasParted system.host := by
  refine hasParted_congr fun own waits => others own ?_
  rintro rfl
  exact apart (linked.alone other runner own (waits ▸ stands) found)

/-- The dispatcher and the pool give each answer once, whoever is asked. -/
theorem replies_eq (events : List Hosted.Event) :
    (hosted events).filterMap Dispatcher.Event.reply? = events.filterMap Hosted.Event.reply? := by
  rw [hosted, dispatched, List.filterMap_map, List.filterMap_filterMap]
  refine congrArg (List.filterMap · events) (funext fun event => ?_)
  cases event <;> rfl

/-- The turn of the main thread is looked up like that of any runner. -/
theorem mainTurns_eq (system : System) :
    system.mainTurns = (progressIn system.turns .main).isSome.toNat := rfl

/-- The turn that the main thread begins is one more. -/
theorem mainTurns_cons (idle : system.progress? runner = none) :
    (progressIn (⟨runner, .claiming⟩ :: system.turns) .main).isSome.toNat =
      system.mainTurns + seeds [.begin runner] := by
  rw [progressIn_cons, mainTurns_eq]
  cases runner with
  | task task => rfl
  | main =>
    rw [show progressIn system.turns .main = none from idle]
    rfl

/-- The turn that the main thread is done with is one less. -/
theorem mainTurns_dropIn {progress : Progress} (found : system.progress? .main = some progress) :
    (progressIn (dropIn system.turns .main) .main).isSome.toNat + 1 = system.mainTurns := by
  rw [progressIn_dropIn, if_pos rfl, mainTurns, found]
  rfl

/-- The pool has not taken what a call has just begun to offer. -/
theorem isTaken_invoked (request : Dispatcher.Request) (call : Nat) :
    (system.invoked request).host.isTaken call = system.host.isTaken call := by
  unfold Hosted.System.isTaken
  by_cases latest : call = system.host.dispatcher.calls.next
  · subst latest
    simp [invoked, Register.get?_add, Register.get?_of_le]
  · simp [invoked, Register.get?_add, latest]

namespace Chained

/-- No chain was begun at the beginning. -/
theorem fresh (capacity threads queueCapacity loops chains : Nat)
    (idleTimeout : Option Duration.Millis) : Chained 0 0
      (.fresh (.fresh (.fresh capacity idleTimeout) (.fresh threads queueCapacity))
        loops chains) where
  conserved := by
    simp [System.fresh, Hosted.System.fresh, Hosted.System.places, Pool.System.stock_fresh,
      Dispatcher.System.borne, Dispatcher.System.fresh, Counting.total, mainTurns, progress?,
      parted, countIn]
  seeded := Nat.zero_add _
  spent := nofun

/-- A turn goes on by itself, and may end its chain in doing so. -/
theorem of_turn (chained : Chained seeded exhausted system) (linked : system.Linked) {own : Nat}
    {progress later : Progress} (found : system.progress? runner = some progress)
    (turns : next.turns = setIn system.turns runner later)
    (taken : ∀ call, next.host.isTaken call = system.host.isTaken call)
    (places : next.host.places (fun _ => true) = system.host.places fun _ => true)
    (main : next.main = system.main) (chains : next.chains = system.chains)
    (books : next.failed + own + (progress.hasParted system.host).toNat =
      system.failed + (later.hasParted next.host).toNat)
    (spent : 0 < exhausted + own → next.remaining = 0) : Chained seeded (exhausted + own) next := by
  have same : next.mainTurns = system.mainTurns :=
    congrArg Bool.toNat ((congrArg (fun turns => (progressIn turns .main).isSome) turns).trans
      (isSome_progressIn_setIn found .main))
  have counted : next.parted + (progress.hasParted system.host).toNat =
      system.parted + (later.hasParted next.host).toNat := by
    rw [parted, turns]
    exact countIn_setIn_of_agree linked.distinct found later fun _ held _ _ =>
      hasParted_congr fun call _ => taken call
  refine ⟨?_, ?_, spent⟩
  · have conserved := chained.conserved
    rw [places, same]
    omega
  · rw [main, chains, same]
    exact chained.seeded

/-- The main thread goes on and has as many chains to begin as before. -/
theorem of_main (chained : Chained seeded exhausted system) (turns : next.turns = system.turns)
    (taken : ∀ call, next.host.isTaken call = system.host.isTaken call)
    (places : next.host.places (fun _ => true) = system.host.places fun _ => true)
    (main : next.main.unseeded next.chains = system.main.unseeded system.chains)
    (chains : next.chains = system.chains) (failed : next.failed = system.failed)
    (remaining : next.remaining = system.remaining) : Chained seeded exhausted next := by
  have same : next.mainTurns = system.mainTurns :=
    congrArg (fun turns => (progressIn turns .main).isSome.toNat) turns
  have counted : next.parted = system.parted := by
    rw [parted, turns]
    exact congrArg (countIn · _) (funext fun held => hasParted_congr fun call _ => taken call)
  exact ⟨by rw [places, same, failed, counted, chained.conserved],
    by rw [main, chains, same, chained.seeded], fun some => remaining.trans (chained.spent some)⟩

/-- The chain that the main thread begins with a turn is a further one; a task has its chain
already. -/
theorem of_begun (chained : Chained seeded exhausted system)
    (idle : system.progress? runner = none) :
    Chained (seeded + seeds [.begin runner]) exhausted
      { system with turns := ⟨runner, .claiming⟩ :: system.turns } := by
  have counted : countIn (Progress.hasParted system.host) (⟨runner, .claiming⟩ :: system.turns) =
      system.parted := countIn_cons ..
  have turns := mainTurns_cons idle
  have conserved := chained.conserved
  have begun := chained.seeded
  refine ⟨?_, ?_, chained.spent⟩
  · rw [mainTurns_eq, parted]
    dsimp only
    omega
  · rw [mainTurns_eq]
    dsimp only
    omega

/-- A chain that the main thread has begun is with others. -/
theorem of_dropped (chained : Chained seeded exhausted system) (linked : system.Linked)
    (found : system.progress? .main = some .spent) {chains : Nat}
    (seeding : system.main = .seeding (chains + 1)) :
    Chained seeded exhausted ({ system with main := .seeding chains }.removeTurn .main) := by
  have counted : countIn (Progress.hasParted system.host) (dropIn system.turns .main) + 1 =
      system.parted := countIn_dropIn linked.distinct _ found
  have turns := mainTurns_dropIn found
  have conserved := chained.conserved
  have begun : seeded + (chains + 1) = system.chains + system.mainTurns := by
    simpa [seeding, Main.unseeded] using chained.seeded
  refine ⟨?_, ?_, chained.spent⟩
  · change system.host.places (fun _ => true) +
      (progressIn (dropIn system.turns .main) .main).isSome.toNat + system.failed + exhausted =
        seeded + countIn (Progress.hasParted system.host) (dropIn system.turns .main)
    omega
  · change seeded + chains =
      system.chains + (progressIn (dropIn system.turns .main) .main).isSome.toNat
    omega

/-- The turn of a call hands its chain over, or hears what has become of it. -/
theorem of_call (chained : Chained seeded exhausted system) (linked : system.Linked) {call : Nat}
    {later : Progress} (found : system.progress? runner = some (.calling call))
    (turns : next.turns = setIn system.turns runner later)
    (others : ∀ other, other ≠ call → next.host.isTaken other = system.host.isTaken other)
    (places : next.host.places (fun _ => true) + (system.host.isTaken call).toNat =
      system.host.places (fun _ => true) + (later.hasParted next.host).toNat)
    (main : next.main.unseeded next.chains = system.main.unseeded system.chains)
    (chains : next.chains = system.chains) (failed : next.failed = system.failed)
    (remaining : next.remaining = system.remaining) : Chained seeded exhausted next := by
  have same : next.mainTurns = system.mainTurns :=
    congrArg Bool.toNat ((congrArg (fun turns => (progressIn turns .main).isSome) turns).trans
      (isSome_progressIn_setIn found .main))
  have counted : next.parted + (system.host.isTaken call).toNat =
      system.parted + (later.hasParted next.host).toNat := by
    have waits : Progress.hasParted system.host (.calling call) = system.host.isTaken call :=
      Bool.not_not _
    rw [parted, turns, ← waits]
    exact countIn_setIn_of_agree linked.distinct found later fun other held =>
      hasParted_of_others linked found others
  refine ⟨?_, by rw [main, chains, same, chained.seeded], fun some =>
    remaining.trans (chained.spent some)⟩
  have conserved := chained.conserved
  rw [same, failed]
  omega

/-- The pool does not let the main thread begin chains. -/
theorem unseeded_of_turned {chains : Nat} {main : Main}
    (turned : main = system.main ∨ (∃ call, system.main = .callingClose call) ∧ main = .joining) :
    main.unseeded chains = system.main.unseeded chains := by
  rcases turned with rfl | ⟨⟨call, closes⟩, rfl⟩
  · rfl
  · rw [closes]
    rfl

/-- Whoever offers a task to the dispatcher is a turn. -/
theorem exists_calling (linked : system.Linked) {call : Nat} {stage : Dispatcher.Call}
    (found : system.host.dispatcher.calls.get? call = some stage)
    (offers : stage.Serves (.offer true)) :
    ∃ runner, system.progress? runner = some (.calling call) := by
  rcases linked.callers call stage found with ⟨request, waits⟩ | turn
  · obtain ⟨_, stands, serves⟩ := linked.main call request waits
    obtain rfl := Option.some.inj (stands.symm.trans found)
    obtain rfl := serves.unique offers
    cases main : system.main <;> simp [main, Main.call?] at waits
  · exact turn

/-- Chains are conserved when the dispatcher or the pool moves and no task ends. -/
theorem of_heard (chained : Chained seeded exhausted system) (linked : system.Linked)
    {own : Hosted.Move} {host : Hosted.System} {replies : List (Nat × Answer)}
    (conveys : Hosted.Conveys system.host host own replies)
    (heard : Heard system host replies next)
    (goesOn : ∀ task, ¬ system.host.Releases task own) : Chained seeded exhausted next := by
  have untaken {call : Nat} (gone : host.dispatcher.calls.get? call = none) :
      host.isTaken call = false := by
    simp [Hosted.System.isTaken, gone]
  cases heard with
  | nothing main calls turned =>
    have unseeded : main.unseeded system.chains = system.main.unseeded system.chains :=
      unseeded_of_turned turned
    cases conveys with
    | quiet _ places taken => exact chained.of_main rfl taken (places _) unseeded rfl rfl rfl
    | taken call found _ untaken taken places others =>
      -- The turn of the call has handed its chain over, and does not know yet.
      obtain ⟨runner, calls⟩ := exists_calling linked found rfl
      refine chained.of_call linked calls (setIn_self linked.distinct calls).symm others ?_ unseeded
        rfl rfl rfl
      simp [Progress.hasParted, Progress.holds, untaken, taken, places]
    | ended task releases => exact absurd releases (goesOn task)
  | turn runner call answer found gone _ suits =>
    cases conveys with
    | answered _ stage _ _ _ apart passed places others =>
      refine chained.of_call linked found rfl others ?_ rfl rfl rfl rfl
      rw [places]
      cases answer with
      | fallback => rw [passed.mp rfl]; rfl
      | refused refusal =>
        have unheard : system.host.isTaken call = false :=
          Bool.eq_false_iff.mpr fun taken => by simpa using passed.mpr taken
        rw [unheard]
        rfl
      | accepted => exact absurd rfl apart
      | done | illegal | declined => cases suits
    | accepted _ stage _ untaken _ places others =>
      refine chained.of_call linked found rfl others ?_ rfl rfl rfl rfl
      rw [places, untaken]
      rfl
  | main call stage request answer main waits turned found gone _ suits =>
    have unseeded : main.unseeded system.chains = system.main.unseeded system.chains := by
      rcases turned with ⟨rfl, rfl⟩ | ⟨rfl, rfl⟩ <;>
        cases before : system.main <;> simp_all [Main.call?, Main.unseeded]
    -- The main thread starts and stops the dispatcher, and offers nothing.
    have unsuited : answer ≠ .fallback ∧ answer ≠ .accepted := by
      rcases turned with ⟨rfl, -⟩ | ⟨rfl, -⟩ <;> constructor <;> rintro rfl <;> cases suits
    cases conveys with
    | answered _ _ _ _ _ _ passed places others =>
      refine chained.of_main rfl (fun other => ?_) (places _) unseeded rfl rfl rfl
      by_cases same : other = call
      · subst same
        exact (untaken gone).trans
          (Bool.eq_false_iff.mpr fun taken => unsuited.1 (passed.mpr taken)).symm
      · exact others other same
    | accepted => exact absurd rfl unsuited.2

/-- When a task ends, its chain has been handed over or has ended before. -/
theorem of_ended (chained : Chained seeded exhausted system) (linked : system.Linked)
    (order : Hosted.System.InOrder capacity moves system.host told) (filed : system.host.Filed)
    (held : system.host.pool.held = true) {own : Hosted.Move} {task : Task} {host : Hosted.System}
    {events : List Hosted.Event} (ends : system.Ends own task)
    (ended : system.isOver task = true) (made : system.host.step own = some (host, events)) :
    Chained seeded exhausted ((system.noting host events).removeTurn (.task task)) := by
  have heard := heard_of_step linked order made ends.begins_nothing
  have silent := replies_of_ends ends order made
  have conveys := Hosted.System.conveys_of_recorded filed order.dispatcher
    (Hosted.System.recorded_of_step held made)
  dsimp only at conveys
  rw [← replies_eq, silent] at conveys
  rw [silent] at heard
  have releases : system.host.Releases task own := by
    cases ends with
    | worker worker _ executes => exact .worker worker _ (taskOf_eq_some_iff.mp executes)
    | thread thread _ runs => exact .thread thread _ (pooledTask_eq_some_iff.mp runs)
  have spent : system.progress? (.task task) = some .spent := by simpa [isOver] using ended
  generalize system.noting host events = noted at heard ⊢
  cases heard with
  | nothing main calls turned =>
    cases conveys with
    | quiet goesOn | taken _ _ goesOn => exact absurd releases (goesOn task)
    | ended other _ places taken =>
      have unseeded : main.unseeded system.chains = system.main.unseeded system.chains :=
        unseeded_of_turned turned
      have dropped : progressIn (dropIn system.turns (.task task)) .main =
          progressIn system.turns .main := by
        rw [progressIn_dropIn, if_neg (by simp)]
      have counted : countIn (Progress.hasParted host) (dropIn system.turns (.task task)) + 1 =
          system.parted := by
        have same : Progress.hasParted host = Progress.hasParted system.host :=
          funext fun held => hasParted_congr fun call _ => taken call
        rw [same]
        exact countIn_dropIn linked.distinct _ spent
      have fewer : host.places (fun _ => true) + 1 = system.host.places fun _ => true := places _
      have conserved := chained.conserved
      refine ⟨?_, ?_, chained.spent⟩
      · change host.places (fun _ => true) +
          (progressIn (dropIn system.turns (.task task)) .main).isSome.toNat + system.failed +
            exhausted = seeded + countIn (Progress.hasParted host)
              (dropIn system.turns (.task task))
        rw [dropped]
        change _ + system.mainTurns + _ + _ = _
        omega
      · change seeded + main.unseeded system.chains = system.chains +
          (progressIn (dropIn system.turns (.task task)) .main).isSome.toNat
        rw [dropped, unseeded]
        exact chained.seeded

/-- A section begins a chain when the main thread begins a turn, and ends one when a turn finds the
budget empty. -/
theorem of_section (chained : Chained seeded exhausted system) (linked : system.Linked)
    (order : Hosted.System.InOrder capacity moves system.host told)
    (tracked : system.host.Tracked) (made : Section system move result) :
    Chained (seeded + seeds [move]) (exhausted + result.2.countP Event.isExhausted) result.1 := by
  have quiet (events : List Hosted.Event) :
      (events.map Event.host).countP Event.isExhausted = 0 := by
    simp [List.countP_eq_zero, Event.isExhausted]
  cases made with
  | began runner idle due => exact chained.of_begun idle
  | exhausted runner found empty =>
    exact chained.of_turn linked found rfl (fun _ => rfl) rfl rfl rfl rfl fun _ => empty
  | claimed runner found left =>
    exact chained.of_turn linked found rfl (fun _ => rfl) rfl rfl rfl rfl fun some =>
      absurd (chained.spent some) left
  | offered runner found held =>
    refine chained.of_turn linked found rfl (isTaken_invoked (.offer true)) rfl rfl rfl ?_
      chained.spent
    have untaken : (system.invoked (.offer true)).host.isTaken system.host.dispatcher.calls.next =
        false := by
      rw [isTaken_invoked, Hosted.System.isTaken, Register.get?_of_le _ (Nat.le_refl _)]
      rfl
    change _ = _ + (!!(system.invoked (.offer true)).host.isTaken _).toNat
    rw [untaken]
    rfl
  | counted runner answer found =>
    cases answer with
    | accepted | fallback | refused =>
      exact chained.of_turn linked found rfl (fun _ => rfl) rfl rfl rfl rfl chained.spent
    | done | illegal | declined => cases linked.answered runner _ found
  | signalled runner found =>
    exact chained.of_turn linked found rfl (fun _ => rfl) rfl rfl rfl rfl chained.spent
  | chained chains found seeding => exact chained.of_dropped linked found seeding
  | hosted own host events plain stepped =>
    have conveys := Hosted.System.conveys_of_recorded tracked.filed order.dispatcher
      (Hosted.System.recorded_of_step tracked.poolHeld stepped)
    dsimp only at conveys
    rw [← replies_eq] at conveys
    rw [quiet]
    exact chained.of_heard linked conveys (heard_of_step linked order stepped plain.begins_nothing)
      fun task => plain.not_releases
  | finished own task host events ends ended stepped =>
    rw [quiet]
    exact chained.of_ended linked order tracked.filed tracked.poolHeld ends ended stepped
  | starting main held | stopping main held =>
    exact chained.of_main rfl (isTaken_invoked _) rfl (by rw [main]; rfl) rfl rfl rfl
  | seeded main | sawAll main | gaveUp main | closing main | joined main =>
    exact chained.of_main rfl (fun _ => rfl) rfl (by rw [main]; rfl) rfl rfl rfl
  | watched => exact chained.of_main rfl (fun _ => rfl) rfl rfl rfl rfl rfl

end Chained

/-- A runner takes turns as long as its task is executed, or as the main thread has a turn. -/
theorem mem_runners_iff : runner ∈ system.runners ↔
    (∃ task, runner = .task task ∧ system.host.Executes task) ∨
      runner = .main ∧ (system.progress? .main).isSome := by
  unfold runners
  rw [List.mem_append, List.mem_map]
  refine or_congr ⟨?_, ?_⟩ ?_
  · rintro ⟨task, executing, rfl⟩
    exact ⟨task, rfl, Hosted.System.mem_executing_iff.mp executing⟩
  · rintro ⟨task, rfl, executes⟩
    exact ⟨task, Hosted.System.mem_executing_iff.mpr executes, rfl⟩
  · split <;> simp [*]

/-- Whoever has a turn is among the runners. -/
theorem mem_runners_of_found (seated : system.Seated) {progress : Progress}
    (found : system.progress? runner = some progress) : runner ∈ system.runners := by
  refine mem_runners_iff.mpr ?_
  cases runner with
  | task task => exact .inl ⟨task, rfl, isRunning_iff.mp (seated.turns _ _ found)⟩
  | main => exact .inr ⟨rfl, by rw [found]; rfl⟩

/-- No runner is listed twice. -/
theorem nodup_runners (housed : system.host.Housed) : system.runners.Nodup := by
  refine List.Nodup.append ?_ ?_ ?_
  · exact (List.nodup_append.mp housed.nodup).2.1.map fun _ _ => Runner.task.inj
  · split <;> simp
  · intro runner first second
    obtain ⟨task, -, rfl⟩ := List.mem_map.mp first
    split at second <;> simp at second

/-- No step is listed twice. -/
theorem nodup_live (housed : system.host.Housed) : system.live.Nodup := by
  obtain ⟨waiting, -, apart⟩ := List.nodup_append.mp housed.nodup
  refine (waiting.map fun _ _ => Runner.task.inj).append ((nodup_runners housed).filter _) ?_
  intro runner first second
  obtain ⟨task, waits, rfl⟩ := List.mem_map.mp first
  rcases mem_runners_iff.mp (List.mem_filter.mp second).1 with ⟨other, same, executes⟩ | ⟨same, -⟩
  · obtain rfl := Runner.task.inj same
    exact apart task waits task (Hosted.System.mem_executing_iff.mpr executes) rfl
  · cases same

/-- The turns that have their chains no more are those of the runners that have none. -/
theorem parted_eq (linked : system.Linked) (seated : system.Seated) (housed : system.host.Housed) :
    system.parted = system.runners.countP fun runner => !system.isAlive runner := by
  have same : ((system.turns.filter fun turn => turn.progress.hasParted system.host).map
      Turn.runner).Perm (system.runners.filter fun runner => !system.isAlive runner) := by
    refine (List.perm_ext_iff_of_nodup ?_ ((nodup_runners housed).filter _)).mpr fun runner => ?_
    · exact linked.distinct.sublist (List.filter_sublist.map _)
    · rw [List.mem_map, List.mem_filter]
      constructor
      · rintro ⟨turn, member, rfl⟩
        obtain ⟨held, hasParted⟩ := List.mem_filter.mp member
        have found : system.progress? turn.runner = some turn.progress :=
          progressIn_of_mem linked.distinct held
        exact ⟨mem_runners_of_found seated found, by
          simpa [isAlive, found, Progress.hasParted] using hasParted⟩
      · rintro ⟨-, dead⟩
        cases found : system.progress? runner with
        | none => simp [isAlive, found] at dead
        | some progress =>
          obtain ⟨turn, held, rfl⟩ := Option.map_eq_some_iff.mp found
          have own : turn.runner = runner := by simpa using List.find?_some held
          refine ⟨turn, List.mem_filter.mpr ⟨List.mem_of_find?_eq_some held, ?_⟩, own⟩
          simpa [isAlive, found, Progress.hasParted] using dead
  rw [parted, countIn, List.countP_eq_length_filter, List.countP_eq_length_filter,
    ← same.length_eq, List.length_map]

/-- The chains that were begun are with the live steps, or have ended with a failed dispatch or an
empty budget. -/
theorem length_live (chained : Chained seeded exhausted system) (linked : system.Linked)
    (seated : system.Seated) (housed : system.host.Housed) (sound : system.host.Sound) :
    system.live.length + system.failed + exhausted = seeded := by
  have conserved := chained.conserved
  have kept : system.host.abandoned.countP (fun _ => true) = 0 := by
    rw [Hosted.System.abandoned, sound.kept]
    rfl
  rw [parted_eq linked seated housed, Hosted.System.places_eq, kept] at conserved
  have listed : system.runners.length = system.host.executing.length + system.mainTurns := by
    rw [runners, List.length_append, List.length_map, mainTurns]
    cases (system.progress? .main).isSome <;> rfl
  have split := List.length_eq_countP_add_countP (system.isAlive) (l := system.runners)
  rw [live, List.length_append, List.length_map, ← List.countP_eq_length_filter]
  simp only [List.countP_true] at conserved
  simp only [Bool.not_eq_true, Bool.decide_eq_false] at split
  omega

end System

end Standby.LoadRun
