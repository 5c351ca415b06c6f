import Standby.LoadRun.System
import Standby.Proofs.Hosted.Section

/-!
# Sections of a load run

What one move of a load run can be. A turn begins, goes on or is spent; the dispatcher and
the pool move, and the answers that they give are noted; the main thread goes on. The moves
of a turn that touch the books of the run are its deeds, and a run is also the list of the
deeds that are done in it.
-/

namespace Standby.LoadRun

open Dispatcher (WorkerId Task)

/-- What a turn does for the books. -/
inductive Deed where
  /-- It takes one dispatch from the budget. -/
  | claimed
  /-- It offers the next turn to the dispatcher by a call. -/
  | offered (call : Nat)
  /-- It counts which way the next turn went. -/
  | counted (answer : Dispatcher.Answer)
  | signalled
deriving DecidableEq

namespace System

/-- The deed of a turn that goes on. -/
def deedOf? (system : System) : Progress → Option Deed
  | .claiming => if system.remaining = 0 then none else some .claimed
  | .offering => some (.offered system.host.dispatcher.calls.next)
  | .answered answer => some (.counted answer)
  | .signalling => some .signalled
  | .calling _ | .spent => none

/-- The deed that a move is, and whose. -/
def deed? (system : System) : Move → Option (Runner × Deed)
  | .advance runner =>
    (system.progress? runner).bind fun progress => (system.deedOf? progress).map (runner, ·)
  | _ => none

/-- The deeds that are done in a run. -/
def deeds (system : System) : List Move → List (Runner × Deed)
  | [] => []
  | move :: moves =>
    (system.deed? move).toList ++
      match system.step move with
      | some (next, _) => next.deeds moves
      | none => []

/-- A call of the dispatcher has begun. -/
def invoked (system : System) (request : Dispatcher.Request) : System :=
  let dispatcher := system.host.dispatcher
  { system with
    host := { system.host with
      dispatcher := { dispatcher with calls := dispatcher.calls.add (.entering request) } } }

/-- A call to close the pool has begun. -/
def closeInvoked (system : System) : System :=
  let pool := system.host.pool
  { system with
    host := { system.host with pool := { pool with calls := pool.calls.add (.entering .close) } } }

/-- A turn of this runner may begin. -/
def Due (system : System) : Runner → Prop
  | .task task => system.isRunning task = true
  | .main => ∃ chains, system.main = .seeding (chains + 1)

/-- The move ends a task that runs. -/
inductive Ends (system : System) : Hosted.Move → Task → Prop where
  | worker (worker : WorkerId) (task : Task) (executes : system.taskOf? worker = some task) :
    Ends system (.dispatcher (.finish worker .returned)) task
  | thread (thread : Nat) (task : Task) (runs : system.pooledTask? thread = some task) :
    Ends system (.pool (.finish thread .returned)) task

/-- The move neither calls nor lets go, and ends no task. -/
def Plain (system : System) : Hosted.Move → Prop
  | .dispatcher (.invoke _) | .dispatcher .letGo | .pool (.invoke _) | .pool .letGo => False
  | .dispatcher (.finish worker _) => system.taskOf? worker = none
  | .pool (.finish thread _) => system.pooledTask? thread = none
  | _ => True

/-- The load run after a move of the dispatcher or the pool, with all answers noted. -/
def noting (system : System) (host : Hosted.System) (events : List Hosted.Event) : System :=
  events.foldl note { system with host := host }

end System

/-- One section: the move that makes it, what it leaves behind and what happens. -/
inductive Section (system : System) : Move → System × List Event → Prop where
  /-- A turn begins. -/
  | began (runner : Runner) (idle : system.progress? runner = none) (due : system.Due runner) :
    Section system (.begin runner)
      ({ system with turns := ⟨runner, .claiming⟩ :: system.turns }, [])
  /-- A turn finds the budget empty. -/
  | exhausted (runner : Runner) (found : system.progress? runner = some .claiming)
      (empty : system.remaining = 0) :
    Section system (.advance runner) (system.setProgress runner .spent, [.exhausted runner])
  /-- A turn takes from the budget. -/
  | claimed (runner : Runner) (found : system.progress? runner = some .claiming)
      (left : system.remaining ≠ 0) :
    Section system (.advance runner)
      ({ system with remaining := system.remaining - 1 }.setProgress runner .offering, [])
  /-- A turn offers the next one to the dispatcher. -/
  | offered (runner : Runner) (found : system.progress? runner = some .offering)
      (held : system.host.dispatcher.held = true) :
    Section system (.advance runner)
      ((system.invoked (.offer true)).setProgress runner
          (.calling system.host.dispatcher.calls.next),
        [.host (.dispatcher (.invoked system.host.dispatcher.calls.next (.offer true)))])
  /-- A turn counts which way the next one went. -/
  | counted (runner : Runner) (answer : Dispatcher.Answer)
      (found : system.progress? runner = some (.answered answer)) :
    Section system (.advance runner)
      ((system.tally answer).1.setProgress runner .signalling, (system.tally answer).2)
  /-- A turn sends its signal. -/
  | signalled (runner : Runner) (found : system.progress? runner = some .signalling) :
    Section system (.advance runner)
      ({ system with unseen := system.unseen + 1 }.setProgress runner .spent, [])
  /-- The main thread has begun a chain. -/
  | chained (chains : Nat) (found : system.progress? .main = some .spent)
      (seeding : system.main = .seeding (chains + 1)) :
    Section system (.advance .main)
      ({ system with main := .seeding chains }.removeTurn .main, [])
  /-- The dispatcher or the pool moves. -/
  | hosted (move : Hosted.Move) (host : Hosted.System) (events : List Hosted.Event)
      (plain : system.Plain move) (made : system.host.step move = some (host, events)) :
    Section system (.host move) (system.noting host events, events.map .host)
  /-- The dispatcher or the pool moves, and with it the task of a spent turn ends. -/
  | finished (move : Hosted.Move) (task : Task) (host : Hosted.System)
      (events : List Hosted.Event) (ends : system.Ends move task)
      (ended : system.isOver task = true) (made : system.host.step move = some (host, events)) :
    Section system (.host move)
      ((system.noting host events).removeTurn (.task task), events.map .host)
  /-- The main thread calls to start the dispatcher. -/
  | starting (main : system.main = .starting) (held : system.host.dispatcher.held = true) :
    Section system .proceed
      ({ system.invoked .start with main := .callingStart system.host.dispatcher.calls.next },
        [.host (.dispatcher (.invoked system.host.dispatcher.calls.next .start))])
  /-- The main thread has begun all chains. -/
  | seeded (main : system.main = .seeding 0) :
    Section system .proceed ({ system with main := .watching }, [])
  /-- The main thread has seen all signals that there can be. -/
  | sawAll (main : system.main = .watching) (all : system.loops ≤ system.seen) :
    Section system .proceed ({ system with main := .stopping }, [])
  /-- The main thread calls to stop the dispatcher. -/
  | stopping (main : system.main = .stopping) (held : system.host.dispatcher.held = true) :
    Section system .proceed
      ({ system.invoked .stop with main := .callingStop system.host.dispatcher.calls.next },
        [.host (.dispatcher (.invoked system.host.dispatcher.calls.next .stop))])
  /-- The main thread calls to close the pool. -/
  | closing (main : system.main = .closing) (held : system.host.pool.held = true) :
    Section system .proceed
      ({ system.closeInvoked with main := .callingClose system.host.pool.calls.next },
        [.host (.pool (.invoked system.host.pool.calls.next))])
  /-- All threads have stopped, and the main thread sees the signals that are left. -/
  | joined (main : system.main = .joining) (deserted : system.isDeserted = true) :
    Section system .proceed
      ({ system with seen := system.seen + system.unseen, unseen := 0, main := .finished }, [])
  /-- The main thread sees a signal. -/
  | watched (main : system.main = .watching) (more : system.seen < system.loops)
      (sent : 0 < system.unseen) :
    Section system .watch
      ({ system with seen := system.seen + 1, unseen := system.unseen - 1 }, [])
  /-- The main thread gives up. -/
  | gaveUp (main : system.main = .watching) (more : system.seen < system.loops) :
    Section system .giveUp
      ({ system with main := .stopping }, [.timedOut system.seen system.loops])

namespace System

variable {system : System}

/-- A call of the dispatcher begins as long as somebody holds it. -/
theorem moveHost_invoke (system : System) (request : Dispatcher.Request) :
    system.moveHost (.dispatcher (.invoke request)) =
      if system.host.dispatcher.held then
        some (system.invoked request,
          [.host (.dispatcher (.invoked system.host.dispatcher.calls.next request))])
      else none := by
  cases held : system.host.dispatcher.held <;>
    simp [moveHost, Hosted.System.step, Hosted.System.moveDispatcher, Hosted.System.poolAgrees,
      Dispatcher.System.step, held, Hosted.System.callOf?, invoked, note]

/-- A call to close the pool begins as long as somebody holds it. -/
theorem moveHost_close (system : System) :
    system.moveHost (.pool (.invoke .close)) =
      if system.host.pool.held then
        some (system.closeInvoked, [.host (.pool (.invoked system.host.pool.calls.next))])
      else none := by
  cases held : system.host.pool.held <;>
    simp [moveHost, Hosted.System.step, Hosted.System.movePool, Hosted.System.dispatcherAgrees,
      Pool.System.step, held, Hosted.System.noteAnswer, closeInvoked, note]

/-- The program of a turn makes one of the sections. -/
theorem section_of_advance (runner : Runner) (progress : Progress)
    (found : system.progress? runner = some progress) {result : System × List Event}
    (made : system.advance runner progress = some result) :
    Section system (.advance runner) result := by
  cases progress with
  | claiming =>
    simp only [advance] at made
    split at made
    · rename_i empty
      obtain rfl := Option.some.inj made
      exact .exhausted runner found empty
    · rename_i left
      obtain rfl := Option.some.inj made
      exact .claimed runner found left
  | offering =>
    simp only [advance, call, moveHost_invoke] at made
    split at made
    · rename_i held
      obtain rfl := Option.some.inj made
      exact .offered runner found held
    · cases made
  | calling call => cases made
  | answered answer =>
    obtain rfl := Option.some.inj made
    exact .counted runner answer found
  | signalling =>
    obtain rfl := Option.some.inj made
    exact .signalled runner found
  | spent =>
    simp only [advance] at made
    split at made
    · rename_i chains seeding
      obtain rfl := Option.some.inj made
      exact .chained chains found seeding
    · cases made

/-- A move that ends a task ends one that is over. -/
theorem section_of_endTask {move : Hosted.Move} {outcome : Outcome} {task : Option Task}
    (ends : ∀ own, task = some own → outcome = .returned → system.Ends move own)
    (plain : task = none → system.Plain move) {result : System × List Event}
    (made : system.endTask move outcome task = some result) :
    Section system (.host move) result := by
  cases task with
  | none =>
    obtain ⟨⟨host, events⟩, stepped, rfl⟩ := Option.map_eq_some_iff.mp made
    exact .hosted move host events (plain rfl) stepped
  | some task =>
    simp only [endTask] at made
    split at made
    · rename_i agreed
      obtain ⟨ended, returned⟩ := Bool.and_eq_true_iff.mp agreed
      obtain ⟨_, moved, rfl⟩ := Option.map_eq_some_iff.mp made
      obtain ⟨⟨host, events⟩, stepped, rfl⟩ := Option.map_eq_some_iff.mp moved
      exact .finished move task host events (ends task rfl (eq_of_beq returned)) ended stepped
    · cases made

/-- What the dispatcher or the pool may do is one of the sections. -/
theorem section_of_allow {move : Hosted.Move} {result : System × List Event}
    (made : system.allow move = some result) : Section system (.host move) result := by
  have hosted (plain : system.Plain move) (moved : system.moveHost move = some result) :
      Section system (.host move) result := by
    obtain ⟨⟨host, events⟩, stepped, rfl⟩ := Option.map_eq_some_iff.mp moved
    exact .hosted move host events plain stepped
  cases move with
  | dispatcher move =>
    cases move with
    | invoke request | letGo => cases made
    | finish worker outcome =>
      exact section_of_endTask (fun own executes returned => returned ▸ .worker worker own executes)
        id made
    | proceed | answer | breakOff | launch | discard | work | expire | breakDown =>
      exact hosted trivial made
  | pool move =>
    cases move with
    | invoke request | letGo => cases made
    | finish thread outcome =>
      exact section_of_endTask (fun own runs returned => returned ▸ .thread thread own runs)
        id made
    | proceed | work => exact hosted trivial made

/-- The program of the main thread makes one of the sections. -/
theorem section_of_proceed {result : System × List Event}
    (made : system.proceed system.main = some result) : Section system .proceed result := by
  cases main : system.main with
  | starting =>
    simp only [main, proceed, call, moveHost_invoke] at made
    split at made
    · rename_i held
      obtain rfl := Option.some.inj made
      exact .starting main held
    · cases made
  | seeding chains =>
    cases chains with
    | zero =>
      obtain rfl := by simpa [main, proceed] using made
      exact .seeded main
    | succ chains => simp [main, proceed] at made
  | watching =>
    simp only [main, proceed] at made
    split at made
    · rename_i all
      obtain rfl := Option.some.inj made
      exact .sawAll main all
    · cases made
  | stopping =>
    simp only [main, proceed, call, moveHost_invoke] at made
    split at made
    · rename_i held
      obtain rfl := Option.some.inj made
      exact .stopping main held
    · cases made
  | closing =>
    simp only [main, proceed, moveHost_close] at made
    split at made
    · rename_i held
      obtain rfl := Option.some.inj made
      exact .closing main held
    · cases made
  | joining =>
    simp only [main, proceed] at made
    split at made
    · rename_i deserted
      obtain rfl := Option.some.inj made
      exact .joined main deserted
    · cases made
  | callingStart | callingStop | callingClose | finished => simp [main, proceed] at made

/-- Every move is one of the sections. -/
theorem section_of_step {move : Move} {result : System × List Event}
    (made : system.step move = some result) : Section system move result := by
  cases move with
  | begin runner =>
    obtain ⟨begun, began, rfl⟩ := Option.map_eq_some_iff.mp made
    simp only [beginTurn] at began
    split at began
    · cases began
    · rename_i idle
      have free : system.progress? runner = none := by simpa using idle
      cases runner with
      | task task =>
        dsimp only at began
        split at began
        · rename_i running
          obtain rfl := Option.some.inj began
          exact .began (.task task) free running
        · cases began
      | main =>
        dsimp only at began
        split at began
        · rename_i chains seeding
          obtain rfl := Option.some.inj began
          exact .began .main free ⟨chains, seeding⟩
        · cases began
  | advance runner =>
    obtain ⟨progress, found, advanced⟩ := Option.bind_eq_some_iff.mp made
    exact section_of_advance runner progress found advanced
  | host move => exact section_of_allow made
  | watch =>
    simp only [step] at made
    split at made
    · rename_i sees
      obtain rfl := Option.some.inj made
      exact .watched sees.1 sees.2.1 sees.2.2
    · cases made
  | giveUp =>
    simp only [step] at made
    split at made
    · rename_i tired
      obtain rfl := Option.some.inj made
      exact .gaveUp tired.1 tired.2
    · cases made
  | proceed => exact section_of_proceed made

/-- A run makes its moves one after the other. -/
theorem plays : Plays step play := ⟨fun _ => rfl, fun _ _ _ => rfl⟩

/-- A run is its first move and a run of what that leaves. -/
theorem play_cons_eq_some {move : Move} {moves : List Move} {result : System × List Event} :
    system.play (move :: moves) = some result ↔
      ∃ first last, system.step move = some first ∧ first.1.play moves = some last ∧
        (last.1, first.2 ++ last.2) = result :=
  plays.cons_eq_some_iff

/-- What every section of a run keeps, the whole run keeps. The property may speak of the
moves that were made, of the deeds that were done and of what has happened so far. -/
theorem play_history
    (invariant : List Move → System → List (Runner × Deed) → List Event → Prop)
    (kept : ∀ made system deeds events move result, invariant made system deeds events →
      Section system move result → invariant (made ++ [move]) result.1
        (deeds ++ (system.deed? move).toList) (events ++ result.2))
    (made : List Move) (deeds : List (Runner × Deed)) (events : List Event)
    (start : invariant made system deeds events) {moves : List Move}
    {result : System × List Event} (run : system.play moves = some result) :
    invariant (made ++ moves) result.1 (deeds ++ system.deeds moves) (events ++ result.2) := by
  -- Every run is taken from its first move on, so what has happened before it varies.
  induction moves generalizing system made deeds events result with
  | nil =>
    obtain rfl := Option.some.inj run
    simpa [System.deeds] using start
  | cons move moves inductionHypothesis =>
    obtain ⟨first, last, stepped, played, rfl⟩ := play_cons_eq_some.mp run
    have next : invariant (made ++ [move]) first.1 (deeds ++ (system.deed? move).toList)
        (events ++ first.2) := kept made system deeds events move first start
      (section_of_step stepped)
    simpa [System.deeds, stepped] using inductionHypothesis _ _ _ next played

/-- What every section of a run keeps, the whole run keeps. The property may speak of the
deeds that were done and of what has happened so far. -/
theorem play_induction (invariant : System → List (Runner × Deed) → List Event → Prop)
    (kept : ∀ system deeds events move result, invariant system deeds events →
      Section system move result →
        invariant result.1 (deeds ++ (system.deed? move).toList) (events ++ result.2))
    (deeds : List (Runner × Deed)) (events : List Event) (start : invariant system deeds events)
    {moves : List Move} {result : System × List Event} (run : system.play moves = some result) :
    invariant result.1 (deeds ++ system.deeds moves) (events ++ result.2) :=
  play_history (fun _ => invariant) (fun _ => kept) [] deeds events start run

end System

end Standby.LoadRun
