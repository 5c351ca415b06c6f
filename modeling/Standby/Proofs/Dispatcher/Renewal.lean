import Standby.Proofs.Dispatcher.Sequel
import Standby.Proofs.Dispatcher.Stopped
import Standby.Proofs.Dispatcher.Timeout

/-!
# Dispatchers that start again

A stopped dispatcher without calls is as good as new. What it had before has become its
past: the loops that the executor may still hold, the numbers that were given out, the
epoch, and the counts. Behind this past stands a new dispatcher of the same capacity and
the same idle timeout.

The loops of the past can only be launched or dropped, which ends them and changes
nothing else, since their epoch is over. Every run from there on, with such moves anywhere
in between, is therefore a run of the new dispatcher under later numbers.
-/

namespace Standby.Dispatcher

open Duration (Millis)

/-- A move that does not concern a call or a loop of the past. -/
def Move.isLater (past : Past) : Move → Bool
  | .proceed call | .answer call _ | .breakOff call => past.calls ≤ call
  | .launch worker | .discard worker | .work worker | .expire worker | .finish worker _
  | .breakDown worker => past.workers ≤ worker
  | .invoke _ | .letGo => true

/-- An event that does not tell of a loop of the past. -/
def Event.isLater (past : Past) (event : Event) : Bool :=
  event.actor?.all fun worker => past.workers ≤ worker

section Later

variable {past : Past}

/-- A move behind a past is a later one. -/
theorem Move.isLater_after (move : Move) : (move.after past).isLater past = true := by
  cases move <;> simp [isLater, after, Past.worker, Past.call]

/-- What happens behind a past is later. -/
theorem Event.isLater_after (event : Event) : (event.after past).isLater past = true := by
  cases event <;> simp [isLater, actor?, after, Past.worker]

/-- A move that does not concern the past has a number of its own. -/
theorem Move.eq_after {move : Move} (later : move.isLater past = true) :
    ∃ own : Move, move = own.after past := by
  have number {least number : Nat} (reached : decide (least ≤ number) = true) :
      ∃ own, number = least + own := Nat.exists_eq_add_of_le (of_decide_eq_true reached)
  cases move with
  | invoke request => exact ⟨.invoke request, rfl⟩
  | letGo => exact ⟨.letGo, rfl⟩
  | proceed call =>
    obtain ⟨own, rfl⟩ := number later
    exact ⟨.proceed own, rfl⟩
  | answer call refusal =>
    obtain ⟨own, rfl⟩ := number later
    exact ⟨.answer own refusal, rfl⟩
  | breakOff call =>
    obtain ⟨own, rfl⟩ := number later
    exact ⟨.breakOff own, rfl⟩
  | launch worker =>
    obtain ⟨own, rfl⟩ := number later
    exact ⟨.launch own, rfl⟩
  | discard worker =>
    obtain ⟨own, rfl⟩ := number later
    exact ⟨.discard own, rfl⟩
  | work worker =>
    obtain ⟨own, rfl⟩ := number later
    exact ⟨.work own, rfl⟩
  | expire worker =>
    obtain ⟨own, rfl⟩ := number later
    exact ⟨.expire own, rfl⟩
  | finish worker outcome =>
    obtain ⟨own, rfl⟩ := number later
    exact ⟨.finish own outcome, rfl⟩
  | breakDown worker =>
    obtain ⟨own, rfl⟩ := number later
    exact ⟨.breakDown own, rfl⟩

end Later

/-- A loop that the past has left comes to its end. -/
def Leftover.finish {past : Past} (leftover : Leftover past) {number : WorkerId} {loop : Worker}
    (found : leftover.loops[number]? = some loop) (ending : Ending) : Leftover past where
  loops := leftover.loops.modify number (Worker.move (.gone ending))
  length_eq := (List.length_modify ..).trans leftover.length_eq
  early := Counting.forall_modify found leftover.early
    (leftover.early loop (List.mem_of_getElem? found))
  settled := Counting.forall_modify found leftover.settled rfl

/-- Changing one of the first entries leaves those behind alone. -/
theorem modify_append_left {α : Type} (front back : List α) (position : Nat) (change : α → α)
    (early : position < front.length) :
    (front ++ back).modify position change = front.modify position change ++ back := by
  induction front generalizing position with
  | nil => simp at early
  | cons first rest inductionHypothesis =>
    cases position with
    | zero => simp
    | succ position =>
      have later := inductionHypothesis position (Nat.lt_of_succ_lt_succ early)
      simp [later]

namespace System

variable {past : Past} (leftover : Leftover past) (system : System)

section Leftovers

variable {leftover} {number : WorkerId} {loop : Worker}
  (found : leftover.loops[number]? = some loop)
include found

/-- A loop of the past has one of the old numbers. -/
theorem lt_of_found : number < past.workers :=
  leftover.length_eq ▸ (List.getElem?_eq_some_iff.mp found).1

/-- A loop of the past that ends is one among the others of the past. -/
theorem setStage_finish (ending : Ending) :
    (system.after leftover).setStage number (.gone ending) =
      system.after (leftover.finish found ending) := by
  have early : number < leftover.loops.length := (List.getElem?_eq_some_iff.mp found).1
  unfold setStage
  simp only [after, modify_append_left _ _ _ _ early]
  rfl

/-- The epoch of a loop of the past is over. -/
theorem epoch_ne_of_found : (system.after leftover).roster.epoch ≠ loop.epoch := by
  have early : loop.epoch < past.epoch := leftover.early loop (List.mem_of_getElem? found)
  exact Nat.ne_of_gt (Nat.lt_of_lt_of_le early (Nat.le_add_right ..))

/-- A loop of the past that is launched ends at once. -/
theorem launch_leftover :
    (system.after leftover).launch number loop.epoch =
      (system.after (leftover.finish found .stale), [.stale number]) := by
  unfold launch
  rw [if_pos (epoch_ne_of_found system found), setStage_finish system found]

/-- A loop of the past that is dropped gives nothing back. -/
theorem discard_leftover :
    (system.after leftover).discard number loop.epoch =
      (system.after (leftover.finish found .discarded), [.discarded number]) := by
  unfold discard
  rw [if_neg (epoch_ne_of_found system found), ← setStage_finish system found]

variable (queued : loop.stage = .queued)
include queued

/-- The executor may launch or drop a loop that it still holds. -/
theorem release_leftover :
    (system.after leftover).step (.launch number) =
        some ((system.after leftover).setStage number (.gone .stale), [.stale number]) ∧
      (system.after leftover).step (.discard number) =
        some ((system.after leftover).setStage number (.gone .discarded), [.discarded number]) := by
  have held : (system.after leftover).workers[number]? = some loop :=
    (loop_after leftover system (lt_of_found found)).trans found
  constructor
  · simp only [step, held, Option.bind_some, queued, if_true, launch_leftover system found,
      setStage_finish system found]
  · simp only [step, held, Option.bind_some, queued, if_true, discard_leftover system found,
      setStage_finish system found]

end Leftovers

/-- A loop that is settled makes no move by itself. -/
theorem idle_of_settled (number : WorkerId) {loop : Worker}
    (settled : loop.stage.isSettled = true) :
    system.work number loop = none ∧ system.expire number loop = none ∧
      (∀ outcome, system.finish number outcome loop = none) ∧
        system.breakDown number loop = none := by
  obtain ⟨epoch, stage⟩ := loop
  cases stage with
  | queued | gone => exact ⟨rfl, rfl, fun _ => rfl, rfl⟩
  | serving | announcing | counting => cases settled

/-- A move that concerns the past is the launch or the drop of a loop that the executor
still holds, and puts an end to this loop. -/
theorem step_leftover {move : Move} (early : move.isLater past = false)
    {result : System × List Event} (made : (system.after leftover).step move = some result) :
    ∃ (number : WorkerId) (loop : Worker) (found : leftover.loops[number]? = some loop),
      loop.stage = .queued ∧
        (move = .launch number ∧
            result = (system.after (leftover.finish found .stale), [.stale number]) ∨
          move = .discard number ∧
            result = (system.after (leftover.finish found .discarded), [.discarded number])) := by
  have below {least number : Nat} (early : decide (least ≤ number) = false) : number < least :=
    Nat.lt_of_not_le (of_decide_eq_false early)
  have unheard {number : Nat} (early : number < past.calls) :
      (system.after leftover).calls.get? number = none := Register.get?_after_of_lt _ _ _ early
  have settled {number : WorkerId} {loop : Worker} (early : number < past.workers)
      (found : (system.after leftover).workers[number]? = some loop) :
      loop.stage.isSettled = true := by
    rw [loop_after leftover system early] at found
    exact leftover.settled loop (List.mem_of_getElem? found)
  cases move with
  | invoke | letGo => cases early
  | proceed call => simp [step, unheard (below early)] at made
  | answer call refusal => simp [step, unheard (below early)] at made
  | breakOff call => simp [step, unheard (below early)] at made
  | launch number =>
    obtain ⟨loop, found, launched⟩ := Option.bind_eq_some_iff.mp made
    rw [loop_after leftover system (below early)] at found
    rw [Option.ite_none_right_eq_some] at launched
    obtain ⟨queued, same⟩ := launched
    rw [launch_leftover system found] at same
    exact ⟨number, loop, found, queued, .inl ⟨rfl, (Option.some.inj same).symm⟩⟩
  | discard number =>
    obtain ⟨loop, found, dropped⟩ := Option.bind_eq_some_iff.mp made
    rw [loop_after leftover system (below early)] at found
    rw [Option.ite_none_right_eq_some] at dropped
    obtain ⟨queued, same⟩ := dropped
    rw [discard_leftover system found] at same
    exact ⟨number, loop, found, queued, .inr ⟨rfl, (Option.some.inj same).symm⟩⟩
  | work number =>
    obtain ⟨loop, found, worked⟩ := Option.bind_eq_some_iff.mp made
    have idle := (system.after leftover).idle_of_settled number (settled (below early) found)
    simp [idle] at worked
  | expire number =>
    obtain ⟨loop, found, expired⟩ := Option.bind_eq_some_iff.mp made
    have idle := (system.after leftover).idle_of_settled number (settled (below early) found)
    simp [idle] at expired
  | finish number outcome =>
    obtain ⟨loop, found, finished⟩ := Option.bind_eq_some_iff.mp made
    have idle := (system.after leftover).idle_of_settled number (settled (below early) found)
    simp [idle] at finished
  | breakDown number =>
    obtain ⟨loop, found, broken⟩ := Option.bind_eq_some_iff.mp made
    have idle := (system.after leftover).idle_of_settled number (settled (below early) found)
    simp [idle] at broken

/-- After a move that concerns the past the same dispatcher stands behind it, and no event
of its own has happened. -/
theorem of_step_leftover {move : Move} (early : move.isLater past = false)
    {result : System × List Event} (made : (system.after leftover).step move = some result) :
    ∃ still : Leftover past, result.1 = system.after still ∧
      result.2.filter (Event.isLater past) = [] := by
  obtain ⟨number, loop, found, -, ends⟩ := step_leftover leftover system early made
  have old : number < past.workers := lt_of_found found
  rcases ends with ⟨-, rfl⟩ | ⟨-, rfl⟩
  · exact ⟨leftover.finish found .stale, rfl, by simp [Event.isLater, Event.actor?, old]⟩
  · exact ⟨leftover.finish found .discarded, rfl, by simp [Event.isLater, Event.actor?, old]⟩

/-- A run behind a past is a run without it, once the moves that concern the past are left
out of it. Those only put an end to loops of the past. -/
theorem play_later {moves : List Move} {result : System × List Event}
    (run : (system.after leftover).play moves = some result) :
    ∃ (own : List Move) (last : System × List Event) (still : Leftover past),
      moves.filter (Move.isLater past) = own.map (Move.after past) ∧
        system.play own = some last ∧ result.1 = last.1.after still ∧
          result.2.filter (Event.isLater past) = last.2.map (Event.after past) := by
  -- Every move may concern the past or not, so what the past has left varies.
  induction moves generalizing leftover system result with
  | nil =>
    obtain rfl := Option.some.inj run
    exact ⟨[], (system, []), leftover, rfl, rfl, rfl, rfl⟩
  | cons move moves inductionHypothesis =>
    obtain ⟨first, last, made, played, rfl⟩ := play_cons_eq_some.mp run
    cases later : move.isLater past with
    | true =>
      obtain ⟨own, rfl⟩ := Move.eq_after later
      rw [step_after] at made
      obtain ⟨next, stepped, rfl⟩ := Option.map_eq_some_iff.mp made
      obtain ⟨rest, final, still, kept, running, reached, told⟩ :=
        inductionHypothesis leftover next.1 played
      refine ⟨own :: rest, (final.1, next.2 ++ final.2), still, ?_, ?_, reached, ?_⟩
      · rw [List.filter_cons_of_pos later, kept, List.map_cons]
      · exact play_cons_eq_some.mpr ⟨next, final, stepped, running, rfl⟩
      · have all : (next.2.map (Event.after past)).filter (Event.isLater past) =
            next.2.map (Event.after past) := by
          refine List.filter_eq_self.mpr fun event happened => ?_
          obtain ⟨own, -, rfl⟩ := List.mem_map.mp happened
          exact own.isLater_after
        rw [List.filter_append, told, List.map_append]
        exact congrArg (· ++ final.2.map (Event.after past)) all
    | false =>
      obtain ⟨next, same, silent⟩ := of_step_leftover leftover system later made
      rw [same] at played
      obtain ⟨rest, final, still, kept, running, reached, told⟩ :=
        inductionHypothesis next system played
      refine ⟨rest, final, still, ?_, running, reached, ?_⟩
      · rw [List.filter_cons_of_neg (by simp [later]), kept]
      · rw [List.filter_append, silent, told, List.nil_append]

end System

/-- A roster at rest is a new one, except for its epoch. -/
theorem Roster.eq_fresh {roster : Roster} (stopped : roster.phase = .stopped)
    (parked : roster.parked = []) (pending : roster.pending = 0) (starting : roster.starting = 0)
    (live : roster.live = 0) :
    roster = { Roster.fresh roster.idleTimeout with epoch := roster.epoch } := by
  cases roster
  simp_all [Roster.fresh]

/-- A dispatcher shows the same as one without its past, and goes on from the past in its
numbers, its epoch and its counts. -/
structure System.Resembles (past : Past) (system twin : System) : Prop where
  capacity : system.capacity = twin.capacity
  held : system.held = twin.held
  phase : system.roster.phase = twin.roster.phase
  idleTimeout : system.roster.idleTimeout = twin.roster.idleTimeout
  available : system.roster.available = twin.roster.available
  pending : system.roster.pending = twin.roster.pending
  starting : system.roster.starting = twin.roster.starting
  live : system.roster.live = twin.roster.live
  parked : system.roster.parked = twin.roster.parked.map past.worker
  epoch : system.roster.epoch = past.epoch + twin.roster.epoch
  counts : ∀ count, system.tally.get count = past.tally.get count + twin.tally.get count
  workers : ∀ number,
    system.workers[past.worker number]? = twin.workers[number]?.map (Worker.after past)
  calls : ∀ call,
    system.calls.get? (past.call call) = (twin.calls.get? call).map (Call.after past)

namespace System

/-- Behind a past a dispatcher resembles itself. -/
theorem resembles_after {past : Past} (leftover : Leftover past) (system : System) :
    (system.after leftover).Resembles past system where
  capacity := rfl
  held := rfl
  phase := rfl
  idleTimeout := rfl
  available := List.length_map _
  pending := rfl
  starting := rfl
  live := rfl
  parked := rfl
  epoch := rfl
  counts count := Tally.get_of _ count
  workers := worker_after leftover system
  calls _ := Register.get?_after ..

/-- What lies behind a dispatcher. -/
def past (system : System) : Past where
  workers := system.workers.length
  calls := system.calls.next
  epoch := system.roster.epoch
  tally := system.tally

/-- A new dispatcher with the capacity and the idle timeout of this one, let go when this
one was. -/
def renewal (system : System) : System :=
  { fresh system.capacity system.roster.idleTimeout with held := system.held }

/-- A stopped dispatcher without calls, whose loops are with the executor or have ended, is a
new one behind its past. -/
theorem eq_renewal_after {capacity : Nat} {system : System} {events : List Event}
    (census : Census capacity system.roster system.workers) (rest : system.AtRest events)
    (timed : idleTimeout? system.roster.idleTimeout = system.roster.idleTimeout)
    (unused : system.calls.isEmpty = true)
    (settled : ∀ worker ∈ system.workers, worker.stage.isSettled = true) :
    ∃ leftover : Leftover system.past, system = system.renewal.after leftover := by
  have early : ∀ worker ∈ system.workers, worker.epoch < system.roster.epoch := by
    intro worker member
    obtain ⟨number, found⟩ := List.mem_iff_getElem?.mp member
    exact ((census.orderly_of_found found).past (by simp [rest.stopped])).1
  let leftover : Leftover system.past := ⟨system.workers, rfl, early, settled⟩
  refine ⟨leftover, ?_⟩
  have blank : system.roster =
      { Roster.fresh system.roster.idleTimeout with epoch := system.roster.epoch } :=
    Roster.eq_fresh rest.stopped rest.parked rest.pending rest.starting rest.live
  have roster : system.renewal.roster.after system.past = system.roster := by
    rw [blank]
    simp only [renewal, System.fresh, Roster.after, Roster.fresh, timed]
    rfl
  have tally : system.past.tally.plus system.renewal.tally = system.tally :=
    system.tally.plus_zero
  have workers : leftover.loops ++ system.renewal.workers.map (Worker.after system.past) =
      system.workers := List.append_nil _
  have calls : system.renewal.calls.after system.past.calls (Call.after system.past) =
      system.calls := (system.calls.after_of_isEmpty _ unused).symm
  simp only [after, roster, tally, workers, calls]
  rfl

/-- A stopped dispatcher starts again like a new one. What goes on under later numbers is
called by the numbers that it has in the new dispatcher. -/
structure Renews (system : System) : Prop where
  /-- Every run from here is one of a new dispatcher, once the moves and the events of
  left-over loops are left out of it, and goes on like that one. -/
  mirrors : ∀ later last events, system.play later = some (last, events) →
    ∃ moves twin told,
      later.filter (Move.isLater system.past) = moves.map (Move.after system.past) ∧
        system.renewal.play moves = some (twin, told) ∧
        events.filter (Event.isLater system.past) = told.map (Event.after system.past) ∧
        last.Resembles system.past twin ∧
        ∀ more final new, twin.play more = some (final, new) → ∃ reached,
          last.play (more.map (Move.after system.past)) =
              some (reached, new.map (Event.after system.past)) ∧
            reached.Resembles system.past final
  /-- Whatever is left over can be launched or dropped as long as it is queued. -/
  releases : ∀ later last events, system.play later = some (last, events) →
    ∀ number < system.workers.length, ∀ epoch, last.workers[number]? = some ⟨epoch, .queued⟩ →
      last.step (.launch number) =
          some (last.setStage number (.gone .stale), [.stale number]) ∧
        last.step (.discard number) =
          some (last.setStage number (.gone .discarded), [.discarded number])
  /-- No move of a left-over loop changes anything but this loop, or tells a caller
  anything. -/
  ignores : ∀ later last events, system.play later = some (last, events) →
    ∀ move, move.isLater system.past = false → ∀ next told, last.step move = some (next, told) →
      next.capacity = last.capacity ∧ next.held = last.held ∧ next.roster = last.roster ∧
        next.tally = last.tally ∧ next.calls = last.calls ∧
          ∃ number < system.workers.length, told = [.stale number] ∨ told = [.discarded number]

/-- In every run a stopped dispatcher without calls and without unfinished loops starts
again like a new one. -/
theorem play_renews (capacity : Nat) (idleTimeout : Option Millis) (moves : List Move)
    (system : System) (events : List Event)
    (run : (fresh capacity idleTimeout).play moves = some (system, events))
    (stopped : system.roster.phase = .stopped) (unused : system.calls.isEmpty = true)
    (settled : ∀ worker ∈ system.workers, worker.stage.isSettled = true) : system.Renews := by
  have order : InOrder capacity system := inOrder_of_play run
  have rest : system.AtRest events := atRest_of_stopped order (inCustody_of_play run) stopped
  obtain ⟨leftover, same⟩ :=
    eq_renewal_after order.census rest (idleTimeout_of_play run) unused settled
  -- Whatever happens later, a run of the new dispatcher stands behind the past.
  have behind (later : List Move) (last : System) (events : List Event)
      (played : system.play later = some (last, events)) :=
    play_later leftover system.renewal (same ▸ played)
  constructor
  case mirrors =>
    intro later last events played
    obtain ⟨own, ⟨twin, told⟩, still, kept, running, rfl, heard⟩ := behind later last events played
    refine ⟨own, twin, told, kept, running, heard, resembles_after still twin, ?_⟩
    intro more final new goesOn
    refine ⟨final.after still, ?_, resembles_after still final⟩
    rw [play_after, goesOn]
    rfl
  case releases =>
    intro later last events played number early epoch found
    obtain ⟨own, ⟨twin, told⟩, still, -, -, rfl, -⟩ := behind later last events played
    rw [loop_after still twin early] at found
    exact release_leftover twin found rfl
  case ignores =>
    intro later last events played move early next told made
    obtain ⟨own, ⟨twin, heard⟩, still, -, -, rfl, -⟩ := behind later last events played
    obtain ⟨number, loop, found, -, ends⟩ := step_leftover still twin early made
    have old : number < system.workers.length := lt_of_found found
    rcases ends with ⟨-, ended⟩ | ⟨-, ended⟩
    · obtain ⟨rfl, rfl⟩ := Prod.mk.inj ended
      exact ⟨rfl, rfl, rfl, rfl, rfl, number, old, .inl rfl⟩
    · obtain ⟨rfl, rfl⟩ := Prod.mk.inj ended
      exact ⟨rfl, rfl, rfl, rfl, rfl, number, old, .inr rfl⟩

/-- The two calls that stop a dispatcher have returned, and so have all others, while the
executor still holds a loop. -/
def quietStop : List Move :=
  joinedStop ++ [.proceed 4, .answer 1 none, .proceed 1, .proceed 1, .answer 2 none, .proceed 2,
    .proceed 2]

/-- The dispatcher starts again like a new one, though it has been used and one of its loops is
still queued. -/
theorem quietStop_renews :
    ∃ system events, (fresh 2 none).play quietStop = some (system, events) ∧
      system.roster.phase = .stopped ∧ system.calls.isEmpty = true ∧
      (∀ worker ∈ system.workers, worker.stage.isSettled = true) ∧
      system.workers[1]? = some ⟨0, .queued⟩ ∧ system.tally.get .accepted = 1 ∧
      system.Renews :=
  ⟨_, _, rfl, rfl, rfl, by decide, rfl, rfl,
    play_renews 2 none quietStop _ _ rfl rfl rfl (by decide)⟩

end System

end Standby.Dispatcher
