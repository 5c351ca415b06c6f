import Standby.Proofs.Dispatcher.Load
import Standby.Proofs.LoadRun.Chains
import Standby.Proofs.LoadRun.Books

/-!
# How long load runs are

Every move of a load run is paid for. What the dispatcher and the pool do uses up work that the
offers of turns and the calls of the main thread have brought. What a turn does by itself is a deed,
or ends a chain or a turn of the main thread. A turn begins for each claim, for each empty budget
that was found, and for each claim that is still to come. So a load run comes to its end after a
number of moves that its settings bound.
-/

namespace Standby.Hosted.System

variable {system : System} {capacity : Nat} {moves : List (Pool.Move Job)}
  {told : List Pool.Event}

/-- The work that remains in a dispatcher and its pool. A section of the dispatcher may bring the
pool a call. -/
def load (system : System) : Nat := 9 * system.dispatcher.load + system.pool.load

/-- Nobody calls, and nobody lets anything go. -/
def Continues : Move → Prop
  | .dispatcher (.invoke _) | .dispatcher .letGo | .pool (.invoke _) | .pool .letGo => False
  | _ => True

/-- Every section uses up some work unless somebody calls. -/
theorem load_of_step (order : InOrder capacity moves system told) {move : Move}
    {result : System × List Event} (made : system.step move = some result)
    (continues : Continues move) (few : system.dispatcher.sleepers ≤ 1) :
    result.1.load < system.load := by
  have less {own : Dispatcher.Move} {after : Dispatcher.System × List Dispatcher.Event}
      (same : move = .dispatcher own) (stepped : system.dispatcher.step own = some after) :
      after.1.load < system.dispatcher.load := by
    refine Dispatcher.System.load_of_section
      (Dispatcher.System.section_of_step order.dispatcher.parkedReady stepped) ?_ ?_ few <;>
      · intros
        rintro rfl
        rw [same] at continues
        exact continues
  cases section_of_step made with
  | dispatcher own next events submissions agrees stepped =>
    have used := less rfl stepped
    simp only [load] at used ⊢
    omega
  | submitted own call stage job next events pool later submissions agrees stepped caller found
      owes invoked =>
    have used := less rfl stepped
    have brought := Pool.System.load_of_section (Pool.System.section_of_step invoked)
    simp only [load, Pool.Move.isOwn, Pool.Move.request?, Bool.toNat_false, Option.toList_some,
      List.length_singleton] at used brought ⊢
    omega
  | pool own next events submissions agrees stepped =>
    have used := Pool.System.load_of_section (Pool.System.section_of_step stepped)
    cases own with
    | proceed | work | finish =>
      simp only [load, Pool.Move.isOwn, Pool.Move.request?, Bool.toNat_true, Option.toList_none,
        List.length_nil] at used ⊢
      omega
    | invoke | letGo => exact continues.elim

end Standby.Hosted.System

namespace Standby.LoadRun

open Dispatcher (Task)

/-- What the main thread still has to do at most, with the work that its calls bring. -/
def Main.load : Main → Nat
  | .starting => 62
  | .callingStart _ => 52
  | .seeding _ => 51
  | .watching => 50
  | .stopping => 49
  | .callingStop _ => 12
  | .closing => 11
  | .callingClose _ => 2
  | .joining => 1
  | .finished => 0

/-- A turn is about to take from the budget. -/
def Progress.isClaiming : Progress → Bool
  | .claiming => true
  | _ => false

namespace Move

/-- A turn begins. -/
def begins : Move → Bool
  | .begin _ => true
  | _ => false

/-- A turn goes on by itself. -/
def advances : Move → Bool
  | .advance _ => true
  | _ => false

/-- The main thread sees a signal. -/
def watches : Move → Bool
  | .watch => true
  | _ => false

/-- The dispatcher, the pool or the main thread goes on. -/
def goesOn : Move → Bool
  | .host _ | .proceed | .giveUp => true
  | _ => false

end Move

namespace System

variable {system next : System} {capacity loops threads : Nat}
  {moves : List (Pool.Move Hosted.Job)} {told : List Pool.Event} {made : List Move} {move : Move}
  {result : System × List Event} {deeds : List (Runner × Deed)} {events : List Event}

/-- Only the main thread may sleep in the dispatcher. -/
theorem Linked.sleepers_le_one (linked : system.Linked) : system.host.dispatcher.sleepers ≤ 1 := by
  refine Register.total_le_of_alone (fun call stage _ => ?_)
    fun call other stage held found stands sleeps also => ?_
  · cases stage <;> simp [Dispatcher.Call.sleeps]
  · have stops {call : Nat} {stage : Dispatcher.Call}
        (found : system.host.dispatcher.calls.get? call = some stage) (sleeps : 0 < stage.sleeps) :
        system.main.call? = some (call, .stop) := by
      obtain ⟨awaited, rfl⟩ : ∃ awaited, stage = .sleeping awaited := by
        cases stage with
        | sleeping awaited => exact ⟨awaited, rfl⟩
        | _ => exact absurd sleeps (Nat.lt_irrefl 0)
      rcases linked.callers call _ found with ⟨request, waits⟩ | ⟨runner, calls⟩
      · obtain ⟨_, held, serves⟩ := linked.main call request waits
        obtain rfl := Option.some.inj (found.symm.trans held)
        cases request <;> first | exact waits | cases serves
      · obtain ⟨_, held, serves⟩ := linked.turns runner call calls
        obtain rfl := Option.some.inj (found.symm.trans held)
        cases serves
    have same := (stops found sleeps).symm.trans (stops stands also)
    simpa using same

/-- A move that ends no task calls nobody. -/
theorem Plain.continues {own : Hosted.Move} (plain : system.Plain own) :
    Hosted.System.Continues own := by
  cases own with
  | dispatcher own => cases own <;> first | exact plain.elim | exact trivial
  | pool own => cases own <;> first | exact plain.elim | exact trivial

/-- A call of the dispatcher brings work to it. -/
theorem load_invoked (request : Dispatcher.Request) :
    (system.invoked request).host.load = system.host.load + 9 * request.load := by
  have brought := system.host.dispatcher.load_invoked request
  simp only [Hosted.System.load, invoked]
  omega

/-- The main thread has no more to do when it has heard something. -/
theorem main_load_of_heard {host : Hosted.System} {answers : List (Nat × Dispatcher.Answer)}
    (heard : Heard system host answers next) : next.main.load ≤ system.main.load := by
  cases heard with
  | nothing main calls turned =>
    rcases turned with rfl | ⟨⟨call, closes⟩, rfl⟩
    · exact Nat.le_refl _
    · rw [closes]
      exact Nat.le_succ 1
  | turn => exact Nat.le_refl _
  | main call stage request answer main waits turned =>
    dsimp only
    rcases turned with ⟨rfl, rfl⟩ | ⟨rfl, rfl⟩ <;>
      cases before : system.main <;> simp_all [Main.call?, Main.load]

/-- What a turn has become is not known from an answer that it gets. -/
theorem turns_of_heard (linked : system.Linked) {host : Hosted.System}
    {answers : List (Nat × Dispatcher.Answer)} (heard : Heard system host answers next) :
    next.mainTurns = system.mainTurns ∧
      countIn Progress.isClaiming next.turns = countIn Progress.isClaiming system.turns := by
  cases heard with
  | nothing | main => exact ⟨rfl, rfl⟩
  | turn runner call answer found =>
    exact ⟨congrArg Bool.toNat (isSome_progressIn_setIn found .main),
      countIn_setIn linked.distinct Progress.isClaiming found (.answered answer)⟩

/-- Every section of the dispatcher, the pool or the main thread uses up some of the work that
offers and calls bring. -/
theorem worked_of_section (linked : system.Linked)
    (order : Hosted.System.InOrder capacity moves system.host told)
    (made : Section system move result) :
    move.goesOn.toNat + result.1.host.load + result.1.main.load ≤
      system.host.load + system.main.load +
        117 * ((system.deed? move).any fun deed => deed.2.offers).toNat := by
  have hosted {own : Hosted.Move} {host : Hosted.System} {happened : List Hosted.Event}
      {answers : List (Nat × Dispatcher.Answer)}
      (stepped : system.host.step own = some (host, happened))
      (continues : Hosted.System.Continues own)
      (heard : Heard system host answers (system.noting host happened)) :
      1 + host.load + (system.noting host happened).main.load ≤
        system.host.load + system.main.load := by
    have used : host.load < system.host.load :=
      Hosted.System.load_of_step order stepped continues linked.sleepers_le_one
    have less := main_load_of_heard heard
    omega
  cases made with
  | began | exhausted | claimed | signalled | watched =>
    simp only [Move.goesOn, Bool.toNat_false, Nat.zero_add]
    exact Nat.le_add_right _ _
  | counted runner answer =>
    cases answer <;> simp only [Move.goesOn, Bool.toNat_false, Nat.zero_add] <;>
      exact Nat.le_add_right _ _
  | chained chains found seeding =>
    rw [seeding]
    simp only [Move.goesOn, Bool.toNat_false, Nat.zero_add]
    exact Nat.le_add_right _ _
  | offered runner found held =>
    have brought := system.load_invoked (.offer true)
    have offers : (system.deed? (.advance runner)).any (fun deed => deed.2.offers) = true := by
      rw [deed_of_found found]
      rfl
    rw [offers]
    simp only [Move.goesOn, setProgress, invoked, Dispatcher.Request.load, Bool.toNat_false,
      Bool.toNat_true] at brought ⊢
    omega
  | hosted own host happened plain stepped =>
    have used := hosted stepped plain.continues
      (heard_of_step linked order stepped plain.begins_nothing)
    rw [noting_host]
    exact Nat.le_add_right_of_le used
  | finished own task host happened ends ended stepped =>
    have used := hosted stepped (by cases ends <;> exact trivial)
      (heard_of_step linked order stepped ends.begins_nothing)
    rw [removeTurn, noting_host]
    exact Nat.le_add_right_of_le used
  | starting main held =>
    have brought := system.load_invoked .start
    simp only [main, Main.load, Move.goesOn, Dispatcher.Request.load, Bool.toNat_true] at brought ⊢
    omega
  | stopping main held =>
    have brought := system.load_invoked .stop
    simp only [main, Main.load, Move.goesOn, Dispatcher.Request.load, Bool.toNat_true] at brought ⊢
    omega
  | closing main held =>
    have brought := Register.total_add Pool.Call.load system.host.pool.calls (.entering .close)
    simp only [main, Main.load, Move.goesOn, closeInvoked, Hosted.System.load, Pool.System.load,
      Pool.Call.load, Bool.toNat_true] at brought ⊢
    omega
  | seeded main | sawAll main | joined main | gaveUp main =>
    simp only [main, Main.load, Move.goesOn, Bool.toNat_true]
    omega

/-- How the moves of turns are paid for: by a deed, by an empty budget that was found, or by a
chain that the main thread has begun. -/
structure Paced (system next : System) (move : Move) (deed : Option (Runner × Deed))
    (exhausted : Nat) : Prop where
  advanced : move.advances.toNat + next.mainTurns =
    system.mainTurns + deed.toList.length + exhausted + seeds [move]
  begun : move.begins.toNat + countIn Progress.isClaiming system.turns =
    (deed.any fun deed => deed.2.claims).toNat + exhausted +
      countIn Progress.isClaiming next.turns

/-- A turn goes on by a deed, or finds the budget empty. -/
theorem paced_of_turn (linked : system.Linked) {runner : Runner} {progress later : Progress}
    (found : system.progress? runner = some progress)
    (turns : next.turns = setIn system.turns runner later) {exhausted : Nat}
    (one : exhausted + (system.deedOf? progress).toList.length = 1)
    (claims : progress.isClaiming.toNat = ((system.deedOf? progress).any Deed.claims).toNat +
      exhausted + later.isClaiming.toNat) :
    Paced system next (.advance runner) (system.deed? (.advance runner)) exhausted := by
  have same : next.mainTurns = system.mainTurns :=
    congrArg Bool.toNat ((congrArg (fun turns => (progressIn turns .main).isSome) turns).trans
      (isSome_progressIn_setIn found .main))
  have counted := countIn_setIn linked.distinct Progress.isClaiming found later
  rw [← turns] at counted
  rw [deed_of_found found]
  have deeds : ((system.deedOf? progress).map (runner, ·)).toList.length =
      (system.deedOf? progress).toList.length := by
    cases system.deedOf? progress <;> rfl
  have claiming : (((system.deedOf? progress).map (runner, ·)).any fun deed => deed.2.claims) =
      (system.deedOf? progress).any Deed.claims := by
    cases system.deedOf? progress <;> rfl
  constructor
  · change 1 + next.mainTurns = _ + _ + _ + 0
    omega
  · change 0 + _ = _
    rw [claiming]
    omega

/-- Nothing has to be paid for when no turn begins, goes on by itself or ends for the main
thread. -/
theorem paced_of_rest (main : next.mainTurns = system.mainTurns)
    (turns : countIn Progress.isClaiming next.turns = countIn Progress.isClaiming system.turns)
    (rests : move.advances = false ∧ move.begins = false) :
    Paced system next move none 0 := by
  have unseeded : seeds [move] = 0 := by
    cases move with
    | begin => cases rests.2
    | _ => rfl
  exact ⟨by simp [main, rests.1, unseeded], by simp [turns, rests.2]⟩

/-- Every section of a turn is paid for. -/
theorem paced_of_section (linked : system.Linked)
    (order : Hosted.System.InOrder capacity moves system.host told)
    (made : Section system move result) :
    Paced system result.1 move (system.deed? move) (result.2.countP Event.isExhausted) := by
  have quiet (happened : List Hosted.Event) :
      (happened.map Event.host).countP Event.isExhausted = 0 := by
    simp [List.countP_eq_zero, Event.isExhausted]
  cases made with
  | began runner idle due =>
    refine ⟨?_, ?_⟩
    · change 0 + (progressIn (⟨runner, .claiming⟩ :: system.turns) .main).isSome.toNat = _
      rw [mainTurns_cons idle]
      exact Nat.zero_add _
    · change 1 + _ = 0 + 0 + countIn Progress.isClaiming (⟨runner, .claiming⟩ :: system.turns)
      rw [countIn_cons]
      simp [Progress.isClaiming, Nat.add_comm]
  | exhausted runner found empty =>
    exact paced_of_turn linked found rfl (by simp [deedOf?, empty, Event.isExhausted])
      (by simp [deedOf?, empty, Event.isExhausted, Progress.isClaiming])
  | claimed runner found left =>
    exact paced_of_turn linked found rfl (by simp [deedOf?, left])
      (by simp [deedOf?, left, Progress.isClaiming, Deed.claims])
  | offered runner found held =>
    exact paced_of_turn linked found rfl rfl rfl
  | counted runner answer found =>
    cases answer <;> exact paced_of_turn linked found rfl rfl rfl
  | signalled runner found => exact paced_of_turn linked found rfl rfl rfl
  | chained chains found seeding =>
    have dropped := countIn_dropIn linked.distinct Progress.isClaiming found
    have ended := mainTurns_dropIn found
    rw [deed_of_found found]
    refine ⟨?_, ?_⟩
    · change 1 + (progressIn (dropIn system.turns .main) .main).isSome.toNat = _ + 0 + 0 + 0
      omega
    · change 0 + _ = 0 + 0 + countIn Progress.isClaiming (dropIn system.turns .main)
      simpa [Progress.isClaiming, Nat.zero_add] using dropped.symm
  | hosted own host happened plain stepped =>
    obtain ⟨main, turns⟩ := turns_of_heard linked
      (heard_of_step linked order stepped plain.begins_nothing)
    rw [quiet]
    exact paced_of_rest main turns ⟨rfl, rfl⟩
  | finished own task host happened ends ended stepped =>
    have heard := heard_of_step linked order stepped ends.begins_nothing
    obtain ⟨main, turns⟩ := turns_of_heard linked heard
    have spent : system.progress? (.task task) = some .spent := by simpa [isOver] using ended
    have dropped := countIn_dropIn (linked.of_heard heard).distinct Progress.isClaiming
      (progress?_of_heard heard spent (by simp))
    rw [quiet]
    refine paced_of_rest ?_ ?_ ⟨rfl, rfl⟩
    · rw [← main, mainTurns_eq, mainTurns_eq]
      change (progressIn (dropIn (system.noting host happened).turns
        (.task task)) .main).isSome.toNat = _
      rw [progressIn_dropIn, if_neg (by simp)]
    · rw [← turns]
      exact dropped
  | starting | stopping | closing | seeded | sawAll | joined | gaveUp | watched =>
    exact paced_of_rest rfl rfl ⟨rfl, rfl⟩

/-- The main thread sees every signal once. -/
theorem watched_of_section (linked : system.Linked)
    (order : Hosted.System.InOrder capacity moves system.host told)
    (made : Section system move result) : move.watches.toNat + system.seen ≤ result.1.seen := by
  have unseen {next : System} {host : Hosted.System} {answers : List (Nat × Dispatcher.Answer)}
      (heard : Heard system host answers next) : next.seen = system.seen := by
    cases heard <;> rfl
  cases made with
  | hosted own host happened plain stepped =>
    have same := unseen (heard_of_step linked order stepped plain.begins_nothing)
    exact Nat.le_of_eq ((Nat.zero_add _).trans same.symm)
  | finished own task host happened ends ended stepped =>
    have same := unseen (heard_of_step linked order stepped ends.begins_nothing)
    exact Nat.le_of_eq ((Nat.zero_add _).trans same.symm)
  | counted runner answer => cases answer <;> exact Nat.le_of_eq (Nat.zero_add _)
  | watched => exact Nat.le_of_eq (Nat.add_comm _ _)
  | joined main deserted =>
    change 0 + _ ≤ system.seen + system.unseen
    omega
  | _ => exact Nat.le_of_eq (Nat.zero_add _)

/-- The moves that were made are paid for. -/
structure Paid (threads : Nat) (made : List Move) (system : System)
    (deeds : List (Runner × Deed)) (events : List Event) : Prop where
  worked : made.countP Move.goesOn + system.host.load + system.main.load ≤
    62 + 2 * threads + 117 * done Deed.offers deeds
  advanced : made.countP Move.advances + system.mainTurns =
    deeds.length + events.countP Event.isExhausted + seeds made
  begun : made.countP Move.begins = done Deed.claims deeds + events.countP Event.isExhausted +
    countIn Progress.isClaiming system.turns
  watched : made.countP Move.watches ≤ system.seen

namespace Paid

/-- Nothing has to be paid for at the beginning. -/
theorem fresh (capacity threads queueCapacity loops chains : Nat)
    (idleTimeout : Option Duration.Millis) : Paid threads []
      (.fresh (.fresh (.fresh capacity idleTimeout) (.fresh threads queueCapacity)) loops chains)
      [] [] where
  worked := by
    simp [System.fresh, Hosted.System.fresh, Hosted.System.load, Dispatcher.System.load_fresh,
      Pool.System.load_fresh, Main.load]
    omega
  advanced := rfl
  begun := rfl
  watched := Nat.le_refl _

/-- Every section is paid for. -/
theorem of_section (paid : Paid threads made system deeds events) (linked : system.Linked)
    (order : Hosted.System.InOrder capacity moves system.host told)
    (section_made : Section system move result) :
    Paid threads (made ++ [move]) result.1 (deeds ++ (system.deed? move).toList)
      (events ++ result.2) := by
  have one (kind : Move → Bool) : (made ++ [move]).countP kind =
      made.countP kind + (kind move).toNat := by
    rw [List.countP_append, Counting.countP_cons]
    simp
  have offers := done_append Deed.offers deeds (system.deed? move)
  have claims := done_append Deed.claims deeds (system.deed? move)
  have worked := worked_of_section linked order section_made
  have paced := paced_of_section linked order section_made
  have advanced := paced.advanced
  have begun := paced.begun
  refine ⟨?_, ?_, ?_, ?_⟩
  · have before := paid.worked
    rw [one, offers]
    omega
  · have before := paid.advanced
    rw [one, seeds, List.count_append, List.countP_append, List.length_append, ← seeds, ← seeds]
    omega
  · have before := paid.begun
    rw [one, claims, List.countP_append]
    omega
  · have before := paid.watched
    rw [one]
    have seen := watched_of_section linked order section_made
    omega

end Paid

/-- The deeds are those of four kinds. -/
theorem length_deeds (deeds : List (Runner × Deed)) : deeds.length =
    done Deed.claims deeds + done Deed.offers deeds + done (Deed.counts fun _ => true) deeds +
      done Deed.signals deeds :=
  Counting.length_split _ _ _ _ deeds fun deed => by
    obtain ⟨runner, deed⟩ := deed
    cases deed <;> rfl

/-- The moves are those of four kinds. -/
theorem length_moves (made : List Move) : made.length = made.countP Move.goesOn +
    made.countP Move.advances + made.countP Move.begins + made.countP Move.watches :=
  Counting.length_split _ _ _ _ made fun move => by cases move <;> rfl

/-- Who is about to take from the budget has a live step. -/
theorem countIn_claiming_le (linked : system.Linked) (seated : system.Seated) :
    countIn Progress.isClaiming system.turns ≤ system.live.length := by
  have inside : (system.turns.filter fun turn => turn.progress.isClaiming).map Turn.runner ⊆
      system.live := by
    intro runner listed
    obtain ⟨turn, member, rfl⟩ := List.mem_map.mp listed
    obtain ⟨held, claiming⟩ := List.mem_filter.mp member
    have found : system.progress? turn.runner = some turn.progress :=
      progressIn_of_mem linked.distinct held
    refine List.mem_append_right _ (List.mem_filter.mpr ⟨mem_runners_of_found seated found, ?_⟩)
    rw [isAlive, found]
    cases progress : turn.progress <;> simp_all [Progress.isClaiming, Progress.holds]
  have distinct : ((system.turns.filter fun turn => turn.progress.isClaiming).map
      Turn.runner).Nodup := linked.distinct.sublist (List.filter_sublist.map _)
  have short := (distinct.subperm inside).length_le
  rwa [List.length_map, ← List.countP_eq_length_filter] at short

/-- No more chains are begun than there are. -/
theorem seeded_le_chains (seated : system.Seated) {seeded exhausted : Nat}
    (chained : Chained seeded exhausted system) : seeded ≤ system.chains := by
  have begun := chained.seeded
  cases found : system.progress? .main with
  | none =>
    rw [mainTurns, found] at begun
    exact Nat.le_of_add_right_le (Nat.le_of_eq begun)
  | some progress =>
    obtain ⟨left, seeding⟩ := seated.turns .main progress found
    rw [mainTurns, found, seeding] at begun
    simp [Main.unseeded] at begun
    omega

/-- A load run is not longer than its settings allow. -/
theorem length_le (paid : Paid threads made system deeds events)
    (order : InOrder capacity loops system deeds events) (housed : system.host.Housed)
    (sound : system.host.Sound)
    (chained : Chained (seeds made) (events.countP Event.isExhausted) system) :
    made.length ≤ 123 * loops + 3 * system.chains + 2 * threads + 62 := by
  have kinds := length_moves made
  have worked := paid.worked
  have advanced := paid.advanced
  have begun := paid.begun
  have watched := paid.watched
  have deeds := length_deeds deeds
  have offered := order.flows.offered
  have counted := order.flows.counted
  have signalled := order.flows.signalled
  have claimed := order.counted.claimed
  have sent := order.counted.sent
  have live := length_live chained order.linked order.seated housed sound
  have claiming := countIn_claiming_le order.linked order.seated
  have few := seeded_le_chains order.seated chained
  unfold Passes at offered counted signalled
  omega

end System

end Standby.LoadRun
