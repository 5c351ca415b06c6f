import Standby.Proofs.Dispatcher.Conservation
import Standby.Proofs.Dispatcher.Passage

/-!
# Contention

Offers that come at the same time, in any interleaving of their sections, while nothing else
happens and the executor takes every worker loop without running it. What comes of them does
not depend on the order. Each offer is decided in one section, and the roster after so many
decisions is a function of the roster before them: the parked workers get the first tasks, and
each later offer creates a loop until the capacity is used up.

Which call gets which worker does depend on the order: the calls are served as they are decided.
The sections between a decision and the answer change nothing that another offer looks at.
-/

namespace Standby.Dispatcher

open Executor (Refusal)

/-- Somebody offers a task. -/
def Move.offers : Move → Bool
  | .invoke (.offer _) => true
  | _ => false

/-- The move belongs to an offer with this number or a later one, and the executor takes what it
is given. -/
def Move.contends (first : Nat) : Move → Bool
  | .invoke (.offer _) => true
  | .proceed call | .answer call none => first ≤ call
  | _ => false

namespace Call

/-- The call is an offer, and the executor has not refused its worker loop. -/
def contends : Call → Bool
  | .entering (.offer _) | .submitting _ _ | .countingSpawned _ _ | .countingDeclined _
  | .fallingBack => true
  | _ => false

/-- The call is an offer that was not decided. -/
def undecided : Call → Nat
  | .entering (.offer _) => 1
  | _ => 0

/-- Such a call serves an offer. -/
theorem serves_of_contends {call : Call} (contends : call.contends = true) :
    ∃ fallsBack, call.Serves (.offer fallsBack) := by
  cases call with
  | entering request =>
    cases request with
    | offer fallsBack => exact ⟨fallsBack, rfl⟩
    | _ => cases contends
  | submitting fallsBack | countingSpawned fallsBack | countingDeclined fallsBack =>
    exact ⟨fallsBack, rfl⟩
  | fallingBack => exact ⟨true, rfl⟩
  | _ => cases contends

end Call

namespace Event

/-- The worker that was given a task, and the task. -/
def claim? : Event → Option (WorkerId × Task)
  | .claimed worker task => some (worker, task)
  | _ => none

/-- The worker loop that was created. -/
def created? : Event → Option WorkerId
  | .created worker => some worker
  | _ => none

/-- The executor took a worker loop, and that was counted. -/
def isSubmitted : Event → Bool
  | .submitted _ => true
  | _ => false

end Event

namespace Roster

/-- How many worker loops so many offers create: one for each that finds nobody parked, as long
as the capacity has room. -/
def loops (roster : Roster) (capacity offers : Nat) : Nat :=
  min (offers - roster.available) (capacity - roster.reserved)

/-- The roster after so many offers were decided. -/
def afterOffers (roster : Roster) (capacity offers : Nat) : Roster :=
  { roster with
    parked := roster.parked.drop offers
    pending := roster.pending + min offers roster.available
    starting := roster.starting + roster.loops capacity offers }

variable {roster : Roster} {capacity offers : Nat}

/-- No offer leaves the roster as it is. -/
theorem afterOffers_zero (roster : Roster) (capacity : Nat) :
    roster.afterOffers capacity 0 = roster := by
  simp [afterOffers, loops]

/-- A worker that is given a task only moves within the capacity, and a loop uses it up. -/
theorem reserved_afterOffers :
    (roster.afterOffers capacity offers).reserved =
      roster.reserved + roster.loops capacity offers := by
  simp only [reserved, available, afterOffers, List.length_drop]
  omega

/-- While somebody is parked, an offer takes the first of them and creates no loop. -/
theorem afterOffers_claim {worker : WorkerId} {remaining : List WorkerId}
    (parked : (roster.afterOffers capacity offers).parked = worker :: remaining) :
    (roster.afterOffers capacity offers).claim remaining =
        roster.afterOffers capacity (offers + 1) ∧
      roster.loops capacity (offers + 1) = roster.loops capacity offers := by
  have listed : roster.parked.drop offers = worker :: remaining := parked
  have left : offers < roster.available := by
    have long := congrArg List.length listed
    rw [List.length_drop, List.length_cons] at long
    unfold available
    omega
  have same : roster.loops capacity (offers + 1) = roster.loops capacity offers := by
    unfold loops
    omega
  have rest : roster.parked.drop (offers + 1) = remaining := by
    rw [← List.tail_drop, listed, List.tail_cons]
  refine ⟨?_, same⟩
  unfold afterOffers claim
  rw [same, rest, Nat.min_eq_left (Nat.le_of_lt left), Nat.min_eq_left left]
  rfl

section Nobody

variable (nobody : (roster.afterOffers capacity offers).parked = [])
include nobody

/-- Once nobody is parked, further offers change nothing but the loops. -/
theorem afterOffers_succ :
    roster.afterOffers capacity (offers + 1) =
      { roster.afterOffers capacity offers with
        starting := roster.starting + roster.loops capacity (offers + 1) } := by
  have past : roster.available ≤ offers := List.drop_eq_nil_iff.mp nobody
  have rest : roster.parked.drop (offers + 1) = roster.parked.drop offers := by
    rw [List.drop_of_length_le past, List.drop_of_length_le (Nat.le_succ_of_le past)]
  unfold afterOffers
  rw [rest, Nat.min_eq_right past, Nat.min_eq_right (Nat.le_succ_of_le past)]

/-- With nobody parked and with room, an offer creates a loop. -/
theorem afterOffers_create (room : (roster.afterOffers capacity offers).reserved < capacity) :
    (roster.afterOffers capacity offers).announce = roster.afterOffers capacity (offers + 1) ∧
      roster.loops capacity (offers + 1) = roster.loops capacity offers + 1 := by
  have past : roster.available ≤ offers := List.drop_eq_nil_iff.mp nobody
  have more : roster.loops capacity (offers + 1) = roster.loops capacity offers + 1 := by
    rw [reserved_afterOffers] at room
    unfold loops at room ⊢
    omega
  refine ⟨?_, more⟩
  rw [afterOffers_succ nobody, more]
  rfl

/-- With nobody parked and without room, an offer changes nothing. -/
theorem afterOffers_full (full : capacity ≤ (roster.afterOffers capacity offers).reserved) :
    roster.afterOffers capacity (offers + 1) = roster.afterOffers capacity offers ∧
      roster.loops capacity (offers + 1) = roster.loops capacity offers := by
  have same : roster.loops capacity (offers + 1) = roster.loops capacity offers := by
    rw [reserved_afterOffers] at full
    unfold loops at full ⊢
    omega
  refine ⟨?_, same⟩
  rw [afterOffers_succ nobody, same]
  rfl

end Nobody

end Roster

namespace System

variable {capacity decided : Nat} {before system next : System} {events new : List Event}
variable {move : Move} {result : System × List Event} {call : Nat}

/-- What has come of contending offers when so many of them were decided. -/
structure Contended (before : System) (decided : Nat) (system : System) (events : List Event) :
    Prop where
  bounded : system.capacity = before.capacity
  roster : system.roster = before.roster.afterOffers before.capacity decided
  workers : system.workers.length =
    before.workers.length + before.roster.loops before.capacity decided
  given : before.calls.next ≤ system.calls.next
  /-- The calls that were there before stay as they were. -/
  others : ∀ call < before.calls.next, system.calls.get? call = before.calls.get? call
  newcomers : ∀ call stage, before.calls.next ≤ call → system.calls.get? call = some stage →
    stage.contends = true
  undecided : system.calls.total Call.undecided + decided =
    before.calls.total Call.undecided + events.countP Event.isOffered
  /-- The workers get their tasks in the order in which they were listed. -/
  claims : (events.filterMap Event.claim?).map Prod.fst = before.roster.parked.take decided
  accepted : (events.filterMap Event.claim?).map Prod.snd = events.filterMap Event.accepted?
  created : events.filterMap Event.created? =
    List.range' before.workers.length (before.roster.loops before.capacity decided)
  answered : events.countP Event.accepts + events.countP Event.declines +
    system.calls.total (fun _ => 1) =
      before.calls.total (fun _ => 1) + events.countP Event.isOffered
  submitted : events.countP Event.isSubmitted + system.calls.total Call.loopUncounted =
    before.calls.total Call.loopUncounted + before.roster.loops before.capacity decided

namespace Contended

/-- Nothing has happened yet. -/
theorem refl (before : System) : before.Contended 0 before [] where
  bounded := rfl
  roster := (before.roster.afterOffers_zero before.capacity).symm
  workers := by simp [Roster.loops]
  given := Nat.le_refl _
  others _ _ := rfl
  newcomers call stage late found := by
    cases (Register.get?_of_le before.calls late).symm.trans found
  undecided := rfl
  claims := rfl
  accepted := rfl
  created := by simp [Roster.loops]
  answered := Nat.zero_add _
  submitted := by simp [Roster.loops]

/-- A further offer comes. -/
theorem begin (contended : before.Contended decided system events) (fallsBack : Bool) :
    before.Contended decided
      { system with calls := system.calls.add (.entering (.offer fallsBack)) }
      (events ++ [.invoked system.calls.next (.offer fallsBack)]) where
  bounded := contended.bounded
  roster := contended.roster
  workers := contended.workers
  given := Nat.le_succ_of_le contended.given
  others call early := by
    rw [Register.get?_add, if_neg (Nat.ne_of_lt (Nat.lt_of_lt_of_le early contended.given))]
    exact contended.others call early
  newcomers call stage late found := by
    rw [Register.get?_add] at found
    split at found
    · cases found
      rfl
    · exact contended.newcomers call stage late found
  undecided := by
    have earlier := contended.undecided
    rw [Register.total_add, List.countP_append, List.countP_singleton]
    simp only [Call.undecided, Event.isOffered, if_true]
    omega
  claims := by
    rw [List.filterMap_append, List.map_append, contended.claims]
    exact List.append_nil _
  accepted := by
    rw [List.filterMap_append, List.map_append, contended.accepted, List.filterMap_append]
    rfl
  created := by
    rw [List.filterMap_append, contended.created]
    exact List.append_nil _
  answered := by
    have earlier := contended.answered
    rw [Register.total_add]
    simp only [List.countP_append, List.countP_singleton, Event.accepts, Event.declines,
      Event.isOffered, Bool.false_eq_true, if_true, if_false]
    omega
  submitted := by
    rw [Register.total_add]
    simpa [Event.isSubmitted, Call.loopUncounted] using contended.submitted

/-- One of the offers makes a section of its own, in which it may be decided and create a
loop. -/
theorem turn (contended : before.Contended decided system events) (further grown : Nat)
    {stage : Call} {after? : Option Call} (late : before.calls.next ≤ call)
    (replaced : Register.Replaced system.calls next.calls call stage after?)
    (decides : stage.undecided = further)
    (goesOn : ∀ later ∈ after?, later.contends = true ∧ later.undecided = 0)
    (bounded : next.capacity = system.capacity)
    (roster : next.roster = before.roster.afterOffers before.capacity (decided + further) ∧
      before.roster.loops before.capacity (decided + further) =
        before.roster.loops before.capacity decided + grown)
    (workers : next.workers.length = system.workers.length + grown)
    (quiet : new.countP Event.isOffered = 0)
    (claims : (new.filterMap Event.claim?).map Prod.fst = system.roster.parked.take further ∧
      (new.filterMap Event.claim?).map Prod.snd = new.filterMap Event.accepted?)
    (created : new.filterMap Event.created? = List.range' system.workers.length grown)
    (answered : new.countP Event.accepts + new.countP Event.declines +
      (after?.map fun _ => 1).getD 0 = 1)
    (submitted : new.countP Event.isSubmitted + (after?.map Call.loopUncounted).getD 0 =
      stage.loopUncounted + grown) :
    before.Contended (decided + further) next (events ++ new) where
  bounded := bounded.trans contended.bounded
  roster := roster.1
  workers := by
    rw [workers, contended.workers, roster.2]
    omega
  given := by
    rw [replaced.given]
    exact contended.given
  others other early := by
    rw [replaced.others other (Nat.ne_of_lt (Nat.lt_of_lt_of_le early late))]
    exact contended.others other early
  newcomers other held here found := by
    by_cases own : other = call
    · rw [own, replaced.own] at found
      exact (goesOn held found).1
    · rw [replaced.others other own] at found
      exact contended.newcomers other held here found
  undecided := by
    have earlier := contended.undecided
    have changed := replaced.weigh Call.undecided
    have finished : (after?.map Call.undecided).getD 0 = 0 := by
      cases after? with
      | none => rfl
      | some later => exact (goesOn later rfl).2
    rw [List.countP_append, quiet]
    omega
  claims := by
    rw [List.filterMap_append, List.map_append, contended.claims, claims.1, contended.roster,
      List.take_add]
    rfl
  accepted := by
    rw [List.filterMap_append, List.map_append, contended.accepted, claims.2,
      List.filterMap_append]
  created := by
    rw [List.filterMap_append, contended.created, created, contended.workers, roster.2,
      List.range'_append_1]
  answered := by
    have earlier := contended.answered
    have changed := replaced.weigh fun _ => 1
    simp only [List.countP_append, quiet]
    omega
  submitted := by
    have earlier := contended.submitted
    have changed := replaced.weigh Call.loopUncounted
    rw [List.countP_append, roster.2]
    omega

/-- A section of one of the offers decides it or brings it nearer to its answer. -/
theorem of_offerSection (contended : before.Contended decided system events)
    (running : before.roster.phase = .running) (late : before.calls.next ≤ call) {stage : Call}
    {fallsBack : Bool} (found : system.calls.get? call = some stage)
    (made : OfferSection system call fallsBack stage move result)
    (contends : move.contends before.calls.next = true) :
    ∃ further, before.Contended further result.1 (events ++ result.2) := by
  have roster := contended.roster
  have bounded := contended.bounded
  have still : system.roster = before.roster.afterOffers before.capacity (decided + 0) ∧
      before.roster.loops before.capacity (decided + 0) =
        before.roster.loops before.capacity decided + 0 := ⟨roster, rfl⟩
  have answered : ∀ later ∈ (none : Option Call),
      later.contends = true ∧ later.undecided = 0 := by simp
  have goesOn {stage : Call} (contends : stage.contends = true) (finished : stage.undecided = 0) :
      ∀ later ∈ some stage, later.contends = true ∧ later.undecided = 0 := by
    intro later same
    obtain rfl := Option.some.inj same
    exact ⟨contends, finished⟩
  cases made with
  | turnedDown reason =>
    have open_ : system.roster.phase = .running := by rw [roster]; exact running
    obtain ⟨nobody, full⟩ := reason.resolve_left (not_not_intro open_)
    rw [bounded] at full
    have same := Roster.afterOffers_full (by rw [← roster]; exact nobody)
      (by rw [← roster]; exact full)
    refine ⟨decided + 1, ?_⟩
    cases fallsBack with
    | true =>
      exact contended.turn 1 0 late (Register.replaced_put found .fallingBack) rfl
        (goesOn rfl rfl) rfl ⟨roster.trans same.1.symm, same.2⟩ rfl rfl
        ⟨by rw [nobody]; rfl, rfl⟩ rfl rfl rfl
    | false =>
      exact contended.turn 1 0 late (Register.replaced_remove found) rfl answered rfl
        ⟨roster.trans same.1.symm, same.2⟩ rfl rfl ⟨by rw [nobody]; rfl, rfl⟩ rfl rfl rfl
  | claimed worker remaining open_ parked ready =>
    have next := Roster.afterOffers_claim (by rw [← roster]; exact parked)
    refine ⟨decided + 1, ?_⟩
    refine contended.turn 1 0 late (Register.replaced_remove found) rfl answered rfl
      ⟨?_, next.2⟩ (List.length_modify ..) rfl ⟨by rw [parked]; rfl, rfl⟩ rfl rfl rfl
    rw [← roster] at next
    exact next.1
  | created open_ nobody room =>
    rw [bounded] at room
    have next := Roster.afterOffers_create (by rw [← roster]; exact nobody)
      (by rw [← roster]; exact room)
    refine ⟨decided + 1, ?_⟩
    refine contended.turn 1 1 late (Register.replaced_put found _) rfl (goesOn rfl rfl) rfl
      ⟨?_, next.2⟩ List.length_append rfl ⟨by rw [nobody]; rfl, rfl⟩ rfl rfl rfl
    rw [← roster] at next
    exact next.1
  | taken worker | spawned worker =>
    exact ⟨decided, contended.turn 0 0 late (Register.replaced_put found _) rfl (goesOn rfl rfl)
      rfl still rfl rfl ⟨rfl, rfl⟩ rfl rfl rfl⟩
  | refused | brokenOff => cases contends
  | spawnFailed worker refusal => cases contended.newcomers call _ late found
  | declined =>
    cases fallsBack with
    | true =>
      exact ⟨decided, contended.turn 0 0 late (Register.replaced_put found .fallingBack) rfl
        (goesOn rfl rfl) rfl still rfl rfl ⟨rfl, rfl⟩ rfl rfl rfl⟩
    | false =>
      exact ⟨decided, contended.turn 0 0 late (Register.replaced_remove found) rfl answered
        rfl still rfl rfl ⟨rfl, rfl⟩ rfl rfl rfl⟩
  | passedOn falls refusal =>
    cases refusal with
    | none =>
      exact ⟨decided, contended.turn 0 0 late (Register.replaced_remove found) rfl answered
        rfl still rfl rfl ⟨rfl, rfl⟩ rfl rfl rfl⟩
    | some refusal => cases contends

/-- Every section of a contending offer keeps to what comes of them. -/
theorem of_section (contended : before.Contended decided system events)
    (running : before.roster.phase = .running) (made : Section system move result)
    (contends : move.contends before.calls.next = true) :
    ∃ further, before.Contended further result.1 (events ++ result.2) := by
  have own {call : Nat} (own : move.isFor call = true) (late : before.calls.next ≤ call) :
      ∃ further, before.Contended further result.1 (events ++ result.2) := by
    obtain ⟨stage, found⟩ := found_of_own made own
    obtain ⟨fallsBack, offers⟩ :=
      Call.serves_of_contends (contended.newcomers call stage late found)
    exact contended.of_offerSection running late found
      (offerSection_of_section made own found offers)
      contends
  cases move with
  | invoke request =>
    cases request with
    | offer fallsBack =>
      cases made
      exact ⟨decided, contended.begin fallsBack⟩
    | _ => cases contends
  | proceed call => exact own (decide_eq_true rfl) (of_decide_eq_true contends)
  | answer call refusal =>
    cases refusal with
    | none => exact own (decide_eq_true rfl) (of_decide_eq_true contends)
    | some refusal => cases contends
  | _ => cases contends

/-- Every run of contending offers keeps to what comes of them. -/
theorem of_play (order : InOrder capacity before) (running : before.roster.phase = .running)
    {moves : List Move} (only : ∀ move ∈ moves, move.contends before.calls.next = true)
    (run : before.play moves = some result) :
    InOrder capacity result.1 ∧ ∃ decided, before.Contended decided result.1 result.2 := by
  let invariant (system : System) (events : List Event) : Prop :=
    ∃ decided, before.Contended decided system events
  refine play_sections invariant [] moves ?_ order ⟨0, .refl before⟩ run
  rintro move member system events result - ⟨decided, contended⟩ made
  exact contended.of_section running made (only move member)

/-- All offers can return, without any further one. -/
theorem finishes (contended : before.Contended decided system events)
    (order : InOrder capacity system) (running : before.roster.phase = .running) :
    ∃ rest last, (∀ move ∈ rest, move.contends before.calls.next = true ∧ move.offers = false) ∧
      system.play rest = some last ∧
        ∀ call, before.calls.next ≤ call → last.1.calls.get? call = none := by
  -- Every section of an offer brings it nearer to its answer, and no other call further from it.
  generalize measure : system.calls.total Call.ahead = ahead
  induction ahead using Nat.strongRecOn generalizing decided system events with
  | ind ahead inductionHypothesis =>
    by_cases settled : ∀ call, before.calls.next ≤ call → system.calls.get? call = none
    · exact ⟨[], (system, []), by simp, rfl, settled⟩
    · push Not at settled
      obtain ⟨call, late, present⟩ := settled
      obtain ⟨stage, found⟩ := Option.ne_none_iff_exists'.mp present
      obtain ⟨fallsBack, offers⟩ :=
        Call.serves_of_contends (contended.newcomers call stage late found)
      obtain ⟨move, listed, next, stepped⟩ := goesOn_of_offer found offers
      obtain ⟨own, contends⟩ :
          move.isFor call = true ∧ move.contends before.calls.next = true := by
        rcases List.mem_pair.mp listed with rfl | rfl <;>
          simp [Move.isFor, Move.contends, late]
      have made : Section system move next := section_of_step order.parkedReady stepped
      obtain ⟨after?, replaced, nearer⟩ :=
        (offerSection_of_section made own found offers).replaced found
      obtain ⟨further, still⟩ := contended.of_section running made contends
      have weighed := replaced.weigh Call.ahead
      obtain ⟨rest, last, only, played, settled⟩ :=
        inductionHypothesis (next.1.calls.total Call.ahead) (by omega) still
          (order.of_section made) rfl
      have silent : move.offers = false := by
        cases move with
        | invoke => cases own
        | _ => rfl
      refine ⟨move :: rest, (last.1, next.2 ++ last.2), ?_,
        play_cons_eq_some.mpr ⟨next, last, stepped, played, rfl⟩, settled⟩
      rintro other member
      rcases List.mem_cons.mp member with rfl | later
      · exact ⟨contends, silent⟩
      · exact only other later

end Contended

/-- An offer is told of when it comes, and only then. -/
theorem offered_of_section (made : Section system move result) :
    result.2.countP Event.isOffered = move.offers.toNat := by
  by_cases begun : ∃ request, move = .invoke request
  · obtain ⟨request, rfl⟩ := begun
    cases made
    cases request <;> rfl
  · have none : result.2.filterMap Event.begun? = [] :=
      begun_of_section made fun request same => begun ⟨request, same⟩
    have still : move.offers = false := by
      cases move with
      | invoke request => exact absurd ⟨request, rfl⟩ begun
      | _ => rfl
    rw [still]
    refine List.countP_eq_zero.mpr fun event held offered => ?_
    cases event with
    | invoked call request => cases List.filterMap_eq_nil_iff.mp none _ held
    | _ => cases offered

/-- As many offers are told of in a run as come in it. -/
theorem offered_of_play (order : InOrder capacity system) {moves : List Move}
    (run : system.play moves = some result) :
    result.2.countP Event.isOffered = moves.countP Move.offers := by
  induction moves generalizing system result with
  | nil =>
    obtain rfl := Option.some.inj run
    rfl
  | cons move moves inductionHypothesis =>
    obtain ⟨first, rest, stepped, played, rfl⟩ := play_cons_eq_some.mp run
    have made : Section system move first := section_of_step order.parkedReady stepped
    rw [List.countP_append, offered_of_section made,
      inductionHypothesis (order.of_section made) played, Counting.countP_cons, Nat.add_comm]

/-- What comes of so many offers when all of them have returned. -/
structure Yields (before : System) (count : Nat) (last : System) (told : List Event) : Prop where
  accepted : told.countP Event.accepts = min count before.roster.available
  /-- The workers that were parked get a task each, in the order in which they were listed. -/
  claimed : (told.filterMap Event.claim?).map Prod.fst = before.roster.parked.take count
  distinct : ((told.filterMap Event.claim?).map Prod.fst).Nodup
  /-- The tasks that they get are those of the accepted calls. -/
  tasks : (told.filterMap Event.claim?).map Prod.snd = told.filterMap Event.accepted?
  declined : told.countP Event.declines = count - min count before.roster.available
  submitted : told.countP Event.isSubmitted =
    min (count - min count before.roster.available)
      (before.capacity -
        (before.roster.available + before.roster.pending + before.roster.starting))
  /-- The loops that are submitted are new. -/
  created : told.filterMap Event.created? =
    List.range' before.workers.length (told.countP Event.isSubmitted)
  available : last.roster.available =
    before.roster.available - min count before.roster.available
  pending : last.roster.pending = before.roster.pending + min count before.roster.available
  starting : last.roster.starting = before.roster.starting + told.countP Event.isSubmitted
  /-- Nothing else under the lock has changed, and no other call. -/
  rest : last.roster = { before.roster with
    parked := last.roster.parked
    pending := last.roster.pending
    starting := last.roster.starting }
  others : ∀ call, last.calls.get? call = before.calls.get? call

/-- What comes of contending offers does not depend on the order of their sections. -/
structure OrderFree (before : System) (count : Nat) (last : System) (told : List Event) : Prop where
  /-- At every moment the roster only depends on how many offers were decided. -/
  throughout : ∃ decided, last.roster = before.roster.afterOffers before.capacity decided ∧
    last.calls.total Call.undecided + decided = before.calls.total Call.undecided + count
  /-- All offers can return, without any further one. -/
  finishes : ∃ rest final,
    (∀ move ∈ rest, move.contends before.calls.next = true ∧ move.offers = false) ∧
      last.play rest = some final ∧
        ∀ call, before.calls.next ≤ call → final.1.calls.get? call = none
  /-- When all of them have returned, the outcome is settled. -/
  settled : (∀ call, before.calls.next ≤ call → last.calls.get? call = none) →
    before.Yields count last told

/-- When all offers have returned, all of them were decided. -/
theorem Contended.outcome (contended : before.Contended decided system events)
    (order : InOrder capacity before)
    (settled : ∀ call, before.calls.next ≤ call → system.calls.get? call = none) :
    before.Yields (events.countP Event.isOffered) system events := by
  have others (call : Nat) : system.calls.get? call = before.calls.get? call := by
    by_cases early : call < before.calls.next
    · exact contended.others call early
    · have late : before.calls.next ≤ call := Nat.le_of_not_lt early
      rw [settled call late, Register.get?_of_le _ late]
  have weighs (weight : Call → Nat) : system.calls.total weight = before.calls.total weight :=
    Register.total_congr weight others
  obtain rfl : decided = events.countP Event.isOffered := by
    have counted := contended.undecided
    rw [weighs] at counted
    omega
  have accepted : events.countP Event.accepts =
      min (events.countP Event.isOffered) before.roster.available := by
    rw [← length_accepted, ← contended.accepted, List.length_map,
      ← List.length_map (f := Prod.fst), contended.claims, List.length_take]
    rfl
  have declined : events.countP Event.declines = events.countP Event.isOffered -
      min (events.countP Event.isOffered) before.roster.available := by
    have counted := contended.answered
    rw [weighs] at counted
    omega
  have loops : events.countP Event.isSubmitted =
      before.roster.loops before.capacity (events.countP Event.isOffered) := by
    have counted := contended.submitted
    rw [weighs] at counted
    omega
  have submitted : events.countP Event.isSubmitted =
      min (events.countP Event.isOffered -
          min (events.countP Event.isOffered) before.roster.available)
        (before.capacity -
          (before.roster.available + before.roster.pending + before.roster.starting)) := by
    rw [loops]
    unfold Roster.loops Roster.reserved
    omega
  have available : system.roster.available = before.roster.available -
      min (events.countP Event.isOffered) before.roster.available := by
    rw [contended.roster]
    simp only [Roster.available, Roster.afterOffers, List.length_drop]
    omega
  have distinct : ((events.filterMap Event.claim?).map Prod.fst).Nodup := by
    rw [contended.claims]
    exact order.census.distinct.sublist (List.take_sublist _ _)
  exact
    { accepted, declined, submitted, available, others, distinct
      claimed := contended.claims
      tasks := contended.accepted
      created := by rw [loops, contended.created]
      pending := by rw [contended.roster]; rfl
      starting := by rw [loops, contended.roster]; rfl
      rest := by rw [contended.roster]; rfl }

/-- After every run, whatever offers then contend, what comes of them does not depend on the
order of their sections. -/
theorem play_orderFree (capacity : Nat) (idleTimeout : Option Duration.Millis)
    (moves : List Move) (system : System) (events : List Event)
    (run : (fresh capacity idleTimeout).play moves = some (system, events))
    (running : system.roster.phase = .running) (contest : List Move)
    (only : ∀ move ∈ contest, move.contends system.calls.next = true) (last : System)
    (told : List Event) (played : system.play contest = some (last, told)) :
    system.OrderFree (contest.countP Move.offers) last told := by
  have order : InOrder capacity system := inOrder_of_play run
  obtain ⟨ordered, decided, contended⟩ := Contended.of_play order running only played
  rw [← offered_of_play order played]
  exact
    { throughout := ⟨decided, contended.roster, contended.undecided⟩
      finishes := contended.finishes ordered running
      settled := contended.outcome order }

/-- Of three worker loops that have room, two have registered. One of the two has a task. -/
def oneOfTwo : List Move :=
  [.invoke .start, .proceed 0, .invoke (.offer false), .proceed 1, .invoke (.offer false),
    .proceed 2, .answer 2 none, .answer 1 none, .proceed 1, .proceed 2, .proceed 1, .proceed 2,
    .launch 0, .launch 1, .invoke (.offer false), .proceed 3]

/-- Three offers come. The second is decided first and gets the worker, the third creates a loop,
and the first finds no room and passes its task on. -/
def threeOffers : List Move :=
  [.invoke (.offer true), .invoke (.offer false), .proceed 5, .invoke (.offer false), .proceed 6,
    .proceed 4, .answer 6 none, .answer 4 none, .proceed 6, .proceed 6]

/-- Three contending offers fill the dispatcher, with one task accepted and one loop created. -/
theorem threeOffers_orderFree :
    ∃ system events last told, (fresh 3 none).play oneOfTwo = some (system, events) ∧
      system.roster.phase = .running ∧
      (∀ move ∈ threeOffers, move.contends system.calls.next = true) ∧
      system.play threeOffers = some (last, told) ∧ last.calls.isEmpty = true ∧
      last.roster.reserved = 3 ∧ system.OrderFree (threeOffers.countP Move.offers) last told :=
  have only : ∀ move ∈ threeOffers, move.contends 4 = true := by decide
  ⟨_, _, _, _, rfl, rfl, only, rfl, rfl, rfl,
    play_orderFree 3 none oneOfTwo _ _ rfl rfl threeOffers only _ _ rfl⟩

end System

end Standby.Dispatcher
