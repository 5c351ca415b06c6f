import Standby.Proofs.Dispatcher.Docket

/-!
# The accounts of a dispatcher

What a dispatcher counts always balances with what has happened, if the counts that are
still to be made are added: by calls that are about to count an offer or a loop, and by
workers that are about to count a failed task or their own departure. A task counts as
accepted as soon as a worker holds it, so no count is ever outstanding there.
-/

namespace Standby.Dispatcher

open Duration (Millis)

namespace Call

/-- An offer that has not been counted. -/
def uncounted : Call → Nat
  | .entering (.offer _) | .submitting _ _ | .countingSpawned _ _ | .countingRefused _ _ _
  | .countingDeclined _ => 1
  | _ => 0

/-- An offer that has created a worker loop and has not counted that. -/
def loopUncounted : Call → Nat
  | .submitting _ _ | .countingSpawned _ _ | .countingRefused _ _ _ => 1
  | _ => 0

/-- Only an offer can still have to be counted. -/
theorem weighsOffers_uncounted : WeighsOffers uncounted := by
  intro call plain
  cases call with
  | entering request => cases request <;> first | rfl | cases plain
  | _ => first | rfl | cases plain

/-- Only an offer can have created a loop that is not counted. -/
theorem weighsOffers_loopUncounted : WeighsOffers loopUncounted := by
  intro call plain
  cases call <;> first | rfl | cases plain

end Call

/-- What a worker at this stage still has to count. -/
def Stage.owed? : Stage → Option Count
  | .serving _ _ (.failed _ _) => some .taskFailures
  | .announcing (.idle _) | .counting _ => some .idleRetired
  | _ => none

/-- A worker at this stage still has to count this. -/
def Stage.owes (count : Count) (stage : Stage) : Bool := stage.owed? == some count

/-- A failed task was counted and is about to be reported. -/
def Stage.isReporting : Stage → Bool
  | .serving _ _ (.reporting _ _) => true
  | _ => false

namespace Event

/-- What this event makes a worker count. -/
def incurs (count : Count) : Event → Bool
  | .ended _ _ (.failed _) => count = .taskFailures
  | .withdrawn _ => count = .idleRetired
  | _ => false

/-- A failed task was reported. -/
def isFaulted : Event → Bool
  | .faulted _ _ => true
  | _ => false

/-- A worker has given its task back. -/
def isFinished : Event → Bool
  | .finished _ _ => true
  | _ => false

/-- Only what a worker does makes a worker count. -/
theorem incurs_of_quiet {event : Event} (quiet : event.actor? = none) (count : Count) :
    event.incurs count = false := by
  cases event <;> first | rfl | cases quiet

/-- An event that tells of no worker is no report. -/
theorem isFaulted_of_quiet {event : Event} (quiet : event.actor? = none) :
    event.isFaulted = false := by
  cases event <;> first | rfl | cases quiet

end Event

/-- How many of the workers have come to a certain kind of stage changes with the one that
advances, if neither a new loop nor the word to retire makes a difference. -/
theorem Crew.countP {system next : System} {events : List Event} {own : Bool}
    (crew : Crew system next events own) (kind : Stage → Bool) (new : kind .queued = false)
    (told : ∀ idleTimeout duty,
      kind (.serving idleTimeout (some .retire) duty) = kind (.serving idleTimeout none duty)) :
    (next.workers.countP (kind ·.stage) = system.workers.countP (kind ·.stage) ∧
        (∀ event ∈ events, event.actor? = none) ∧
        ∀ count, count.isOfWorkers = true →
          next.tally.get count = system.tally.get count) ∨
      ∃ number epoch before after,
        Advance system.roster number epoch own before after events ∧
          next.workers.countP (kind ·.stage) + (kind before).toNat =
            system.workers.countP (kind ·.stage) + (kind after).toNat ∧
          ∀ count, count.isOfWorkers = true → next.tally.get count =
            system.tally.get count + (own && before.counts count).toNat := by
  cases crew with
  | same workers _ quiet tally => exact .inl ⟨by rw [workers], quiet, tally⟩
  | created workers _ quiet tally =>
    refine .inl ⟨?_, quiet, fun count _ => by rw [tally]⟩
    simp [workers, new]
  | told workers _ _ quiet tally =>
    refine .inl ⟨?_, quiet, fun count _ => by rw [tally]⟩
    rw [workers]
    refine Counting.countP_mapIdx _ _ _ _ fun number worker found => ?_
    rcases system.roster.tell_cases number worker with
      same | ⟨epoch, idleTimeout, duty, rfl, informed⟩
    · rw [same]
    · rw [informed]
      exact told idleTimeout duty
  | advanced number epoch before after change found workers changed _ advance tally =>
    refine .inr ⟨number, epoch, before, after, advance, ?_, tally⟩
    have counted := Counting.countP_modify (kind ·.stage) change system.workers number _ found
    rw [changed, ← workers] at counted
    exact counted

namespace Advance

variable {roster : Roster} {number : WorkerId} {epoch : Nat} {own : Bool} {before after : Stage}
  {events : List Event}

/-- What a worker incurs it goes on to count. -/
theorem incurred (advance : Advance roster number epoch own before after events) (count : Count) :
    (own && before.counts count).toNat + (after.owes count).toNat =
      (before.owes count).toNat + events.countP (·.incurs count) := by
  cases advance with
  | claimed task idleTimeout duty => cases duty <;> cases count <;> rfl
  | began task idleTimeout duty waits | told idleTimeout duty waits =>
    rcases waits with rfl | rfl <;> rfl
  | ended task idleTimeout slot outcome => cases outcome <;> cases count <;> rfl
  | _ => cases count <;> rfl

/-- A failed task that was counted goes on to be reported. -/
theorem faulted (advance : Advance roster number epoch own before after events) :
    (own && before.counts .taskFailures).toNat + before.isReporting.toNat =
      after.isReporting.toNat + events.countP Event.isFaulted := by
  cases advance with
  | claimed task idleTimeout duty => cases duty <;> rfl
  | began task idleTimeout duty waits | told idleTimeout duty waits =>
    rcases waits with rfl | rfl <;> rfl
  | ended task idleTimeout slot outcome => cases outcome <;> rfl
  | _ => rfl

end Advance

namespace System

variable {capacity : Nat} {system next : System} {events : List Event}

/-- The balances between what was counted and what has happened. -/
structure Accounts (system : System) (events : List Event) : Prop where
  /-- Every offer was accepted or declined, or is still to be counted, or was broken off before
  that. -/
  offers : system.tally.accepted + system.tally.declined + system.calls.total Call.uncounted +
    events.countP Event.leavesUncounted = events.countP Event.isOffered
  /-- Every loop was taken or refused by the executor, or is still to be counted, or the offer
  that created it was broken off before that. -/
  loops : system.tally.spawned + system.tally.spawnFailures +
    system.calls.total Call.loopUncounted + events.countP Event.leavesUncounted =
      system.workers.length
  created : events.countP Event.isCreated = system.workers.length
  /-- Every accepted task was given back or is pending. -/
  accepted : system.tally.accepted = system.roster.pending + events.countP Event.isFinished
  /-- What workers count is counted once each time, or still to be counted. -/
  incurred : ∀ count, count.isOfWorkers = true →
    system.tally.get count + system.workers.countP (·.stage.owes count) =
      events.countP (·.incurs count)
  /-- Every failed task that was counted is reported, or its report has not come back. -/
  reported : system.tally.taskFailures =
    events.countP Event.isFaulted + system.workers.countP (·.stage.isReporting)

namespace Accounts

/-- What a section does to the counts of offers. -/
theorem offers_of_docket (docket : Docket system next events) :
    next.tally.accepted + next.tally.declined + next.calls.total Call.uncounted +
        events.countP Event.leavesUncounted =
      system.tally.accepted + system.tally.declined + system.calls.total Call.uncounted +
        events.countP Event.isOffered := by
  cases docket with
  | begun request weigh tally loops said =>
    rw [tally, weigh, said, List.countP_singleton, List.countP_singleton]
    cases request <;> simp [Call.uncounted, Event.isOffered, Event.leavesUncounted]
    omega
  | kept weigh tally loops quiet =>
    have accepted : next.tally.accepted = system.tally.accepted := tally .accepted rfl
    have declined : next.tally.declined = system.tally.declined := tally .declined rfl
    obtain ⟨offered, -, broken⟩ := Event.countP_of_minor quiet
    rw [offered, broken, accepted, declined, weigh _ Call.weighsOffers_uncounted]
  | @brokenOff call stage loop? has weigh tally loops said =>
    have removed := weigh Call.uncounted
    rw [tally, said, List.countP_singleton, List.countP_singleton]
    cases stage <;> cases has <;>
      simp [Call.uncounted, Event.isOffered, Event.leavesUncounted] at removed ⊢ <;> omega
  | @advanced before after count? created course weigh tally loops quiet grown =>
    have offered : events.countP Event.isOffered = 0 :=
      List.countP_eq_zero.mpr fun event held => by simp [(quiet event held).1]
    have broken : events.countP Event.leavesUncounted = 0 :=
      List.countP_eq_zero.mpr fun event held => by simp [(quiet event held).2]
    have changed := weigh _ Call.weighsOffers_uncounted
    rw [tally, offered, broken, Nat.add_zero, Nat.add_zero]
    cases course with
    | plain _ _ offers still =>
      rw [Call.weighsOffers_uncounted before offers, Call.weighsOffers_uncounted.after still]
        at changed
      exact congrArg _ changed
    | turnedDown fallsBack | declined fallsBack =>
      cases fallsBack <;>
        simp [Call.declined?, Call.uncounted, Tally.add, Tally.of, Tally.get] at * <;> omega
    | _ =>
      simp [Call.uncounted, Tally.add, Tally.of, Tally.get] at *
      omega

/-- What a section does to the counts of loops. -/
theorem loops_of_docket (docket : Docket system next events) :
    next.tally.spawned + next.tally.spawnFailures + next.calls.total Call.loopUncounted +
        events.countP Event.leavesUncounted + system.workers.length =
      system.tally.spawned + system.tally.spawnFailures +
        system.calls.total Call.loopUncounted + next.workers.length := by
  cases docket with
  | begun request weigh tally loops said =>
    rw [tally, weigh, loops, said]
    rfl
  | kept weigh tally loops quiet =>
    have spawned : next.tally.spawned = system.tally.spawned := tally .spawned rfl
    have failures : next.tally.spawnFailures = system.tally.spawnFailures :=
      tally .spawnFailures rfl
    obtain ⟨-, -, broken⟩ := Event.countP_of_minor quiet
    rw [loops, broken, spawned, failures, weigh _ Call.weighsOffers_loopUncounted, Nat.add_zero]
  | @brokenOff call stage loop? has weigh tally loops said =>
    have removed := weigh Call.loopUncounted
    rw [tally, loops, said, List.countP_singleton]
    cases stage <;> cases has <;>
      simp [Call.loopUncounted, Event.leavesUncounted] at removed ⊢ <;> omega
  | @advanced before after count? created course weigh tally loops quiet grown =>
    have broken : events.countP Event.leavesUncounted = 0 :=
      List.countP_eq_zero.mpr fun event held => by simp [(quiet event held).2]
    have changed := weigh _ Call.weighsOffers_loopUncounted
    rw [tally, loops, broken, Nat.add_zero]
    cases course with
    | plain _ _ offers still =>
      rw [Call.weighsOffers_loopUncounted before offers,
        Call.weighsOffers_loopUncounted.after still] at changed
      simp at changed ⊢
      omega
    | turnedDown fallsBack | declined fallsBack =>
      cases fallsBack <;>
        simp [Call.declined?, Call.loopUncounted, Tally.add, Tally.of, Tally.get] at * <;> omega
    | _ =>
      simp [Call.loopUncounted, Tally.add, Tally.of, Tally.get] at *
      omega

/-- A section creates the loops that its events tell of. -/
theorem created_of_docket (docket : Docket system next events) :
    next.workers.length = system.workers.length + events.countP Event.isCreated := by
  cases docket with
  | begun request weigh tally loops said => rw [loops, said]; rfl
  | kept weigh tally loops quiet =>
    rw [loops, (Event.countP_of_minor quiet).2.1]
    rfl
  | brokenOff call has weigh tally loops said =>
    rw [loops, said]
    rfl
  | advanced course weigh tally loops quiet grown => rw [loops, grown]

/-- A task is given back when its worker no longer counts as one with a task. -/
theorem pending_of_section (order : InOrder capacity system) {move : Move}
    {result : System × List Event} (made : Section system move result) :
    result.1.tally.accepted + system.roster.pending =
      system.tally.accepted + result.1.roster.pending + result.2.countP Event.isFinished := by
  have census := order.census
  cases made with
  | turnedDown call fallsBack | declined call fallsBack => cases fallsBack <;> rfl
  | claimed call fallsBack number remaining found =>
    show system.tally.accepted + 1 + system.roster.pending =
      system.tally.accepted + (system.roster.pending + 1)
    omega
  | counted call fallsBack count event stage found answered =>
    rcases answered with ⟨_, _, rfl, rfl⟩ | ⟨_, _, _, rfl, rfl⟩ <;> rfl
  | stopBegun call | looked call =>
    unfold awaitLastWorker
    split <;> rfl
  | parkedAgain number idleTimeout slot task found =>
    obtain rfl := (census.orderly_of_found found).placed.slot_eq_none rfl
    have counted := census.pending_pos found rfl
    show system.tally.accepted + system.roster.pending =
      system.tally.accepted + (system.roster.pending - 1) + 1
    omega
  | leftAfterTask number epoch idleTimeout slot task found =>
    obtain rfl := (census.orderly_of_found found).placed.slot_eq_none rfl
    have counted := census.pending_pos found rfl
    show system.tally.accepted + system.roster.pending =
      system.tally.accepted + (system.roster.pending - 1) + 1
    omega
  | departed number epoch departure => cases departure <;> rfl
  | abandoned unused active =>
    rw [letGo_of_active active]
    dsimp only
    split <;> rfl
  | _ => rfl

/-- What a section does to a count of workers. -/
theorem incurred_of_crew {own : Bool} (crew : Crew system next events own) (count : Count)
    (counts : count.isOfWorkers = true) :
    next.tally.get count + next.workers.countP (·.stage.owes count) =
      system.tally.get count + system.workers.countP (·.stage.owes count) +
        events.countP (·.incurs count) := by
  rcases crew.countP (Stage.owes count) rfl (fun _ duty => by cases duty <;> rfl) with
    ⟨same, quiet, tally⟩ | ⟨number, epoch, before, after, advance, changed, tally⟩
  · have none : events.countP (·.incurs count) = 0 :=
      List.countP_eq_zero.mpr fun event held => by
        simp [Event.incurs_of_quiet (quiet event held)]
    rw [tally count counts, same, none]
    rfl
  · have counted := tally count counts
    have incurred := advance.incurred count
    omega

/-- What a section does to the reports of failed tasks. -/
theorem reported_of_crew {own : Bool} (crew : Crew system next events own) :
    next.tally.taskFailures + system.workers.countP (·.stage.isReporting) =
      system.tally.taskFailures + next.workers.countP (·.stage.isReporting) +
        events.countP Event.isFaulted := by
  rcases crew.countP Stage.isReporting rfl (fun _ duty => by cases duty <;> rfl) with
    ⟨same, quiet, tally⟩ | ⟨number, epoch, before, after, advance, changed, tally⟩
  · have none : events.countP Event.isFaulted = 0 :=
      List.countP_eq_zero.mpr fun event held => by
        simp [Event.isFaulted_of_quiet (quiet event held)]
    have failures : next.tally.taskFailures = system.tally.taskFailures :=
      tally .taskFailures rfl
    rw [failures, same, none]
    rfl
  · have failures : next.tally.taskFailures = system.tally.taskFailures +
        (own && before.counts .taskFailures).toNat := tally .taskFailures rfl
    have reported := advance.faulted
    omega

/-- A new dispatcher has counted nothing, and nothing has happened. -/
theorem fresh (capacity : Nat) (idleTimeout : Option Millis) :
    Accounts (.fresh capacity idleTimeout) [] where
  offers := rfl
  loops := rfl
  created := rfl
  accepted := rfl
  incurred count _ := by cases count <;> rfl
  reported := rfl

/-- Every section keeps the accounts in balance. -/
theorem of_section (accounts : system.Accounts events) (order : InOrder capacity system)
    {move : Move} {result : System × List Event} (made : Section system move result) :
    result.1.Accounts (events ++ result.2) := by
  have docket : Docket system result.1 result.2 := .of_section made
  obtain ⟨own, crew⟩ : ∃ own, Crew system result.1 result.2 own := ⟨_, crew_of_section made⟩
  exact
    { offers := by
        have before := accounts.offers
        have change := offers_of_docket docket
        rw [List.countP_append, List.countP_append]
        omega
      loops := by
        have before := accounts.loops
        have change := loops_of_docket docket
        rw [List.countP_append]
        omega
      created := by rw [List.countP_append, created_of_docket docket, accounts.created]
      accepted := by
        have before := accounts.accepted
        have change := pending_of_section order made
        rw [List.countP_append]
        omega
      incurred := by
        intro count counts
        have before := accounts.incurred count counts
        have change := incurred_of_crew crew count counts
        rw [List.countP_append]
        omega
      reported := by
        have before := accounts.reported
        have change := reported_of_crew crew
        rw [List.countP_append]
        omega }

end Accounts

/-- In every run the accounts balance. -/
theorem accounts_of_play {idleTimeout : Option Millis} {moves : List Move}
    {result : System × List Event}
    (run : (fresh capacity idleTimeout).play moves = some result) : result.1.Accounts result.2 :=
  (play_sections Accounts [] moves
    (fun _ _ _ _ _ order accounts made => accounts.of_section order made)
    (.fresh capacity idleTimeout) (.fresh capacity idleTimeout) run).2

end System

end Standby.Dispatcher
