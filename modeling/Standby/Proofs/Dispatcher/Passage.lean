import Standby.Proofs.Dispatcher.Exchange
import Standby.Proofs.Dispatcher.Origin

/-!
# The passage of a call

What one call has to do with a section. A section is made for one call, or for none. All
other calls are bystanders: they stay at their stage and are told nothing, except that a
sleeping one wakes when somebody announces.

An offer passes through few sections of its own. They are listed here, each with the stage
at which the offer enters it, so a proof about offers need not look through the sections of
other calls and of workers.
-/

namespace Standby.Dispatcher

open Duration (Millis)
open Executor (Refusal)

/-- The move is made for this call. -/
def Move.isFor (call : Nat) : Move → Bool
  | .proceed other | .answer other _ | .breakOff other => other = call
  | _ => false

/-- A move is made for one call only. -/
theorem Move.eq_of_isFor {move : Move} {call other : Nat} (own : move.isFor call = true)
    (also : move.isFor other = true) : call = other := by
  cases move with
  | proceed | answer | breakOff => exact (of_decide_eq_true own).symm.trans (of_decide_eq_true also)
  | _ => cases own

/-- How many sections of its own an offer has ahead of it at most. -/
def Call.ahead : Call → Nat
  | .entering (.offer _) => 5
  | .submitting _ _ => 4
  | .countingSpawned _ _ | .countingRefused _ _ _ => 3
  | .countingDeclined _ => 2
  | .fallingBack => 1
  | _ => 0

/-- Somebody whose next section is to announce. -/
inductive Announcer where
  /-- A worker that has left. -/
  | worker (number : WorkerId)
  /-- A call that has stopped the dispatcher. -/
  | call (number : Nat)
deriving DecidableEq, Repr

/-- The move with which it announces. -/
def Announcer.move : Announcer → Move
  | .worker number => .work number
  | .call number => .proceed number

namespace System

variable {system : System} {move : Move} {result : System × List Event} {call : Nat}

/-- It still has to announce. -/
def Announces (system : System) : Announcer → Prop
  | .worker number =>
    ∃ epoch departure, system.workers[number]? = some ⟨epoch, .announcing departure⟩
  | .call number => system.calls.get? number = some .announcing

/-- Numbers of calls are not given out again. -/
theorem next_le_of_section (made : Section system move result) :
    system.calls.next ≤ result.1.calls.next := by
  have looked (looking : System) (call : Nat) :
      (looking.awaitLastWorker call).calls.next = looking.calls.next := by
    unfold awaitLastWorker
    split <;> rfl
  cases made with
  | invoked request => exact Nat.le_succ _
  | turnedDown call fallsBack | declined call fallsBack => cases fallsBack <;> exact Nat.le_refl _
  | stopBegun call => exact Nat.le_of_eq (looked system.retireAll.1 call).symm
  | looked call => exact Nat.le_of_eq (looked system call).symm
  | departed number epoch departure => cases departure <;> exact Nat.le_refl _
  | abandoned unused active => exact Nat.le_of_eq (by rw [letGo_calls active])
  | _ => exact Nat.le_refl _

/-- A move that is made for a call lets it go on by itself, answers it or breaks it off. -/
theorem own_of_step (stepped : system.step move = some result) (own : move.isFor call = true)
    {stage : Call} (found : system.calls.get? call = some stage) :
    move = .proceed call ∧ system.proceed call stage = some result ∨
      (∃ refusal, move = .answer call refusal ∧ system.answer call refusal stage = some result) ∨
        move = .breakOff call ∧ system.breakOff call stage = some result := by
  cases move with
  | proceed other =>
    obtain rfl := of_decide_eq_true own
    exact .inl ⟨rfl, by simpa [step, found] using stepped⟩
  | answer other refusal =>
    obtain rfl := of_decide_eq_true own
    exact .inr (.inl ⟨refusal, rfl, by simpa [step, found] using stepped⟩)
  | breakOff other =>
    obtain rfl := of_decide_eq_true own
    exact .inr (.inr ⟨rfl, by simpa [step, found] using stepped⟩)
  | _ => cases own

/-- A call for which a section is made has not returned. -/
theorem found_of_own (made : Section system move result) (own : move.isFor call = true) :
    ∃ stage, system.calls.get? call = some stage := by
  cases found : system.calls.get? call with
  | some stage => exact ⟨stage, rfl⟩
  | none =>
    have stepped := step_of_section made
    cases move with
    | proceed other | answer other | breakOff other =>
      obtain rfl := of_decide_eq_true own
      simp [step, found] at stepped
    | _ => cases own

/-- A section that is made for another call, or for none, leaves a call at its stage. Either it
is an announcement, with which the call wakes, or it begins the call. -/
theorem get?_of_foreign (made : Section system move result) (foreign : move.isFor call = false) :
    result.1.calls.get? call = system.calls.get? call ∨
      (∃ who, system.Announces who ∧ move = who.move) ∧
        result.1.calls.get? call = (system.calls.get? call).map Call.wake ∨
      call = system.calls.next ∧ ∃ request, move = .invoke request ∧
        result.1.calls.get? call = some (.entering request) := by
  have looked (looking : System) {other : Nat} (different : call ≠ other)
      (calls : looking.calls = system.calls) :
      (looking.awaitLastWorker other).calls.get? call = system.calls.get? call := by
    unfold awaitLastWorker
    split <;> simp [setCall, setPhase, Register.get?_put, different, calls]
  have declined {other : Nat} (different : call ≠ other) (fallsBack : Bool) :
      (system.decline other fallsBack).1.calls.get? call = system.calls.get? call := by
    cases fallsBack <;>
      simp [decline, giveBack, reply, setCall, System.count, Register.get?_put,
        Register.get?_remove, different]
  have apart {other : Nat} (foreign : (Move.proceed other).isFor call = false) :
      call ≠ other := by
    simpa [Move.isFor, eq_comm] using foreign
  have unanswered {other : Nat} {refusal : Option Refusal}
      (foreign : (Move.answer other refusal).isFor call = false) : call ≠ other := by
    simpa [Move.isFor, eq_comm] using foreign
  cases made with
  | invoked request =>
    by_cases begins : call = system.calls.next
    · refine .inr (.inr ⟨begins, request, rfl, ?_⟩)
      simp [Register.get?_add, begins]
    · left
      rw [Register.get?_add, if_neg begins]
  | illegal other | started other | retimed other | claimed other | restful other =>
    left
    simp [reply, handOver, System.count, setPhase, setRoster, Register.get?_remove, apart foreign]
  | passedOn other =>
    left
    simp [reply, Register.get?_remove, unanswered foreign]
  | brokenOff other =>
    left
    have different : call ≠ other := by simpa [Move.isFor, eq_comm] using foreign
    simp [Register.get?_remove, different]
  | turnedDown other fallsBack | declined other fallsBack =>
    exact .inl (declined (apart foreign) fallsBack)
  | created other | counted other | joined other =>
    left
    simp [setCall, create, System.count, Register.get?_put, apart foreign]
  | taken other | refused other =>
    left
    simp [setCall, Register.get?_put, unanswered foreign]
  | stopBegun other | looked other => exact .inl (looked _ (apart foreign) rfl)
  | announced other found =>
    refine .inr (.inl ⟨⟨.call other, found, rfl⟩, ?_⟩)
    simp [reply, announce, Register.get?_remove, apart foreign]
  | departed number epoch departure found =>
    refine .inr (.inl ⟨⟨.worker number, ⟨epoch, departure, found⟩, rfl⟩, ?_⟩)
    cases departure <;> simp [depart, setStage, announce]
  | abandoned unused active =>
    left
    rw [letGo_calls active]
  | _ => exact .inl rfl

/-- A call is a bystander of such a section: it stays at its stage, or it wakes. -/
theorem bystands_of_foreign (made : Section system move result) (foreign : move.isFor call = false)
    {stage : Call} (found : system.calls.get? call = some stage) :
    result.1.calls.get? call = some stage ∨
      (∃ who, system.Announces who ∧ move = who.move) ∧
        result.1.calls.get? call = some stage.wake := by
  rcases get?_of_foreign made foreign with same | ⟨announces, woken⟩ | ⟨begins, _⟩
  · exact .inl (same.trans found)
  · exact .inr ⟨announces, by rw [woken, found, Option.map_some]⟩
  · exact absurd begins (Nat.ne_of_lt (Register.lt_of_get? found))

/-- A section of its own does not take a call back to its entrance, and only the one that stops
the dispatcher leads to the announcement of this. -/
theorem goesOn_of_own (made : Section system move result) (own : move.isFor call = true)
    {later : Call} (found : result.1.calls.get? call = some later) :
    (∀ request, later ≠ .entering request) ∧
      (later = .announcing → result.1.roster.phase = .stopped) := by
  cases made with
  | illegal other | started other | retimed other | claimed other | restful other
  | passedOn other | brokenOff other | announced other =>
    obtain rfl := of_decide_eq_true own
    simp [reply, handOver, announce, Register.get?_remove] at found
  | turnedDown other fallsBack held | declined other fallsBack held =>
    obtain rfl := of_decide_eq_true own
    cases fallsBack
    · simp [decline, giveBack, reply, Register.get?_remove] at found
    · obtain rfl : .fallingBack = later := by
        simpa [decline, giveBack, setCall, System.count, Register.get?_put, held] using found
      simp
  | created other fallsBack held | counted other fallsBack count event stage held
  | joined other held | taken other fallsBack worker held
  | refused other fallsBack worker refusal held =>
    obtain rfl := of_decide_eq_true own
    simp only [setCall, Register.get?_put, if_true] at found
    obtain ⟨_, _, rfl⟩ := Option.map_eq_some_iff.mp found
    simp
  | stopBegun other held | looked other held =>
    obtain rfl := of_decide_eq_true own
    unfold awaitLastWorker at found ⊢
    split at found
    · rename_i deserted
      rw [if_pos deserted]
      simp only [setCall, Register.get?_put, if_true] at found
      obtain ⟨_, _, rfl⟩ := Option.map_eq_some_iff.mp found
      exact ⟨by simp, fun _ => rfl⟩
    · simp only [setCall, Register.get?_put, if_true] at found
      obtain ⟨_, _, rfl⟩ := Option.map_eq_some_iff.mp found
      simp
  | _ => cases own

/-- A call is told something in sections of its own only. -/
theorem isFor_of_returned (made : Section system move result) {answer : Answer}
    (told : .returned call answer ∈ result.2) : move.isFor call = true := by
  obtain rfl : move = answer.move call := move_of_event made told rfl
  cases answer <;> simp [Answer.move, Move.isFor]

/-- A section of an offer: the stage at which the call enters it, the move that makes it, what
it leaves behind and what happens. -/
inductive OfferSection (system : System) (call : Nat) (fallsBack : Bool) :
    Call → Move → System × List Event → Prop where
  /-- The task is declined at once. -/
  | turnedDown (reason : system.roster.phase ≠ .running ∨
        system.roster.parked = [] ∧ system.capacity ≤ system.roster.reserved) :
    OfferSection system call fallsBack (.entering (.offer fallsBack)) (.proceed call)
      (system.decline call fallsBack)
  /-- The worker that parked last has the task. -/
  | claimed (worker : WorkerId) (remaining : List WorkerId)
      (running : system.roster.phase = .running)
      (parked : system.roster.parked = worker :: remaining)
      (ready : system.slot? worker = some none) :
    OfferSection system call fallsBack (.entering (.offer fallsBack)) (.proceed call)
      (system.handOver call worker remaining)
  /-- A worker loop is created and submitted. -/
  | created (running : system.roster.phase = .running) (nobody : system.roster.parked = [])
      (room : system.roster.reserved < system.capacity) :
    OfferSection system call fallsBack (.entering (.offer fallsBack)) (.proceed call)
      (system.create.setCall call (.submitting fallsBack system.workers.length),
        [.created system.workers.length])
  /-- The executor has taken the loop. -/
  | taken (worker : WorkerId) :
    OfferSection system call fallsBack (.submitting fallsBack worker) (.answer call none)
      (system.setCall call (.countingSpawned fallsBack worker), [])
  /-- The executor has refused the loop. -/
  | refused (worker : WorkerId) (refusal : Refusal) :
    OfferSection system call fallsBack (.submitting fallsBack worker)
      (.answer call (some refusal))
      (system.setCall call (.countingRefused fallsBack worker refusal), [])
  /-- The loop that was taken is counted. -/
  | spawned (worker : WorkerId) :
    OfferSection system call fallsBack (.countingSpawned fallsBack worker) (.proceed call)
      ((system.count .spawned).setCall call (.countingDeclined fallsBack), [.submitted worker])
  /-- The loop that was refused is counted. -/
  | spawnFailed (worker : WorkerId) (refusal : Refusal) :
    OfferSection system call fallsBack (.countingRefused fallsBack worker refusal)
      (.proceed call)
      ((system.count .spawnFailures).setCall call (.countingDeclined fallsBack),
        [.spawnFailed worker refusal])
  /-- The task is declined after all. -/
  | declined :
    OfferSection system call fallsBack (.countingDeclined fallsBack) (.proceed call)
      (system.decline call fallsBack)
  /-- The executor has taken or refused the task. -/
  | passedOn (falls : fallsBack = true) (refusal : Option Refusal) :
    OfferSection system call fallsBack .fallingBack (.answer call refusal)
      (system.reply call ((refusal.map Answer.refused).getD .fallback))
  /-- The offer is broken off while the executor has its loop or its task. -/
  | brokenOff (stage : Call) (loop? : Option WorkerId) (has : stage.submission? = some loop?) :
    OfferSection system call fallsBack stage (.breakOff call)
      ({ system with calls := system.calls.remove call }, [.brokenOff call loop?])

/-- A section of its own takes an offer one of these ways. -/
theorem offerSection_of_section (made : Section system move result)
    (own : move.isFor call = true) {stage : Call} {fallsBack : Bool}
    (found : system.calls.get? call = some stage) (offers : stage.Serves (.offer fallsBack)) :
    OfferSection system call fallsBack stage move result := by
  -- The section found the call at the stage at which it stands.
  have same {other : Nat} {before : Call} (held : system.calls.get? other = some before)
      (here : other = call) : before = stage := by
    rw [here, found] at held
    exact (Option.some.inj held).symm
  cases made with
  | illegal other request operation held needs =>
    obtain rfl := same held (by simpa [Move.isFor] using own)
    rcases needs with rfl | ⟨_, rfl⟩ <;> cases offers
  | started other held | retimed other timeout held | stopBegun other held | looked other held
  | announced other held =>
    obtain rfl := same held (by simpa [Move.isFor] using own)
    cases offers
  | turnedDown other falls held reason =>
    obtain rfl : other = call := by simpa [Move.isFor] using own
    obtain rfl := same held rfl
    obtain ⟨⟩ : Request.offer falls = .offer fallsBack := offers
    exact .turnedDown reason
  | claimed other falls worker remaining held running parked ready =>
    obtain rfl : other = call := by simpa [Move.isFor] using own
    obtain rfl := same held rfl
    obtain ⟨⟩ : Request.offer falls = .offer fallsBack := offers
    exact .claimed worker remaining running parked ready
  | created other falls held running nobody room =>
    obtain rfl : other = call := by simpa [Move.isFor] using own
    obtain rfl := same held rfl
    obtain ⟨⟩ : Request.offer falls = .offer fallsBack := offers
    exact .created running nobody room
  | counted other falls count event before held answered =>
    obtain rfl : other = call := by simpa [Move.isFor] using own
    obtain rfl := same held rfl
    rcases answered with ⟨worker, rfl, rfl, rfl⟩ | ⟨worker, refusal, rfl, rfl, rfl⟩
    · obtain rfl : falls = fallsBack := offers
      exact .spawned worker
    · obtain rfl : falls = fallsBack := offers
      exact .spawnFailed worker refusal
  | declined other falls held =>
    obtain rfl : other = call := by simpa [Move.isFor] using own
    obtain rfl := same held rfl
    obtain rfl : falls = fallsBack := offers
    exact .declined
  | restful other held =>
    rcases held with held | held <;>
      obtain rfl := same held (by simpa [Move.isFor] using own) <;> cases offers
  | joined other held =>
    rcases held with ⟨held, _⟩ | ⟨held, _⟩ <;>
      obtain rfl := same held (by simpa [Move.isFor] using own) <;> cases offers
  | taken other falls worker held =>
    obtain rfl : other = call := by simpa [Move.isFor] using own
    obtain rfl := same held rfl
    obtain rfl : falls = fallsBack := offers
    exact .taken worker
  | refused other falls worker refusal held =>
    obtain rfl : other = call := by simpa [Move.isFor] using own
    obtain rfl := same held rfl
    obtain rfl : falls = fallsBack := offers
    exact .refused worker refusal
  | passedOn other refusal held =>
    obtain rfl : other = call := by simpa [Move.isFor] using own
    obtain rfl := same held rfl
    exact .passedOn offers refusal
  | brokenOff other before loop? held has =>
    obtain rfl : other = call := by simpa [Move.isFor] using own
    obtain rfl := same held rfl
    exact .brokenOff _ loop? has
  | _ => cases own

/-- An offer can always go on, by itself or because the executor takes what it is given. -/
theorem goesOn_of_offer {stage : Call} {fallsBack : Bool}
    (found : system.calls.get? call = some stage) (offers : stage.Serves (.offer fallsBack)) :
    ∃ move ∈ [Move.proceed call, .answer call none], ∃ result, system.step move = some result := by
  cases stage with
  | entering request => exact ⟨.proceed call, by simp, _, by simp [step, found, proceed]; rfl⟩
  | countingSpawned | countingRefused | countingDeclined =>
    exact ⟨.proceed call, by simp, _, by simp [step, found, proceed]; rfl⟩
  | submitting | fallingBack =>
    exact ⟨.answer call none, by simp, _, by simp [step, found, answer]; rfl⟩
  | sleeping | woken | announcing => cases offers

/-- A section of an offer replaces this one call, and brings the offer nearer to its end. -/
theorem OfferSection.replaced {stage : Call} {fallsBack : Bool}
    (made : OfferSection system call fallsBack stage move result)
    (found : system.calls.get? call = some stage) :
    ∃ after?, Register.Replaced system.calls result.1.calls call stage after? ∧
      (after?.map Call.ahead).getD 0 < stage.ahead := by
  cases made with
  | turnedDown | declined =>
    cases fallsBack
    · exact ⟨none, Register.replaced_remove found, by simp [Call.ahead]⟩
    · exact ⟨some .fallingBack, Register.replaced_put found _, by simp [Call.ahead]⟩
  | claimed | passedOn => exact ⟨none, Register.replaced_remove found, by simp [Call.ahead]⟩
  | brokenOff _ loop? has =>
    have further : 0 < stage.ahead := by
      cases stage <;> first | exact Nat.succ_pos _ | cases has
    exact ⟨none, Register.replaced_remove found, further⟩
  | created | taken | refused | spawned | spawnFailed =>
    exact ⟨_, Register.replaced_put found _, by simp [Call.ahead]⟩

/-- A section of an offer ends it or leaves it an offer. -/
theorem OfferSection.remains {stage : Call} {fallsBack : Bool}
    (made : OfferSection system call fallsBack stage move result)
    (found : system.calls.get? call = some stage) :
    result.1.calls.get? call = none ∨
      ∃ later, result.1.calls.get? call = some later ∧ later.Serves (.offer fallsBack) := by
  cases made with
  | turnedDown | declined =>
    cases fallsBack
    · exact .inl (Register.replaced_remove found).own
    · exact .inr ⟨_, (Register.replaced_put found .fallingBack).own, rfl⟩
  | claimed | passedOn | brokenOff => exact .inl (Register.replaced_remove found).own
  | created | taken | refused | spawned | spawnFailed =>
    exact .inr ⟨_, (Register.replaced_put found _).own, rfl⟩

/-- A section of an offer that has not returned is made for it, or leaves it at its stage. -/
theorem offer_of_section (made : Section system move result)
    {stage : Call} {fallsBack : Bool}
    (found : system.calls.get? call = some stage) (offers : stage.Serves (.offer fallsBack)) :
    move.isFor call = true ∧ OfferSection system call fallsBack stage move result ∨
      move.isFor call = false ∧ result.1.calls.get? call = some stage := by
  by_cases own : move.isFor call = true
  · exact .inl ⟨own, offerSection_of_section made own found offers⟩
  · right
    have foreign : move.isFor call = false := Bool.eq_false_iff.mpr own
    -- An offer never sleeps, so it does not wake either.
    have same : stage.wake = stage := by
      cases stage with
      | sleeping => cases offers
      | _ => rfl
    rcases bystands_of_foreign made foreign found with stays | ⟨_, woken⟩
    · exact ⟨foreign, stays⟩
    · exact ⟨foreign, same ▸ woken⟩

/-- A call that has returned makes no section and does not come back. -/
theorem returned_of_section (made : Section system move result) (given : call < system.calls.next)
    (returned : system.calls.get? call = none) :
    move.isFor call = false ∧ call < result.1.calls.next ∧ result.1.calls.get? call = none := by
  have foreign : move.isFor call = false := by
    refine Bool.eq_false_iff.mpr fun own => ?_
    obtain ⟨stage, found⟩ := found_of_own made own
    cases returned.symm.trans found
  refine ⟨foreign, Nat.lt_of_lt_of_le given (next_le_of_section made), ?_⟩
  rcases get?_of_foreign made foreign with same | ⟨_, woken⟩ | ⟨begins, _⟩
  · exact same.trans returned
  · rw [woken, returned, Option.map_none]
  · exact absurd begins (Nat.ne_of_lt given)

/-- In no run it does. -/
theorem returned_of_play {capacity : Nat} {moves : List Move} (order : InOrder capacity system)
    (given : call < system.calls.next) (returned : system.calls.get? call = none)
    (run : system.play moves = some result) : result.1.calls.get? call = none := by
  let invariant (system : System) (_ : List Event) : Prop :=
    call < system.calls.next ∧ system.calls.get? call = none
  refine (play_sections invariant [] moves ?_ order ⟨given, returned⟩ run).2.2
  rintro move - system events result - ⟨given, returned⟩ made
  exact (returned_of_section made given returned).2

end System

end Standby.Dispatcher
