import Standby.Proofs.Dispatcher.Passage

/-!
# A plain offer in its place

A run in which one task may be passed on beside the run in which it goes back to its caller
instead. The two calls make the same sections until the task is declined. Then the plain offer
has returned, while the other still waits for the executor's verdict, which changes nothing but
that it returns as well. Nobody else looks at this call, so all other sections are the same in
both runs.

The register of calls is only compared by what is found in it, so a section is compared by what it
does to one call.
-/

namespace Standby.Dispatcher

/-- The stage at which a plain offer is instead, unless it has returned. -/
def Call.plain? : Call → Option Call
  | .entering (.offer _) => some (.entering (.offer false))
  | .submitting _ worker => some (.submitting false worker)
  | .countingSpawned _ worker => some (.countingSpawned false worker)
  | .countingRefused _ worker refusal => some (.countingRefused false worker refusal)
  | .countingDeclined _ => some (.countingDeclined false)
  | .fallingBack => none
  | other => some other

/-- Calls of which one makes a plain offer instead. -/
structure Plainly (call : Nat) (calls twin : Register Call) : Prop where
  given : twin.next = calls.next
  own : twin.get? call = (calls.get? call).bind Call.plain?
  others : ∀ other, other ≠ call → twin.get? other = calls.get? other

namespace Plainly

variable {call other : Nat} {calls twin : Register Call} (plainly : Plainly call calls twin)
include plainly

/-- Another call goes on. -/
theorem put (apart : other ≠ call) (stage : Call) :
    Plainly call (calls.put other stage) (twin.put other stage) where
  given := plainly.given
  own := by simp [Register.get?_put, Ne.symm apart, plainly.own]
  others number different := by
    simp only [Register.get?_put, plainly.others other apart, plainly.others number different]

/-- Another call returns. -/
theorem remove (apart : other ≠ call) : Plainly call (calls.remove other) (twin.remove other) where
  given := plainly.given
  own := by simp [Register.get?_remove, Ne.symm apart, plainly.own]
  others number different := by
    simp only [Register.get?_remove, plainly.others number different]

/-- Another call begins. -/
theorem add (present : calls.get? call ≠ none) (stage : Call) :
    Plainly call (calls.add stage) (twin.add stage) where
  given := congrArg Nat.succ plainly.given
  own := by
    obtain ⟨held, found⟩ := Option.ne_none_iff_exists'.mp present
    have known : call ≠ calls.next := Nat.ne_of_lt (Register.lt_of_get? found)
    simp [Register.get?_add, plainly.given, known, plainly.own]
  others number different := by
    simp only [Register.get?_add, plainly.given, plainly.others number different]

/-- All sleeping calls wake. -/
theorem wake : Plainly call (calls.map fun _ call => call.wake)
    (twin.map fun _ call => call.wake) where
  given := plainly.given
  own := by
    have same (stage : Call) : stage.wake.plain? = stage.plain?.map Call.wake := by
      cases stage with
      | entering request => cases request <;> rfl
      | _ => rfl
    simp only [Register.get?_map, plainly.own]
    cases calls.get? call with
    | none => rfl
    | some stage => exact (same stage).symm
  others number different := by simp only [Register.get?_map, plainly.others number different]

/-- When the call has returned, both registers are the same. -/
theorem eq_of_returned (returned : calls.get? call = none) : twin = calls := by
  refine Register.ext_get? plainly.given fun number => ?_
  by_cases here : number = call
  · rw [here, plainly.own, returned]
    rfl
  · exact plainly.others number here

end Plainly

namespace System

variable {capacity : Nat} {system : System} {move : Move} {result : System × List Event}
variable {call : Nat} {stage : Call} {twin : Register Call} {moves : List Move}

/-- The system with other calls. -/
def withCalls (system : System) (calls : Register Call) : System := { system with calls := calls }

/-- Another call looks for the last worker. -/
theorem awaitLastWorker_of_plainly (looking : System) {other : Nat} (apart : other ≠ call)
    (plainly : Plainly call looking.calls twin) :
    ∃ later, (looking.withCalls twin).awaitLastWorker other =
        (looking.awaitLastWorker other).withCalls later ∧
      Plainly call (looking.awaitLastWorker other).calls later := by
  have same : (looking.withCalls twin).roster.live = looking.roster.live := rfl
  unfold awaitLastWorker
  rw [same]
  split
  · exact ⟨_, rfl, plainly.put apart .announcing⟩
  · exact ⟨_, rfl, plainly.put apart (.sleeping .lastWorker)⟩

/-- A section that is made for another call, or for none, is the same beside a plain offer. -/
theorem foreign_of_plainly (made : Section system move result)
    (foreign : move.isFor call = false) (present : system.calls.get? call ≠ none)
    (plainly : Plainly call system.calls twin) :
    ∃ later, (system.withCalls twin).step move = some (result.1.withCalls later, result.2) ∧
      Plainly call result.1.calls later := by
  have held {other : Nat} {stage : Call} (apart : other ≠ call)
      (found : system.calls.get? other = some stage) : twin.get? other = some stage :=
    (plainly.others other apart).trans found
  have apart {other : Nat} (foreign : (Move.proceed other).isFor call = false) : other ≠ call := by
    simpa [Move.isFor] using foreign
  have unanswered {other : Nat} {refusal : Option Executor.Refusal}
      (foreign : (Move.answer other refusal).isFor call = false) : other ≠ call := by
    simpa [Move.isFor] using foreign
  have used (unused : system.calls.isEmpty = true) : False :=
    present (Register.isEmpty_iff.mp unused call)
  cases made with
  | invoked request open_ =>
    refine ⟨twin.add (.entering request), ?_, plainly.add present _⟩
    rw [← plainly.given]
    exact step_of_section (.invoked request open_)
  | illegal other request operation found needs busy named =>
    exact ⟨_, step_of_section (.illegal other request operation (held (apart foreign) found) needs
      busy named), plainly.remove (apart foreign)⟩
  | started other found stopped =>
    exact ⟨_, step_of_section (.started other (held (apart foreign) found) stopped),
      plainly.remove (apart foreign)⟩
  | retimed other timeout found stopped =>
    exact ⟨_, step_of_section (.retimed other timeout (held (apart foreign) found) stopped),
      plainly.remove (apart foreign)⟩
  | turnedDown other fallsBack found reason =>
    have made : Section (system.withCalls twin) (.proceed other) _ :=
      .turnedDown other fallsBack (held (apart foreign) found) reason
    cases fallsBack with
    | true => exact ⟨_, step_of_section made, plainly.put (apart foreign) _⟩
    | false => exact ⟨_, step_of_section made, plainly.remove (apart foreign)⟩
  | claimed other fallsBack worker remaining found running parked ready =>
    exact ⟨_, step_of_section (.claimed other fallsBack worker remaining
      (held (apart foreign) found) running parked ready), plainly.remove (apart foreign)⟩
  | created other fallsBack found running nobody room =>
    exact ⟨_, step_of_section (.created other fallsBack (held (apart foreign) found) running nobody
      room), plainly.put (apart foreign) _⟩
  | counted other fallsBack count event stage found answered =>
    exact ⟨_, step_of_section (.counted other fallsBack count event stage
      (held (apart foreign) found) answered), plainly.put (apart foreign) _⟩
  | declined other fallsBack found =>
    have made : Section (system.withCalls twin) (.proceed other) _ :=
      .declined other fallsBack (held (apart foreign) found)
    cases fallsBack with
    | true => exact ⟨_, step_of_section made, plainly.put (apart foreign) _⟩
    | false => exact ⟨_, step_of_section made, plainly.remove (apart foreign)⟩
  | restful other found stopped =>
    exact ⟨_, step_of_section (.restful other
      (found.imp (held (apart foreign)) (held (apart foreign))) stopped),
      plainly.remove (apart foreign)⟩
  | joined other found =>
    exact ⟨_, step_of_section (.joined other (found.imp
      (fun found => ⟨held (apart foreign) found.1, found.2⟩)
      fun found => ⟨held (apart foreign) found.1, found.2⟩)), plainly.put (apart foreign) _⟩
  | stopBegun other found active =>
    have made : Section (system.withCalls twin) (.proceed other) _ :=
      .stopBegun other (held (apart foreign) found) active
    obtain ⟨later, same, stands⟩ :=
      awaitLastWorker_of_plainly system.retireAll.1 (apart foreign) plainly
    refine ⟨later, ?_, stands⟩
    rw [← same]
    exact step_of_section made
  | looked other found =>
    have made : Section (system.withCalls twin) (.proceed other) _ :=
      .looked other (held (apart foreign) found)
    obtain ⟨later, same, stands⟩ := awaitLastWorker_of_plainly system (apart foreign) plainly
    refine ⟨later, ?_, stands⟩
    rw [← same]
    exact step_of_section made
  | announced other found =>
    exact ⟨_, step_of_section (.announced other (held (apart foreign) found)),
      plainly.wake.remove (apart foreign)⟩
  | taken other fallsBack worker found =>
    exact ⟨_, step_of_section (.taken other fallsBack worker (held (unanswered foreign) found)),
      plainly.put (unanswered foreign) _⟩
  | refused other fallsBack worker refusal found =>
    exact ⟨_, step_of_section (.refused other fallsBack worker refusal
      (held (unanswered foreign) found)), plainly.put (unanswered foreign) _⟩
  | passedOn other refusal found =>
    exact ⟨_, step_of_section (.passedOn other refusal (held (unanswered foreign) found)),
      plainly.remove (unanswered foreign)⟩
  | brokenOff other stage loop? found has =>
    have different : other ≠ call := by simpa [Move.isFor] using foreign
    exact ⟨_, step_of_section (.brokenOff other stage loop? (held different found) has),
      plainly.remove different⟩
  | departed number epoch departure found =>
    have made : Section (system.withCalls twin) (.work number) _ :=
      .departed number epoch departure found
    cases departure <;> exact ⟨_, step_of_section made, plainly.wake⟩
  | letGo unused => exact (used unused).elim
  | abandoned unused => exact (used unused).elim
  | stale number epoch found past =>
    exact ⟨_, step_of_section (.stale number epoch found past), plainly⟩
  | registered number found running =>
    exact ⟨_, step_of_section (.registered number found running), plainly⟩
  | turnedAway number found busy =>
    exact ⟨_, step_of_section (.turnedAway number found busy), plainly⟩
  | discarded number found => exact ⟨_, step_of_section (.discarded number found), plainly⟩
  | forgotten number epoch found past =>
    exact ⟨_, step_of_section (.forgotten number epoch found past), plainly⟩
  | began number epoch idleTimeout task duty waits found =>
    exact ⟨_, step_of_section (.began number epoch idleTimeout task duty waits found), plainly⟩
  | told number epoch idleTimeout duty waits found =>
    exact ⟨_, step_of_section (.told number epoch idleTimeout duty waits found), plainly⟩
  | expired number epoch timeout found =>
    exact ⟨_, step_of_section (.expired number epoch timeout found), plainly⟩
  | withdrawn number epoch timeout slot found parked =>
    exact ⟨_, step_of_section (.withdrawn number epoch timeout slot found parked), plainly⟩
  | kept number epoch timeout slot found gone =>
    exact ⟨_, step_of_section (.kept number epoch timeout slot found gone), plainly⟩
  | ended number epoch idleTimeout slot task outcome found =>
    exact ⟨_, step_of_section (.ended number epoch idleTimeout slot task outcome found), plainly⟩
  | failed number epoch idleTimeout slot task failure found =>
    exact ⟨_, step_of_section (.failed number epoch idleTimeout slot task failure found), plainly⟩
  | reported number epoch idleTimeout slot task failure found quiet =>
    exact ⟨_, step_of_section (.reported number epoch idleTimeout slot task failure found quiet),
      plainly⟩
  | spilled number epoch idleTimeout slot task failure found spills =>
    exact ⟨_, step_of_section (.spilled number epoch idleTimeout slot task failure found spills),
      plainly⟩
  | broke number epoch idleTimeout slot task failure found =>
    exact ⟨_, step_of_section (.broke number epoch idleTimeout slot task failure found), plainly⟩
  | parkedAgain number idleTimeout slot task found running =>
    exact ⟨_, step_of_section (.parkedAgain number idleTimeout slot task found running), plainly⟩
  | leftAfterTask number epoch idleTimeout slot task found unaccepted =>
    exact ⟨_, step_of_section (.leftAfterTask number epoch idleTimeout slot task found unaccepted),
      plainly⟩
  | leftRetired number epoch idleTimeout slot found =>
    exact ⟨_, step_of_section (.leftRetired number epoch idleTimeout slot found), plainly⟩
  | idled number epoch timeout found =>
    exact ⟨_, step_of_section (.idled number epoch timeout found), plainly⟩

/-- A section of the call itself is the same for a plain offer, until its task is passed on. -/
theorem own_of_plainly (made : OfferSection system call true stage move result)
    (found : system.calls.get? call = some stage) (before : stage ≠ .fallingBack)
    (plainly : Plainly call system.calls twin) :
    ∃ later told, (system.withCalls twin).step move = some (result.1.withCalls later, told) ∧
      Plainly call result.1.calls later := by
  have held : twin.get? call = stage.plain? := by rw [plainly.own, found, Option.bind_some]
  have replaced {later : Register Call} {stage : Call} {after? : Option Call}
      (own : Register.Replaced twin later call stage after?)
      {calls : Register Call} {plain : Call} {next? : Option Call}
      (other : Register.Replaced system.calls calls call plain next?)
      (same : after? = next?.bind Call.plain?) : Plainly call calls later :=
    { given := (own.given.trans plainly.given).trans other.given.symm
      own := by rw [own.own, other.own, same]
      others := fun number different => by
        rw [own.others number different, other.others number different,
          plainly.others number different] }
  cases made with
  | turnedDown reason =>
    exact ⟨_, _, step_of_section (.turnedDown call false held reason),
      replaced (Register.replaced_remove held) (Register.replaced_put found .fallingBack) rfl⟩
  | claimed worker remaining running parked ready =>
    exact ⟨_, _, step_of_section (.claimed call false worker remaining held running parked ready),
      replaced (Register.replaced_remove held) (Register.replaced_remove found) rfl⟩
  | created running nobody room =>
    exact ⟨_, _, step_of_section (.created call false held running nobody room),
      replaced (Register.replaced_put held _) (Register.replaced_put found _) rfl⟩
  | taken worker =>
    exact ⟨_, _, step_of_section (.taken call false worker held),
      replaced (Register.replaced_put held _) (Register.replaced_put found _) rfl⟩
  | refused worker refusal =>
    exact ⟨_, _, step_of_section (.refused call false worker refusal held),
      replaced (Register.replaced_put held _) (Register.replaced_put found _) rfl⟩
  | spawned worker =>
    exact ⟨_, _, step_of_section (.counted call false _ _ _ held (.inl ⟨worker, rfl, rfl, rfl⟩)),
      replaced (Register.replaced_put held _) (Register.replaced_put found _) rfl⟩
  | spawnFailed worker refusal =>
    exact ⟨_, _, step_of_section
      (.counted call false _ _ _ held (.inr ⟨worker, refusal, rfl, rfl, rfl⟩)),
      replaced (Register.replaced_put held _) (Register.replaced_put found _) rfl⟩
  | declined =>
    exact ⟨_, _, step_of_section (.declined call false held),
      replaced (Register.replaced_remove held) (Register.replaced_put found .fallingBack) rfl⟩
  | passedOn => exact absurd rfl before
  | brokenOff _ loop? has =>
    cases stage with
    | submitting fallsBack worker =>
      exact ⟨_, _, step_of_section (.brokenOff call _ (some worker) held rfl),
        replaced (Register.replaced_remove held) (Register.replaced_remove found) rfl⟩
    | fallingBack => exact absurd rfl before
    | _ => cases has

/-- Once the call has returned, the rest of the run is the same. -/
theorem play_of_returned (order : InOrder capacity system) (given : call < system.calls.next)
    (returned : system.calls.get? call = none) (plainly : Plainly call system.calls twin)
    (run : system.play moves = some result) :
    (system.withCalls twin).play moves = some (result.1.withCalls result.1.calls, result.2) ∧
      Plainly call result.1.calls result.1.calls := by
  rw [plainly.eq_of_returned returned]
  have gone := returned_of_play order given returned run
  exact ⟨run, ⟨rfl, by rw [gone]; rfl, fun _ _ => rfl⟩⟩

/-- A run in which a task may be passed on is also one in which it goes back instead, without the
executor's verdict about it. -/
theorem plain_of_play (order : InOrder capacity system)
    (found : system.calls.get? call = some stage) (offers : stage.Serves (.offer true))
    (plainly : Plainly call system.calls twin) (returns : .breakOff call ∉ moves)
    (run : system.play moves = some result) :
    ∃ shorter told calls,
      (system.withCalls twin).play shorter = some (result.1.withCalls calls, told) ∧
        Plainly call result.1.calls calls ∧
        (shorter = moves ∨ ∃ before verdict after,
          moves = before ++ .answer call verdict :: after ∧ shorter = before ++ after) := by
  induction moves generalizing system stage twin result with
  | nil =>
    obtain rfl := Option.some.inj run
    exact ⟨[], [], twin, rfl, plainly, .inl rfl⟩
  | cons move moves inductionHypothesis =>
    obtain ⟨first, last, stepped, played, rfl⟩ := play_cons_eq_some.mp run
    have made : Section system move first := section_of_step order.parkedReady stepped
    have ordered : InOrder capacity first.1 := order.of_section made
    have given : call < first.1.calls.next :=
      Nat.lt_of_lt_of_le (Register.lt_of_get? found) (next_le_of_section made)
    -- Both make the move, and go on like that.
    have both {stage : Call} {later : Register Call} {said : List Event}
        (twinned : (system.withCalls twin).step move = some (first.1.withCalls later, said))
        (still : Plainly call first.1.calls later)
        (found : first.1.calls.get? call = some stage) (offers : stage.Serves (.offer true)) :
        ∃ shorter told calls, (system.withCalls twin).play shorter =
            some (last.1.withCalls calls, told) ∧ Plainly call last.1.calls calls ∧
          (shorter = move :: moves ∨ ∃ before verdict after,
            move :: moves = before ++ .answer call verdict :: after ∧
              shorter = before ++ after) := by
      obtain ⟨shorter, told, calls, rest, finally_, cut⟩ :=
        inductionHypothesis ordered found offers still
          (fun member => returns (List.mem_cons_of_mem _ member)) played
      refine ⟨move :: shorter, said ++ told, calls,
        play_cons_eq_some.mpr ⟨_, _, twinned, rest, rfl⟩, finally_, ?_⟩
      rcases cut with rfl | ⟨before, verdict, after, rfl, rfl⟩
      · exact .inl rfl
      · exact .inr ⟨move :: before, verdict, after, rfl, rfl⟩
    rcases offer_of_section made found offers with ⟨own, section_⟩ | ⟨foreign, stays⟩
    · by_cases passed : stage = .fallingBack
      · subst passed
        cases section_ with
        | passedOn falls verdict =>
          have returned := (Register.replaced_remove found).own
          have still : Plainly call (system.calls.remove call) twin :=
            { given := plainly.given
              own := by rw [plainly.own, found, returned]; rfl
              others := fun number different => by
                rw [plainly.others number different, Register.get?_remove, if_neg different] }
          obtain ⟨rest, finally_⟩ := play_of_returned ordered given returned still played
          exact ⟨moves, last.2, _, rest, finally_, .inr ⟨[], verdict, moves, rfl, rfl⟩⟩
        | brokenOff => exact absurd List.mem_cons_self returns
      · obtain ⟨later, said, twinned, still⟩ := own_of_plainly section_ found passed plainly
        rcases section_.remains found with returned | ⟨stage, found, offers⟩
        · obtain ⟨rest, finally_⟩ := play_of_returned ordered given returned still played
          exact ⟨move :: moves, said ++ last.2, _,
            play_cons_eq_some.mpr ⟨_, _, twinned, rest, rfl⟩, finally_, .inl rfl⟩
        · exact both twinned still found offers
    · obtain ⟨later, twinned, still⟩ :=
        foreign_of_plainly made foreign (by simp [found]) plainly
      exact both twinned still stays offers

end System

end Standby.Dispatcher
