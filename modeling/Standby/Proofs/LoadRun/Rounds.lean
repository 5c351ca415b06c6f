import Standby.Proofs.LoadRun.Links

/-!
# Rounds

What a turn does for the books comes in rounds: it takes one dispatch from the budget, makes
one offer, counts the answer to this offer and sends its signal. Whatever the turns have done
so far, it is a number of whole rounds and what belongs to the progress of the present one.
So the deeds of one kind are as many as those of the next kind and the turns in between.
-/

namespace Standby.LoadRun

open Dispatcher (Answer)

/-- How a turn goes on by itself, and what it does for the books. -/
inductive Goes : Progress → Progress → Option Deed → Prop where
  | exhausted : Goes .claiming .spent none
  | claimed : Goes .claiming .offering (some .claimed)
  | offered (call : Nat) : Goes .offering (.calling call) (some (.offered call))
  | counted (answer : Answer) : Goes (.answered answer) .signalling (some (.counted answer))
  | signalled : Goes .signalling .spent (some .signalled)

/-- What the dispatcher has answered. -/
def replies (events : List Event) : List (Nat × Answer) :=
  (dispatched events).filterMap Dispatcher.Event.reply?

/-- The replies in a run are those in its parts. -/
theorem replies_append (before after : List Event) :
    replies (before ++ after) = replies before ++ replies after := by
  simp [replies, dispatched_append]

/-- What becomes of the turns in a section, with the deed that is done and the answers that
are given. -/
inductive Turned (system next : System) :
    Option (Runner × Deed) → List (Nat × Answer) → Prop where
  | stays (answers : List (Nat × Answer))
      (others : ∀ reply ∈ answers, reply.2.Suits .start ∨ reply.2.Suits .stop)
      (turns : next.turns = system.turns) : Turned system next none answers
  | begins (runner : Runner) (idle : system.progress? runner = none)
      (turns : next.turns = ⟨runner, .claiming⟩ :: system.turns) : Turned system next none []
  | goes (runner : Runner) (progress later : Progress) (deed : Option Deed)
      (found : system.progress? runner = some progress) (goes : Goes progress later deed)
      (turns : next.turns = setIn system.turns runner later) :
    Turned system next (deed.map (runner, ·)) []
  | hears (runner : Runner) (call : Nat) (answer : Answer)
      (found : system.progress? runner = some (.calling call))
      (suits : answer.Suits (.offer true))
      (turns : next.turns = setIn system.turns runner (.answered answer)) :
    Turned system next none [(call, answer)]
  | ends (runner : Runner) (found : system.progress? runner = some .spent)
      (turns : next.turns = dropIn system.turns runner) : Turned system next none []

namespace System

variable {system next : System} {capacity : Nat} {moves : List (Pool.Move Hosted.Job)}
  {told : List Pool.Event}

/-- The deed of a turn that goes on follows from its progress. -/
theorem deed_of_found {runner : Runner} {progress : Progress}
    (found : system.progress? runner = some progress) :
    system.deed? (.advance runner) = (system.deedOf? progress).map (runner, ·) := by
  simp [deed?, found]

/-- Nobody is answered when a task ends. -/
theorem replies_of_ends {move : Hosted.Move} {task : Dispatcher.Task}
    (ends : system.Ends move task)
    (order : Hosted.System.InOrder capacity moves system.host told) {host : Hosted.System}
    {events : List Hosted.Event} (made : system.host.step move = some (host, events)) :
    (hosted events).filterMap Dispatcher.Event.reply? = [] := by
  cases Hosted.System.section_of_step made with
  | dispatcher own next new submissions agrees stepped =>
    cases ends
    rw [hosted_dispatcher]
    have section_made :=
      Dispatcher.System.section_of_step order.dispatcher.parkedReady stepped
    cases section_made with
    | ended => rfl
  | submitted own call stage job next new pool later submissions agrees stepped caller =>
    cases ends
    cases caller
  | pool own next new submissions agrees stepped =>
    rw [hosted_pool]
    rfl

/-- No turn goes on when nobody is answered. -/
theorem turns_of_unanswered {host : Hosted.System} (heard : Heard system host [] next) :
    next.turns = system.turns := by
  cases heard
  rfl

/-- An answer makes the turn that hears it go on. -/
theorem turned_of_heard {host : Hosted.System} {answers : List (Nat × Answer)}
    (heard : Heard system host answers next) : Turned system next none answers := by
  cases heard with
  | nothing => exact .stays [] nofun rfl
  | turn runner call answer found gone others suits =>
    exact .hears runner call answer found suits rfl
  | main call stage request answer main waits turned found gone others suits =>
    refine .stays _ (fun reply member => ?_) rfl
    obtain rfl : reply = (call, answer) := by simpa using member
    rcases turned with ⟨rfl, -⟩ | ⟨rfl, -⟩
    · exact .inl suits
    · exact .inr suits

/-- Every section does one of these things to the turns. -/
theorem turned_of_section (linked : system.Linked)
    (order : Hosted.System.InOrder capacity moves system.host told) {move : Move}
    {result : System × List Event} (made : Section system move result) :
    Turned system result.1 (system.deed? move) (replies result.2) := by
  have goes (runner : Runner) {progress later : Progress} {deed : Option Deed}
      (found : system.progress? runner = some progress) (goes : Goes progress later deed)
      (same : system.deedOf? progress = deed)
      (turns : result.1.turns = setIn system.turns runner later) :
      Turned system result.1 (system.deed? (.advance runner)) [] := by
    rw [deed_of_found found, same]
    exact .goes runner progress later deed found goes turns
  cases made with
  | began runner idle due => exact .begins runner idle rfl
  | exhausted runner found empty =>
    exact goes runner found .exhausted (by simp [deedOf?, empty]) rfl
  | claimed runner found left => exact goes runner found .claimed (by simp [deedOf?, left]) rfl
  | offered runner found held => exact goes runner found (.offered _) rfl rfl
  | counted runner answer found => cases answer <;> exact goes runner found (.counted _) rfl rfl
  | signalled runner found => exact goes runner found .signalled rfl rfl
  | chained chains found seeding =>
    rw [deed_of_found found]
    exact .ends .main found rfl
  | hosted own host events plain stepped =>
    exact turned_of_heard (heard_of_step linked order stepped plain.begins_nothing)
  | finished own task host events ends ended stepped =>
    have silent := replies_of_ends ends order stepped
    have heard := heard_of_step linked order stepped ends.begins_nothing
    have spent : system.progress? (.task task) = some .spent := by simpa [isOver] using ended
    rw [silent] at heard
    rw [show replies (events.map Event.host) = [] from silent]
    exact .ends (.task task) spent (congrArg (dropIn · (.task task)) (turns_of_unanswered heard))
  | starting | seeded | sawAll | stopping | closing | joined | watched | gaveUp =>
    exact .stays [] (by simp) rfl

end System

/-- The number of deeds of a kind. -/
def done (kind : Deed → Bool) (deeds : List (Runner × Deed)) : Nat :=
  deeds.countP fun deed => kind deed.2

/-- One more deed counts for its kind. -/
theorem done_append (kind : Deed → Bool) (deeds : List (Runner × Deed))
    (deed : Option (Runner × Deed)) :
    done kind (deeds ++ deed.toList) =
      done kind deeds + (deed.any fun deed => kind deed.2).toNat := by
  cases deed with
  | none => simp [done]
  | some deed =>
    rw [done, List.countP_append]
    exact congrArg _ (Counting.countP_cons _ deed [] |>.trans (Nat.zero_add _))

/-- All deeds of one kind are followed by one of another, or their turns are in between. -/
def Passes (first second : Deed → Bool) (between : Progress → Bool) (turns : List Turn)
    (deeds : List (Runner × Deed)) : Prop :=
  done first deeds = done second deeds + countIn between turns

/-- The turns in between are kept account of when every step of a turn is. -/
theorem Passes.of_turned {system next : System} {first second : Deed → Bool}
    {between : Progress → Bool} {deeds : List (Runner × Deed)}
    {deed : Option (Runner × Deed)} {answers : List (Nat × Answer)}
    (passes : Passes first second between system.turns deeds) (distinct : Distinct system.turns)
    (turned : Turned system next deed answers)
    (outside : between .claiming = false ∧ between .spent = false)
    (hearing : ∀ call answer, between (.calling call) = between (.answered answer))
    (steps : ∀ {progress later own}, Goes progress later own →
      (own.any first).toNat + (between progress).toNat =
        (own.any second).toNat + (between later).toNat) :
    Passes first second between next.turns (deeds ++ deed.toList) := by
  unfold Passes at passes ⊢
  rw [done_append, done_append]
  cases turned with
  | stays answers others turns => simp [turns, passes]
  | begins runner idle turns => simp [turns, countIn_cons, outside.1, passes]
  | goes runner progress later own found goes turns =>
    have counted := countIn_setIn distinct between found later
    have step := steps goes
    have same (kind : Deed → Bool) :
        ((own.map (runner, ·)).any fun deed => kind deed.2) = own.any kind := by
      cases own <;> rfl
    rw [turns, same, same]
    omega
  | hears runner call answer found suits turns =>
    have counted := countIn_setIn distinct between found (.answered answer)
    rw [hearing call answer] at counted
    simp only [turns, Option.any_none, Bool.toNat_false]
    omega
  | ends runner found turns =>
    have counted := countIn_dropIn distinct between found
    rw [outside.2] at counted
    simp only [turns, Option.any_none, Bool.toNat_false] at counted ⊢
    omega

namespace Deed

/-- A dispatch was taken from the budget. -/
def claims : Deed → Bool
  | .claimed => true
  | _ => false

/-- The next turn was offered to the dispatcher. -/
def offers : Deed → Bool
  | .offered _ => true
  | _ => false

/-- An answer of this kind was counted. -/
def counts (kind : Answer → Bool) : Deed → Bool
  | .counted answer => kind answer
  | _ => false

/-- A signal was sent. -/
def signals : Deed → Bool
  | .signalled => true
  | _ => false

end Deed

namespace Progress

/-- The turn has taken from the budget and has made no offer. -/
def isOffering : Progress → Bool
  | .offering => true
  | _ => false

/-- The turn has made its offer and has not counted the answer. -/
def isWaiting : Progress → Bool
  | .calling _ | .answered _ => true
  | _ => false

/-- The turn has counted the answer and has not sent its signal. -/
def isSignalling : Progress → Bool
  | .signalling => true
  | _ => false

/-- The turn has an answer of this kind and has not counted it. -/
def hears (kind : Answer → Bool) : Progress → Bool
  | .answered answer => kind answer
  | _ => false

end Progress

/-- All claims are followed by offers, all offers by counts, and all counts by signals. -/
structure Flows (turns : List Turn) (deeds : List (Runner × Deed)) : Prop where
  offered : Passes Deed.claims Deed.offers Progress.isOffering turns deeds
  counted : Passes Deed.offers (Deed.counts fun _ => true) Progress.isWaiting turns deeds
  signalled : Passes (Deed.counts fun _ => true) Deed.signals Progress.isSignalling turns deeds

/-- All answers were counted or are about to be, except those that no offer gets. -/
def Answered (turns : List Turn) (deeds : List (Runner × Deed))
    (answers : List (Nat × Answer)) : Prop :=
  ∀ kind : Answer → Bool,
    (∀ answer, answer.Suits .start ∨ answer.Suits .stop → kind answer = false) →
      answers.countP (fun reply => kind reply.2) =
        done (Deed.counts kind) deeds + countIn (Progress.hears kind) turns

section Turned

variable {system next : System} {deeds : List (Runner × Deed)} {deed : Option (Runner × Deed)}
  {told answers : List (Nat × Answer)}

/-- Every section keeps account of the deeds. -/
theorem Flows.of_turned (flows : Flows system.turns deeds) (distinct : Distinct system.turns)
    (turned : Turned system next deed answers) : Flows next.turns (deeds ++ deed.toList) where
  offered := flows.offered.of_turned distinct turned ⟨rfl, rfl⟩ (fun _ _ => rfl)
    fun goes => by cases goes <;> rfl
  counted := flows.counted.of_turned distinct turned ⟨rfl, rfl⟩ (fun _ _ => rfl)
    fun goes => by cases goes <;> rfl
  signalled := flows.signalled.of_turned distinct turned ⟨rfl, rfl⟩ (fun _ _ => rfl)
    fun goes => by cases goes <;> rfl

/-- Every section keeps account of the answers. -/
theorem Answered.of_turned (answered : Answered system.turns deeds told)
    (distinct : Distinct system.turns) (turned : Turned system next deed answers) :
    Answered next.turns (deeds ++ deed.toList) (told ++ answers) := by
  intro kind others
  have before := answered kind others
  rw [done_append, List.countP_append]
  cases turned with
  | stays _ unheard turns =>
    have silent : answers.countP (fun reply => kind reply.2) = 0 :=
      List.countP_eq_zero.mpr fun reply member => by simp [others _ (unheard reply member)]
    simp [turns, silent, before]
  | begins runner idle turns =>
    simp [turns, countIn_cons, Progress.hears, before]
  | goes runner progress later own found goes turns =>
    have counted := countIn_setIn distinct (Progress.hears kind) found later
    rw [turns]
    cases goes <;>
      simp only [Option.map_none, Option.map_some, Option.any_none, Option.any_some,
        Deed.counts, Progress.hears, Bool.toNat_false, List.countP_nil] at counted ⊢ <;> omega
  | hears runner call answer found suits turns =>
    have counted := countIn_setIn distinct (Progress.hears kind) found (.answered answer)
    rw [turns, Counting.countP_cons]
    simp only [Option.any_none, Progress.hears, Bool.toNat_false, List.countP_nil] at counted ⊢
    omega
  | ends runner found turns =>
    have counted := countIn_dropIn distinct (Progress.hears kind) found
    rw [turns]
    simp only [Option.any_none, Progress.hears, Bool.toNat_false, List.countP_nil] at counted ⊢
    omega

end Turned

/-- A whole round of a turn. -/
structure Round where
  call : Nat
  answer : Answer

/-- The deeds of a round, in their order. -/
def Round.deeds (round : Round) : List Deed :=
  [.claimed, .offered round.call, .counted round.answer, .signalled]

/-- The dispatcher has given this answer to the offer of this call. -/
def Gave (told : List (Nat × Answer)) (call : Nat) (answer : Answer) : Prop :=
  (call, answer) ∈ told ∧ answer.Suits (.offer true)

/-- What has been done of a round, at the present progress. -/
inductive Begun (told : List (Nat × Answer)) : Option Progress → List Deed → Prop where
  | absent : Begun told none []
  | claiming : Begun told (some .claiming) []
  | offering : Begun told (some .offering) [.claimed]
  | calling (call : Nat) : Begun told (some (.calling call)) [.claimed, .offered call]
  | answered (call : Nat) (answer : Answer) (gave : Gave told call answer) :
    Begun told (some (.answered answer)) [.claimed, .offered call]
  | signalling (call : Nat) (answer : Answer) (gave : Gave told call answer) :
    Begun told (some .signalling) [.claimed, .offered call, .counted answer]
  | spent : Begun told (some .spent) []

/-- The deeds of a runner are whole rounds and what has been done of the present one. -/
def Story (told : List (Nat × Answer)) (progress : Option Progress) (deeds : List Deed) : Prop :=
  ∃ (rounds : List Round) (begun : List Deed),
    deeds = rounds.flatMap Round.deeds ++ begun ∧
      (∀ round ∈ rounds, Gave told round.call round.answer) ∧ Begun told progress begun

/-- The deeds of one runner. -/
def deedsOf (runner : Runner) (deeds : List (Runner × Deed)) : List Deed :=
  (deeds.filter (·.1 = runner)).map (·.2)

section Stories

variable {told : List (Nat × Answer)} {progress later : Progress} {deeds : List Deed}

/-- A reply that was given stays given. -/
theorem Gave.append {call : Nat} {answer : Answer} (gave : Gave told call answer)
    (answers : List (Nat × Answer)) : Gave (told ++ answers) call answer :=
  ⟨List.mem_append_left _ gave.1, gave.2⟩

namespace Story

/-- What was told stays told. -/
theorem append {progress : Option Progress} (story : Story told progress deeds)
    (answers : List (Nat × Answer)) : Story (told ++ answers) progress deeds := by
  obtain ⟨rounds, begun, same, gave, stands⟩ := story
  refine ⟨rounds, begun, same, fun round member => (gave round member).append answers, ?_⟩
  cases stands with
  | absent => exact .absent
  | claiming => exact .claiming
  | offering => exact .offering
  | calling call => exact .calling call
  | answered call answer gave => exact .answered call answer (gave.append answers)
  | signalling call answer gave => exact .signalling call answer (gave.append answers)
  | spent => exact .spent

/-- A turn begins between two rounds. -/
theorem begins (story : Story told none deeds) : Story told (some .claiming) deeds := by
  obtain ⟨rounds, begun, same, gave, stands⟩ := story
  cases stands
  exact ⟨rounds, [], same, gave, .claiming⟩

/-- A turn that is done with leaves whole rounds. -/
theorem ends (story : Story told (some .spent) deeds) : Story told none deeds := by
  obtain ⟨rounds, begun, same, gave, stands⟩ := story
  cases stands
  exact ⟨rounds, [], same, gave, .absent⟩

/-- A turn hears the answer to its offer. -/
theorem hears {call : Nat} {answer : Answer} (story : Story told (some (.calling call)) deeds)
    (gave : Gave told call answer) : Story told (some (.answered answer)) deeds := by
  obtain ⟨rounds, begun, same, all, stands⟩ := story
  cases stands
  exact ⟨rounds, _, same, all, .answered call answer gave⟩

/-- A turn goes on in its round, or completes it. -/
theorem goes {deed : Option Deed} (story : Story told (some progress) deeds)
    (goes : Goes progress later deed) : Story told (some later) (deeds ++ deed.toList) := by
  obtain ⟨rounds, begun, rfl, gave, stands⟩ := story
  cases goes with
  | exhausted =>
    cases stands
    exact ⟨rounds, [], by simp, gave, .spent⟩
  | claimed =>
    cases stands
    exact ⟨rounds, [.claimed], by simp, gave, .offering⟩
  | offered call =>
    cases stands
    exact ⟨rounds, [.claimed, .offered call], by simp, gave, .calling call⟩
  | counted answer =>
    cases stands with
    | answered call _ own =>
      exact ⟨rounds, [.claimed, .offered call, .counted answer], by simp, gave,
        .signalling call answer own⟩
  | signalled =>
    cases stands with
    | signalling call answer own =>
      refine ⟨rounds ++ [⟨call, answer⟩], [], by simp [Round.deeds], fun round member => ?_,
        .spent⟩
      rcases List.mem_append.mp member with earlier | latest
      · exact gave round earlier
      · obtain rfl := List.mem_singleton.mp latest
        exact own

end Story

/-- The next deed belongs to its runner only. -/
theorem deedsOf_append (runner : Runner) (deeds : List (Runner × Deed))
    (deed : Option (Runner × Deed)) : deedsOf runner (deeds ++ deed.toList) =
      deedsOf runner deeds ++ deedsOf runner deed.toList := by
  simp [deedsOf]

/-- Every section takes all stories on. -/
theorem stories_of_turned {system next : System} {deeds : List (Runner × Deed)}
    {deed : Option (Runner × Deed)} {answers : List (Nat × Answer)}
    (stories : ∀ runner, Story told (system.progress? runner) (deedsOf runner deeds))
    (turned : Turned system next deed answers) (runner : Runner) :
    Story (told ++ answers) (next.progress? runner)
      (deedsOf runner (deeds ++ deed.toList)) := by
  have before : Story (told ++ answers) (progressIn system.turns runner) (deedsOf runner deeds) :=
    (stories runner).append answers
  have found (turns : List Turn) (same : next.turns = turns) :
      next.progress? runner = progressIn turns runner := congrArg (progressIn · runner) same
  rw [deedsOf_append]
  cases turned with
  | stays _ others turns =>
    rw [found _ turns]
    simpa [deedsOf] using before
  | begins other idle turns =>
    rw [found _ turns, progressIn_cons]
    split
    · rename_i same
      subst same
      rw [show progressIn system.turns other = none from idle] at before
      simpa [deedsOf] using before.begins
    · simpa [deedsOf] using before
  | goes other progress later own held goes turns =>
    rw [found _ turns, progressIn_setIn held]
    split
    · rename_i same
      subst same
      rw [show progressIn system.turns runner = some _ from held] at before
      have gone := before.goes goes
      cases own <;> simpa [deedsOf] using gone
    · rename_i different
      cases own <;> simpa [deedsOf, Ne.symm different] using before
  | hears other call answer held suits turns =>
    rw [found _ turns, progressIn_setIn held]
    split
    · rename_i same
      subst same
      rw [show progressIn system.turns runner = some _ from held] at before
      simpa [deedsOf] using before.hears ⟨by simp, suits⟩
    · simpa [deedsOf] using before
  | ends other held turns =>
    rw [found _ turns, progressIn_dropIn]
    split
    · rename_i same
      subst same
      rw [show progressIn system.turns runner = some _ from held] at before
      simpa [deedsOf] using before.ends
    · simpa [deedsOf] using before

end Stories

end Standby.LoadRun
