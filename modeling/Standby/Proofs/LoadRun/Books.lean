import Standby.Proofs.LoadRun.Ending
import Standby.Proofs.LoadRun.Tasks

/-!
# The books of a load run

The numbers in the books count the deeds of the turns: what is left of the budget, the ways
that the turns went, and the signals. On its side the dispatcher gets the offers of the turns
and no others, and counts what it has answered to them. All that is known of a load run is
put together here.
-/

namespace Standby.LoadRun

open Dispatcher (Answer)

/-- The way to a reserved worker. -/
def isAccepted : Answer → Bool
  | .accepted => true
  | _ => false

/-- The way to the pool. -/
def isPassedOn : Answer → Bool
  | .fallback => true
  | _ => false

/-- No way at all. -/
def isRefused : Answer → Bool
  | .refused _ => true
  | _ => false

/-- The call by which a deed offers the next turn. -/
def Deed.offer? : Deed → Option Nat
  | .offered call => some call
  | _ => none

/-- The calls by which turns were offered to the dispatcher. -/
def offersIn (events : List Event) : List Nat :=
  (((dispatched events).filterMap Dispatcher.Event.begun?).filter (·.2 = .offer true)).map (·.1)

/-- The offers of a run are those of its parts. -/
theorem offersIn_append (before after : List Event) :
    offersIn (before ++ after) = offersIn before ++ offersIn after := by
  simp [offersIn, dispatched_append]

/-- The books count the deeds. -/
structure Counted (loops : Nat) (system : System) (deeds : List (Runner × Deed)) : Prop where
  budget : system.loops = loops
  claimed : system.remaining + done Deed.claims deeds = loops
  reserved : system.reserved = done (Deed.counts isAccepted) deeds
  pooled : system.pooled = done (Deed.counts isPassedOn) deeds
  failed : system.failed = done (Deed.counts isRefused) deeds
  sent : system.seen + system.unseen = done Deed.signals deeds

namespace System

variable {system next : System} {capacity loops : Nat} {moves : List (Pool.Move Hosted.Job)}
  {told : List Pool.Event} {move : Move} {result : System × List Event}
  {deeds : List (Runner × Deed)} {events : List Event}

/-- Nobody calls the dispatcher in a move that begins no call. -/
theorem begun_of_step (order : Hosted.System.InOrder capacity moves system.host told)
    {own : Hosted.Move} {host : Hosted.System} {happened : List Hosted.Event}
    (made : system.host.step own = some (host, happened))
    (begun : ∀ request, own ≠ .dispatcher (.invoke request)) :
    (hosted happened).filterMap Dispatcher.Event.begun? = [] := by
  have silent (move : Dispatcher.Move) (later : Dispatcher.System)
      (new : List Dispatcher.Event) (same : own = .dispatcher move)
      (stepped : system.host.dispatcher.step move = some (later, new)) :
      new.filterMap Dispatcher.Event.begun? = [] :=
    Dispatcher.System.begun_of_section
      (Dispatcher.System.section_of_step order.dispatcher.parkedReady stepped)
      fun request invokes => begun request (by rw [same, invokes])
  cases Hosted.System.section_of_step made with
  | dispatcher move later new submissions agrees stepped =>
    rw [hosted_dispatcher]
    exact silent move later new rfl stepped
  | submitted move call stage job later new pool also submissions agrees stepped =>
    rw [hosted_append, hosted_dispatcher, hosted_pool, List.append_nil]
    exact silent move later new rfl stepped
  | pool move later new submissions agrees stepped =>
    rw [hosted_pool]
    rfl

/-- The dispatcher gets the offers of the turns and no others. -/
theorem offersIn_of_section (order : Hosted.System.InOrder capacity moves system.host told)
    (made : Section system move result) : offersIn result.2 =
      (system.deed? move).toList.filterMap (·.2.offer?) := by
  have silent {own : Hosted.Move} {host : Hosted.System} {happened : List Hosted.Event}
      (stepped : system.host.step own = some (host, happened))
      (begun : ∀ request, own ≠ .dispatcher (.invoke request)) :
      offersIn (happened.map .host) = [] := by
    have nothing := begun_of_step order stepped begun
    rw [hosted] at nothing
    simp [offersIn, nothing]
  cases made with
  | exhausted runner found empty => simp [deed_of_found found, deedOf?, empty]; rfl
  | claimed runner found left => simp [deed_of_found found, deedOf?, left, Deed.offer?]; rfl
  | offered runner found held => simp [deed_of_found found, deedOf?, Deed.offer?]; rfl
  | counted runner answer found =>
    cases answer <;> simp [deed_of_found found, deedOf?, Deed.offer?] <;> rfl
  | signalled runner found => simp [deed_of_found found, deedOf?, Deed.offer?]; rfl
  | chained chains found => simp [deed_of_found found, deedOf?]; rfl
  | hosted own host happened plain stepped => exact silent stepped plain.begins_nothing
  | finished own task host happened ends ended stepped => exact silent stepped ends.begins_nothing
  | began | starting | seeded | sawAll | stopping | closing | joined | watched | gaveUp => rfl

end System

namespace Counted

variable {system next : System} {capacity loops : Nat} {moves : List (Pool.Move Hosted.Job)}
  {told : List Pool.Event} {move : Move} {result : System × List Event}
  {deeds : List (Runner × Deed)}

/-- Nothing has been done at the beginning. -/
theorem fresh (host : Hosted.System) (loops chains : Nat) :
    Counted loops (.fresh host loops chains) [] := ⟨rfl, rfl, rfl, rfl, rfl, rfl⟩

/-- What is heard is not in the books. -/
theorem of_heard (counted : Counted loops system deeds) {host : Hosted.System}
    {answers : List (Nat × Answer)} (heard : System.Heard system host answers next) :
    Counted loops next deeds := by
  cases heard <;> exact { counted with }

/-- The books stay when nothing is done for them. -/
theorem keep (counted : Counted loops system deeds) (budget : next.loops = system.loops)
    (claimed : next.remaining = system.remaining) (reserved : next.reserved = system.reserved)
    (pooled : next.pooled = system.pooled) (failed : next.failed = system.failed)
    (sent : next.seen + next.unseen = system.seen + system.unseen) :
    Counted loops next deeds where
  budget := budget.trans counted.budget
  claimed := by rw [claimed, counted.claimed]
  reserved := reserved.trans counted.reserved
  pooled := pooled.trans counted.pooled
  failed := failed.trans counted.failed
  sent := sent.trans counted.sent

/-- A deed is written into the books. -/
theorem write (counted : Counted loops system deeds) (runner : Runner) (deed : Deed)
    (budget : next.loops = system.loops)
    (claimed : next.remaining + (deed.claims).toNat = system.remaining)
    (reserved : next.reserved = system.reserved + (deed.counts isAccepted).toNat)
    (pooled : next.pooled = system.pooled + (deed.counts isPassedOn).toNat)
    (failed : next.failed = system.failed + (deed.counts isRefused).toNat)
    (sent : next.seen + next.unseen = system.seen + system.unseen + (deed.signals).toNat) :
    Counted loops next (deeds ++ [(runner, deed)]) := by
  have more (kind : Deed → Bool) :
      done kind (deeds ++ [(runner, deed)]) = done kind deeds + (kind deed).toNat :=
    done_append kind deeds (some (runner, deed))
  have before := counted.claimed
  refine ⟨budget.trans counted.budget, ?_, ?_, ?_, ?_, ?_⟩
  · rw [more]
    omega
  · rw [more, reserved, counted.reserved]
  · rw [more, pooled, counted.pooled]
  · rw [more, failed, counted.failed]
  · rw [more, sent, counted.sent]

/-- Every section writes its deed into the books. -/
theorem of_section (counted : Counted loops system deeds) (linked : system.Linked)
    (order : Hosted.System.InOrder capacity moves system.host told)
    (made : Section system move result) :
    Counted loops result.1 (deeds ++ (system.deed? move).toList) := by
  have rests {later : System} {move : Move} (kept : Counted loops later deeds)
      (idle : system.deed? move = none) :
      Counted loops later (deeds ++ (system.deed? move).toList) := by
    rw [idle, Option.toList_none, List.append_nil]
    exact kept
  cases made with
  | exhausted runner found empty =>
    exact rests (counted.keep rfl rfl rfl rfl rfl rfl)
      (by simp [System.deed_of_found found, System.deedOf?, empty])
  | chained chains found =>
    exact rests (counted.keep rfl rfl rfl rfl rfl rfl)
      (by simp [System.deed_of_found found, System.deedOf?])
  | claimed runner found left =>
    rw [System.deed_of_found found, System.deedOf?, if_neg left]
    exact counted.write runner .claimed rfl (Nat.sub_add_cancel (Nat.pos_of_ne_zero left)) rfl rfl
      rfl rfl
  | offered runner found held =>
    rw [System.deed_of_found found]
    exact counted.write runner (.offered _) rfl rfl rfl rfl rfl rfl
  | counted runner answer found =>
    rw [System.deed_of_found found]
    -- An offer is accepted, passed on or refused, and nothing else.
    cases answer with
    | accepted | fallback | refused => exact counted.write runner _ rfl rfl rfl rfl rfl rfl
    | done | illegal | declined => cases linked.answered runner _ found
  | signalled runner found =>
    rw [System.deed_of_found found]
    exact counted.write runner .signalled rfl rfl rfl rfl rfl (Nat.add_assoc _ _ _).symm
  | hosted own host happened plain stepped =>
    exact rests (counted.of_heard (System.heard_of_step linked order stepped plain.begins_nothing))
      rfl
  | finished own task host happened ends ended stepped =>
    have kept := counted.of_heard (System.heard_of_step linked order stepped ends.begins_nothing)
    exact rests (kept.keep rfl rfl rfl rfl rfl rfl) rfl
  | began | starting | seeded | sawAll | stopping | closing | gaveUp =>
    exact rests (counted.keep rfl rfl rfl rfl rfl rfl) rfl
  | joined => exact rests (counted.keep rfl rfl rfl rfl rfl rfl) rfl
  | watched main more sent =>
    refine rests (counted.keep rfl rfl rfl rfl rfl ?_) rfl
    dsimp only
    omega

end Counted

/-- Everything that is known of a load run after the given deeds and events. -/
structure System.InOrder (capacity loops : Nat) (system : System)
    (deeds : List (Runner × Deed)) (events : List Event) : Prop where
  host : ∃ moves told, Hosted.System.InOrder capacity moves system.host told
  linked : system.Linked
  wound : system.WoundUp
  seated : system.Seated
  unfailed : system.host.dispatcher.Unfailed
  tallied : system.host.dispatcher.Tallied (dispatched events)
  unbroken : ∀ call loop?, .brokenOff call loop? ∉ dispatched events
  flows : Flows system.turns deeds
  answered : Answered system.turns deeds (replies events)
  stories : ∀ runner, Story (replies events) (system.progress? runner) (deedsOf runner deeds)
  counted : Counted loops system deeds
  offers : offersIn events = deeds.filterMap (·.2.offer?)

namespace System.InOrder

variable {capacity loops : Nat} {system : System} {deeds : List (Runner × Deed)}
  {events : List Event} {move : Move} {result : System × List Event}

/-- A new dispatcher over a new pool is in order. -/
theorem fresh (capacity threads queueCapacity loops chains : Nat)
    (idleTimeout : Option Duration.Millis) :
    InOrder capacity loops
      (.fresh (.fresh (.fresh capacity idleTimeout) (.fresh threads queueCapacity)) loops chains)
      [] [] where
  host := ⟨[], [], .fresh capacity idleTimeout threads queueCapacity⟩
  linked := .fresh _ _ loops chains rfl
  wound := ⟨nofun, nofun⟩
  seated := .fresh _ loops chains
  unfailed := .fresh capacity idleTimeout
  tallied := .fresh capacity idleTimeout
  unbroken _ _ := nofun
  flows := ⟨rfl, rfl, rfl⟩
  answered _ _ := rfl
  stories _ := ⟨[], [], rfl, nofun, .absent⟩
  counted := .fresh _ loops chains
  offers := rfl

/-- Every section leaves a load run in order. -/
theorem of_section (order : InOrder capacity loops system deeds events)
    (made : Section system move result) :
    InOrder capacity loops result.1 (deeds ++ (system.deed? move).toList) (events ++ result.2) := by
  obtain ⟨moves, told, host⟩ := order.host
  have turned := turned_of_section order.linked host made
  refine
    { host := ?_
      linked := order.linked.of_section host made
      wound := order.wound.of_section order.linked host made
      seated := order.seated.of_section order.linked host made
      unfailed := ?_
      tallied := ?_
      unbroken := fun call loop? happened => ?_
      flows := order.flows.of_turned order.linked.distinct turned
      answered := ?_
      stories := ?_
      counted := order.counted.of_section order.linked host made
      offers := ?_ }
  · rcases host_of_section made with ⟨same, -⟩ | ⟨own, happened, -, stepped, -⟩
    · exact ⟨moves, told, same ▸ host⟩
    · obtain ⟨later, new, ordered⟩ := host.of_section (Hosted.System.section_of_step stepped)
      exact ⟨_, _, ordered⟩
  · rcases dispatcher_of_section made with ⟨same, -⟩ | ⟨own, ⟨returns, -⟩, stepped⟩
    · rw [same]
      exact order.unfailed
    · exact order.unfailed.of_step host.dispatcher.parkedReady stepped returns
  · rw [dispatched_append]
    rcases dispatcher_of_section made with ⟨same, silent⟩ | ⟨own, -, stepped⟩
    · rw [same, silent, List.append_nil]
      exact order.tallied
    · exact order.tallied.of_section
        (Dispatcher.System.section_of_step host.dispatcher.parkedReady stepped)
  · rw [dispatched_append] at happened
    rcases List.mem_append.mp happened with before | now
    · exact order.unbroken call loop? before
    · rcases dispatcher_of_section made with ⟨-, silent⟩ | ⟨own, ⟨-, whole⟩, stepped⟩
      · rw [silent] at now
        cases now
      · exact whole call (Dispatcher.System.move_of_event
          (Dispatcher.System.section_of_step host.dispatcher.parkedReady stepped) now rfl)
  · rw [replies_append]
    exact order.answered.of_turned order.linked.distinct turned
  · rw [replies_append]
    exact stories_of_turned order.stories turned
  · rw [offersIn_append, order.offers, offersIn_of_section host made, List.filterMap_append]

end System.InOrder

end Standby.LoadRun
