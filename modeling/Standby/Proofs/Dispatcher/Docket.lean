import Standby.Proofs.Dispatcher.Crew
import Standby.Proofs.Register

/-!
# What a section does to the calls

Every section is reduced to what becomes of the calls and of the counts that they make:
a call begins, one call takes its course from one stage to the next or to its end or is
broken off, or the calls only wake. Of the calls that offer a task each stage is told
apart; all others count nothing and create nothing.

The register of calls is only looked at through what the offers in it weigh together.
So a balance between counts, offers and worker loops is checked on the few courses that
an offer can take.
-/

namespace Standby.Dispatcher

open Executor (Refusal)

/-- The call offers a task. -/
def Call.isOffer : Call → Bool
  | .entering (.offer _) | .submitting _ _ | .countingSpawned _ _ | .countingRefused _ _ _
  | .countingDeclined _ | .fallingBack => true
  | _ => false

/-- Somebody offers a task. -/
def Event.isOffered : Event → Bool
  | .invoked _ (.offer _) => true
  | _ => false

/-- A worker loop was created. -/
def Event.isCreated : Event → Bool
  | .created _ => true
  | _ => false

/-- An offer was broken off before it and its worker loop were counted. -/
def Event.leavesUncounted : Event → Bool
  | .brokenOff _ (some _) => true
  | _ => false

/-- The event tells of no offer and of no loop that is created or broken off. -/
def Event.isMinor : Event → Bool
  | .invoked _ (.offer _) | .created _ | .brokenOff _ (some _) => false
  | _ => true

/-- A weight that only offers have. -/
def Call.WeighsOffers (weight : Call → Nat) : Prop := ∀ call, call.isOffer = false → weight call = 0

/-- Where a declined task goes: on to the executor, or back with the answer. -/
def Call.declined? (fallsBack : Bool) : Option Call := if fallsBack then some .fallingBack else none

/-- How a call goes on in a section: its stage before and after it, unless it is answered,
what it counts, and how many worker loops it creates. -/
inductive Course : Call → Option Call → Option Count → Nat → Prop where
  /-- The call offers no task. -/
  | plain (before : Call) (after : Option Call) (offers : before.isOffer = false)
      (still : after.any Call.isOffer = false) : Course before after none 0
  | accepted (fallsBack : Bool) :
    Course (.entering (.offer fallsBack)) none (some .accepted) 0
  | turnedDown (fallsBack : Bool) :
    Course (.entering (.offer fallsBack)) (Call.declined? fallsBack) (some .declined) 0
  | created (fallsBack : Bool) (worker : WorkerId) :
    Course (.entering (.offer fallsBack)) (some (.submitting fallsBack worker)) none 1
  | taken (fallsBack : Bool) (worker : WorkerId) :
    Course (.submitting fallsBack worker) (some (.countingSpawned fallsBack worker)) none 0
  | refused (fallsBack : Bool) (worker : WorkerId) (refusal : Refusal) :
    Course (.submitting fallsBack worker) (some (.countingRefused fallsBack worker refusal)) none 0
  | spawned (fallsBack : Bool) (worker : WorkerId) :
    Course (.countingSpawned fallsBack worker) (some (.countingDeclined fallsBack))
      (some .spawned) 0
  | spawnFailed (fallsBack : Bool) (worker : WorkerId) (refusal : Refusal) :
    Course (.countingRefused fallsBack worker refusal) (some (.countingDeclined fallsBack))
      (some .spawnFailures) 0
  | declined (fallsBack : Bool) :
    Course (.countingDeclined fallsBack) (Call.declined? fallsBack) (some .declined) 0
  | passedOn : Course .fallingBack none none 0

/-- What becomes of the calls in a section, and of the counts that they make. -/
inductive Docket (system next : System) (events : List Event) : Prop where
  /-- A call begins. -/
  | begun (request : Request)
      (weigh : ∀ weight, next.calls.total weight =
        system.calls.total weight + weight (.entering request))
      (tally : next.tally = system.tally)
      (loops : next.workers.length = system.workers.length)
      (said : events = [.invoked system.calls.next request])
  /-- No call goes on, except that some wake. -/
  | kept
      (weigh : ∀ weight, Call.WeighsOffers weight →
        next.calls.total weight = system.calls.total weight)
      (tally : ∀ count, count.isOfWorkers = false →
        next.tally.get count = system.tally.get count)
      (loops : next.workers.length = system.workers.length)
      (quiet : ∀ event ∈ events, event.isMinor = true)
  /-- A call is broken off. -/
  | brokenOff (call : Nat) {stage : Call} {loop? : Option WorkerId}
      (has : stage.submission? = some loop?)
      (weigh : ∀ weight, next.calls.total weight + weight stage = system.calls.total weight)
      (tally : next.tally = system.tally)
      (loops : next.workers.length = system.workers.length)
      (said : events = [.brokenOff call loop?])
  /-- One call takes its course. -/
  | advanced {before : Call} {after : Option Call} {count? : Option Count} {created : Nat}
      (course : Course before after count? created)
      (weigh : ∀ weight, Call.WeighsOffers weight →
        next.calls.total weight + weight before =
          system.calls.total weight + (after.map weight).getD 0)
      (tally : next.tally = (count?.map system.tally.add).getD system.tally)
      (loops : next.workers.length = system.workers.length + created)
      (quiet : ∀ event ∈ events, event.isOffered = false ∧ event.leavesUncounted = false)
      (grown : events.countP Event.isCreated = created)

/-- A minor event is none of those that the accounts of calls are about. -/
theorem Event.of_minor {event : Event} (minor : event.isMinor = true) :
    event.isOffered = false ∧ event.isCreated = false ∧ event.leavesUncounted = false := by
  cases event with
  | invoked call request => cases request <;> first | exact ⟨rfl, rfl, rfl⟩ | cases minor
  | brokenOff call loop? => cases loop? <;> first | exact ⟨rfl, rfl, rfl⟩ | cases minor
  | created => cases minor
  | _ => exact ⟨rfl, rfl, rfl⟩

/-- Among minor events none is counted. -/
theorem Event.countP_of_minor {events : List Event}
    (minor : ∀ event ∈ events, event.isMinor = true) :
    events.countP Event.isOffered = 0 ∧ events.countP Event.isCreated = 0 ∧
      events.countP Event.leavesUncounted = 0 := by
  refine ⟨?_, ?_, ?_⟩ <;> refine List.countP_eq_zero.mpr fun event held => ?_
  · simp [(of_minor (minor event held)).1]
  · simp [(of_minor (minor event held)).2.1]
  · simp [(of_minor (minor event held)).2.2]

/-- The counts of calls stay when a worker counts something. -/
theorem Tally.get_add_of_worker (tally : Tally) {counted : Count}
    (worker : counted.isOfWorkers = true) (count : Count) (own : count.isOfWorkers = false) :
    (tally.add counted).get count = tally.get count := by
  rw [get_add, if_neg]
  rintro rfl
  cases own.symm.trans worker

/-- Waking is not weighed. -/
theorem Call.WeighsOffers.wake {weight : Call → Nat} (offers : Call.WeighsOffers weight)
    (calls : Register Call) :
    (calls.map fun _ call => call.wake).total weight = calls.total weight := by
  refine Register.total_map weight calls fun _ call => ?_
  cases call with
  | sleeping awaited => exact (offers _ rfl).trans (offers _ rfl).symm
  | _ => rfl

/-- An answer, and a call that offers nothing, have no weight. -/
theorem Call.WeighsOffers.after {weight : Call → Nat} (offers : Call.WeighsOffers weight)
    {after : Option Call} (still : after.any Call.isOffer = false) :
    (after.map weight).getD 0 = 0 := by
  cases after with
  | none => rfl
  | some later => exact offers later (by simpa using still)

namespace Docket

variable {system next : System} {events : List Event} {call : Nat} {before : Call}

/-- A call is answered. -/
theorem removed (found : system.calls.get? call = some before) {count? : Option Count}
    (course : Course before none count? 0) (calls : next.calls = system.calls.remove call)
    (tally : next.tally = (count?.map system.tally.add).getD system.tally)
    (loops : next.workers.length = system.workers.length)
    (quiet : ∀ event ∈ events, event.isMinor = true) :
    Docket system next events := by
  refine .advanced course (fun weight _ => ?_) tally loops
    (fun event held => (Event.of_minor (quiet event held)).imp_right And.right)
    (Event.countP_of_minor quiet).2.1
  rw [calls]
  exact Register.total_remove weight found

/-- A call goes on. -/
theorem put (found : system.calls.get? call = some before) {after : Call}
    {count? : Option Count} (course : Course before (some after) count? 0)
    (calls : next.calls = system.calls.put call after)
    (tally : next.tally = (count?.map system.tally.add).getD system.tally)
    (loops : next.workers.length = system.workers.length)
    (quiet : ∀ event ∈ events, event.isMinor = true) :
    Docket system next events := by
  refine .advanced course (fun weight _ => ?_) tally loops
    (fun event held => (Event.of_minor (quiet event held)).imp_right And.right)
    (Event.countP_of_minor quiet).2.1
  rw [calls]
  exact Register.total_put weight found

/-- A task goes back to its caller or on to the executor. -/
theorem decline (found : system.calls.get? call = some before) {fallsBack : Bool}
    (course : Course before (Call.declined? fallsBack) (some .declined) 0) :
    Docket system (system.decline call fallsBack).1 (system.decline call fallsBack).2 := by
  cases fallsBack with
  | true =>
    exact put found course rfl rfl rfl
      (by simp [System.decline, System.giveBack, Event.isMinor])
  | false =>
    exact removed found course rfl rfl rfl
      (by simp [System.decline, System.giveBack, System.reply, Event.isMinor])

/-- A stop looks for the last worker. -/
theorem awaitLastWorker (found : system.calls.get? call = some before)
    (offers : before.isOffer = false) (looking : System) (calls : looking.calls = system.calls)
    (tally : looking.tally = system.tally)
    (loops : looking.workers.length = system.workers.length)
    (quiet : ∀ event ∈ events, event.isMinor = true) :
    Docket system (looking.awaitLastWorker call) events := by
  have course (after : Call) (still : after.isOffer = false) :
      Course before (some after) none 0 := .plain before (some after) offers still
  unfold System.awaitLastWorker
  split
  · exact put found (course .announcing rfl) (by rw [← calls]; rfl) tally loops quiet
  · exact put found (course (.sleeping .lastWorker) rfl) (by rw [← calls]; rfl) tally loops quiet

/-- No call is concerned. -/
theorem still (calls : next.calls = system.calls)
    (loops : next.workers.length = system.workers.length)
    (quiet : ∀ event ∈ events, event.isMinor = true)
    (tally : ∀ count, count.isOfWorkers = false → next.tally.get count = system.tally.get count) :
    Docket system next events :=
  .kept (fun _ _ => by rw [calls]) tally loops quiet

/-- Every section does one of these things to the calls. -/
theorem of_section {move : Move} {result : System × List Event}
    (made : Section system move result) : Docket system result.1 result.2 := by
  cases made with
  | invoked request =>
    exact .begun request (fun weight => Register.total_add weight _ _) rfl rfl rfl
  | illegal call request operation found needs =>
    refine removed found (.plain _ _ ?_ rfl) rfl rfl rfl
      (by simp [System.reply, Event.isMinor])
    rcases needs with rfl | ⟨_, rfl⟩ <;> rfl
  | started call found | retimed call timeout found =>
    exact removed found (.plain _ _ rfl rfl) rfl rfl rfl
      (by simp [System.reply, Event.isMinor])
  | turnedDown call fallsBack found => exact decline found (.turnedDown fallsBack)
  | claimed call fallsBack number remaining found =>
    exact removed found (.accepted fallsBack) rfl rfl (List.length_modify ..)
      (by simp [System.handOver, System.reply, Event.isMinor])
  | created call fallsBack found =>
    refine .advanced (.created fallsBack system.workers.length)
      (fun weight _ => Register.total_put weight found) rfl ?_
      (by simp [Event.isOffered, Event.leavesUncounted]) rfl
    exact List.length_append
  | counted call fallsBack count event stage found answered =>
    rcases answered with ⟨worker, rfl, rfl, rfl⟩ | ⟨worker, refusal, rfl, rfl, rfl⟩
    · exact put found (.spawned fallsBack worker) rfl rfl rfl
        (by simp [Event.isMinor])
    · exact put found (.spawnFailed fallsBack worker refusal) rfl rfl rfl
        (by simp [Event.isMinor])
  | declined call fallsBack found => exact decline found (.declined fallsBack)
  | restful call found =>
    rcases found with found | found <;>
      exact removed found (.plain _ _ rfl rfl) rfl rfl rfl
        (by simp [System.reply, Event.isMinor])
  | joined call found =>
    rcases found with ⟨found, _⟩ | ⟨found, _⟩ <;>
      exact put found (.plain _ _ rfl rfl) rfl rfl rfl (by simp)
  | stopBegun call found =>
    exact awaitLastWorker found rfl _ rfl rfl (List.length_mapIdx ..)
      (by simp [System.retireAll, Event.isMinor])
  | looked call found => exact awaitLastWorker found rfl _ rfl rfl rfl (by simp)
  | announced call found =>
    have held : system.announce.calls.get? call = some .announcing := by
      simp [System.announce, found, Call.wake]
    refine .advanced (.plain .announcing none rfl rfl) (fun weight offers => ?_) rfl rfl
      (by simp [Event.isOffered, Event.leavesUncounted]) rfl
    rw [← offers.wake system.calls]
    exact Register.total_remove weight held
  | taken call fallsBack worker found =>
    exact put found (.taken fallsBack worker) rfl rfl rfl (by simp)
  | refused call fallsBack worker refusal found =>
    exact put found (.refused fallsBack worker refusal) rfl rfl rfl (by simp)
  | passedOn call refusal found =>
    exact removed found .passedOn rfl rfl rfl
      (by simp [System.reply, Event.isMinor])
  | brokenOff call stage loop? found has =>
    exact .brokenOff call has (fun weight => Register.total_remove weight found) rfl rfl rfl
  | departed number epoch departure found =>
    cases departure <;>
      exact .kept (fun _ offers => offers.wake system.calls) (fun _ _ => rfl)
        (List.length_modify ..) (by simp [System.depart, Event.isMinor])
  | failed | idled =>
    exact still rfl (List.length_modify ..) (by simp [Event.isMinor])
      (system.tally.get_add_of_worker rfl)
  | abandoned unused active =>
    refine still (System.letGo_calls active) ?_ ?_ fun _ _ => by rw [System.letGo_tally active]
    · rw [System.letGo_workers active]
      exact List.length_mapIdx ..
    · simp [System.letGo_of_active active, System.retireAll, Event.isMinor]
  | letGo => exact still rfl rfl (by simp) fun _ _ => rfl
  | stale | registered | turnedAway | discarded | forgotten | began | told | expired
  | withdrawn | kept | ended | reported | spilled | broke | parkedAgain | leftAfterTask
  | leftRetired =>
    exact still rfl (List.length_modify ..) (by simp [Event.isMinor])
      fun _ _ => rfl

end Docket

end Standby.Dispatcher
