import Standby.Proofs.Dispatcher.Crew
import Standby.Proofs.Dispatcher.Origin
import Standby.Proofs.Hosted.Section
import Standby.Proofs.Pool.Delivery

/-!
# Worker loops in a pool

A dispatcher submits every worker loop once, in the section after it was created, and
nobody else can submit it. Since a pool begins a job once, no two threads ever run the same
loop. A loop that was launched and has not ended is on a thread: it is launched by one, and
the thread keeps it until the end.
-/

namespace Standby.Dispatcher

/-- The loop was launched and accepted, and has not ended. -/
def Stage.isUnderway : Stage → Bool
  | .serving _ _ _ | .announcing _ | .counting _ => true
  | .queued | .gone _ => false

/-- No loop is forgotten. -/
theorem Crew.length_le {system next : System} {events : List Event} {own : Bool}
    (crew : Crew system next events own) : system.workers.length ≤ next.workers.length := by
  cases crew with
  | same workers => simp [workers]
  | created workers => simp [workers]
  | told workers => simp [workers]
  | advanced number epoch before after change found workers => simp [workers]

namespace System

variable {system : System} {move : Move} {result : System × List Event}

/-- A worker registers when it is launched. -/
theorem eq_launch_of_registered (made : Section system move result) {number : WorkerId}
    (registers : .registered number ∈ result.2) : move = .launch number :=
  move_of_event made registers rfl

/-- Only a launch sets a loop under way. -/
theorem underway_of_section (made : Section system move result) {number : WorkerId}
    {worker : Worker} (found : result.1.workers[number]? = some worker)
    (underway : worker.stage.isUnderway = true) :
    (∃ before, system.workers[number]? = some before ∧ before.stage.isUnderway = true) ∨
      move = .launch number := by
  obtain ⟨own, crew⟩ : ∃ own, Crew system result.1 result.2 own := ⟨_, crew_of_section made⟩
  cases crew with
  | same workers => exact .inl ⟨worker, workers ▸ found, underway⟩
  | created workers =>
    rw [workers, Counting.getElem?_concat] at found
    split at found
    · obtain rfl := Option.some.inj found
      cases underway
    · exact .inl ⟨worker, found, underway⟩
  | told workers =>
    rw [workers, List.getElem?_mapIdx] at found
    obtain ⟨before, held, rfl⟩ := Option.map_eq_some_iff.mp found
    refine .inl ⟨before, held, ?_⟩
    rcases system.roster.tell_cases number before with same | ⟨_, _, _, rfl, _⟩
    · rwa [same] at underway
    · rfl
  | advanced other epoch before after change held workers changed still advance =>
    by_cases here : other = number
    · subst here
      obtain rfl : ⟨epoch, after⟩ = worker := by simpa [workers, held, changed] using found
      obtain ⟨events, happened⟩ : ∃ events, result.2 = events := ⟨_, rfl⟩
      rw [happened] at advance
      cases advance with
      | registered => exact .inr (eq_launch_of_registered made (by simp [happened]))
      | stale | turnedAway | discarded | broke | announcedAfterTask | announcedRetired
      | idled => cases underway
      | _ => exact .inl ⟨_, held, rfl⟩
    · rw [workers, List.getElem?_modify_ne _ _ here] at found
      exact .inl ⟨worker, found, underway⟩

/-- A call that is submitting a loop after its own move has just created it. -/
theorem newest_of_submitting (made : Section system move result) {call : Nat}
    (caller : Hosted.System.callOf? move = some call) {fallsBack : Bool} {worker : WorkerId}
    (found : result.1.calls.get? call = some (.submitting fallsBack worker)) :
    worker = system.workers.length ∧ result.1.workers.length = worker + 1 := by
  cases made with
  | created other own held running nobody room =>
    obtain rfl := Option.some.inj caller
    obtain ⟨rfl, rfl⟩ : own = fallsBack ∧ system.workers.length = worker := by
      simpa [setCall, create, Register.get?_put, held] using found
    exact ⟨rfl, by simp [create, setCall]⟩
  | illegal other | started other | retimed other | claimed other | restful other
  | announced other | passedOn other | brokenOff other =>
    obtain rfl := Option.some.inj caller
    simp [reply, handOver, Register.get?_remove] at found
  | turnedDown other own | declined other own =>
    obtain rfl := Option.some.inj caller
    cases own <;>
      simp [decline, giveBack, reply, setCall, Register.get?_remove, Register.get?_put,
        System.count] at found
  | counted other | joined other | taken other | refused other =>
    obtain rfl := Option.some.inj caller
    simp [setCall, Register.get?_put] at found
  | stopBegun other | looked other =>
    obtain rfl := Option.some.inj caller
    unfold awaitLastWorker at found
    split at found <;> simp [setCall, setPhase, Register.get?_put] at found
  | _ => cases caller

end System

end Standby.Dispatcher

namespace Standby.Pool.System

variable {α : Type} {system : System α} {move : Move α} {result : System α × List Event}

/-- What a thread runs it keeps running until it ends. -/
theorem running_of_section (made : Section system move result) {thread number : Nat} {job : α}
    (found : system.threads[thread]? = some (.running number job)) :
    result.1.threads[thread]? = some (.running number job) ∨
      ∃ outcome, move = .finish thread outcome := by
  have turned (other : Nat) (before after : Thread α)
      (held : system.threads[other]? = some before) (changes : before ≠ .running number job)
      (threads : result.1.threads = system.threads.set other after) :
      result.1.threads[thread]? = some (.running number job) := by
    have different : other ≠ thread := by
      rintro rfl
      exact changes (Option.some.inj (held.symm.trans found))
    rw [threads, List.getElem?_set_ne different]
    exact found
  cases made with
  | invoked | late | admitted | closedBefore | declared | missed | reached | counted
  | obstructed | sent | uncounted | parted | letGo => exact .inl found
  | started other held | took other _ _ _ held | stopped other held | began other _ _ held
  | recorded other _ _ held | spilled other _ _ held | lost other held
  | abandoned other held => exact .inl (turned other _ _ held nofun rfl)
  | returned other _ _ held | failed other _ _ _ held =>
    by_cases here : other = thread
    · subst here
      exact .inr ⟨_, rfl⟩
    · left
      simp only [setThread]
      rw [List.getElem?_set_ne here]
      exact found

/-- No job is with two threads at once. -/
theorem InOrder.countP_runs_le_one {moves : List (Move α)} {events : List Event}
    (order : InOrder moves system events) (number : Nat) :
    system.threads.countP (·.runs number) ≤ 1 := by
  have placed := order.flow.placed number
  by_cases queued : .queued number ∈ events
  · have accepted := (order.accepted_of_queued queued).2.placed
    omega
  · have never : (events.filterMap Event.queued?).count number = 0 := by
      refine List.count_eq_zero.mpr fun happened => ?_
      obtain ⟨event, member, same⟩ := List.mem_filterMap.mp happened
      cases event <;> simp_all [Event.queued?]
    omega

end Standby.Pool.System

namespace Standby.Hosted

open Dispatcher (WorkerId Worker)
open Pool (Asks)

/-- The thread runs the loop of a worker. -/
def loopOf? : Pool.Thread Job → Option WorkerId
  | .running _ (.loop worker) => some worker
  | _ => none

namespace System

variable {system next : System} {capacity : Nat} {moves : List (Pool.Move Job)}
  {events : List Pool.Event}

/-- A job runs when some thread runs it. -/
theorem runs_iff {job : Job} : system.runs job = true ↔
    ∃ (thread number : Nat), system.pool.threads[thread]? = some (.running number job) := by
  simp only [runs, List.any_eq_true, beq_iff_eq, List.mem_iff_getElem?]
  constructor
  · rintro ⟨stage, ⟨thread, found⟩, same⟩
    cases stage with
    | running number own =>
      obtain rfl := Option.some.inj same
      exact ⟨thread, number, found⟩
    | _ => cases same
  · rintro ⟨thread, number, found⟩
    exact ⟨_, ⟨thread, found⟩, rfl⟩

/-- The pool never breaks down under a submission, so no call of the dispatcher is broken off. -/
theorem not_brokenOff_of_agrees {move : Dispatcher.Move}
    {result : Dispatcher.System × List Dispatcher.Event}
    (made : Dispatcher.Section system.dispatcher move result)
    (agrees : system.poolAgrees move = true) {call : Nat} {loop? : Option WorkerId} :
    .brokenOff call loop? ∉ result.2 := by
  intro happened
  obtain rfl := Dispatcher.System.move_of_event made happened rfl
  cases agrees

/-- A dispatcher and its pool, as every run of them leaves them. The moves of the pool and
what happened there are given. -/
structure InOrder (capacity : Nat) (moves : List (Pool.Move Job)) (system : System)
    (events : List Pool.Event) : Prop where
  dispatcher : Dispatcher.System.InOrder capacity system.dispatcher
  pool : Pool.System.InOrder moves system.pool events
  /-- The loops that were submitted have been created. -/
  created : ∀ number worker : Nat, Asks moves number (.submit (.loop worker)) →
    worker < system.dispatcher.workers.length
  /-- No loop was submitted twice. -/
  once : ∀ number other worker : Nat, Asks moves number (.submit (.loop worker)) →
    Asks moves other (.submit (.loop worker)) → number = other
  /-- A loop that is under way runs on a thread. -/
  attended : ∀ number worker, system.dispatcher.workers[number]? = some worker →
    worker.stage.isUnderway = true → system.runs (.loop number) = true

namespace InOrder

/-- A new dispatcher over a new pool is in order. -/
theorem fresh (capacity : Nat) (idleTimeout : Option Duration.Millis)
    (threads queueCapacity : Nat) :
    InOrder capacity []
      (.fresh (.fresh capacity idleTimeout) (.fresh threads queueCapacity)) [] where
  dispatcher := .fresh capacity idleTimeout
  pool := .fresh threads queueCapacity
  created _ _ asks := by cases asks
  once _ _ _ asks := by cases asks
  attended number worker found := by simp [System.fresh, Dispatcher.System.fresh] at found

/-- Nobody but the dispatcher submits loops. -/
theorem asks_of_agrees {move : Pool.Move Job} (agrees : system.dispatcherAgrees move = true)
    {number : Nat} {worker : WorkerId}
    (asks : Asks (moves ++ [move]) number (.submit (.loop worker))) :
    Asks moves number (.submit (.loop worker)) := by
  cases move with
  | invoke request =>
    rw [Pool.asks_invoke] at asks
    split at asks
    · subst asks
      cases agrees
    · exact asks
  | proceed | work | finish | letGo => exact (Pool.asks_concat_of_none rfl).mp asks

/-- A loop stays attended when the dispatcher moves. -/
theorem attended_of_dispatcher (order : InOrder capacity moves system events)
    {move : Dispatcher.Move} {result : Dispatcher.System × List Dispatcher.Event}
    (agrees : system.poolAgrees move = true)
    (made : Dispatcher.Section system.dispatcher move result) {number : WorkerId}
    {worker : Worker} (found : result.1.workers[number]? = some worker)
    (underway : worker.stage.isUnderway = true) : system.runs (.loop number) = true := by
  rcases Dispatcher.System.underway_of_section made found underway with
    ⟨before, held, was⟩ | rfl
  · exact order.attended number before held was
  · exact agrees

/-- A loop stays attended when the pool moves: its thread keeps it until it has ended. -/
theorem attended_of_pool (order : InOrder capacity moves system events)
    {move : Pool.Move Job} {result : Pool.System Job × List Pool.Event}
    (agrees : system.dispatcherAgrees move = true)
    (made : Pool.Section system.pool move result)
    (pool : next.pool = result.1) {number : WorkerId} {worker : Worker}
    (found : system.dispatcher.workers[number]? = some worker)
    (underway : worker.stage.isUnderway = true) : next.runs (.loop number) = true := by
  obtain ⟨thread, job, runs⟩ := runs_iff.mp (order.attended number worker found underway)
  rcases Pool.System.running_of_section made runs with stays | ⟨outcome, rfl⟩
  · exact runs_iff.mpr ⟨thread, job, pool ▸ stays⟩
  · -- The thread may only let go of a loop that has ended.
    have ended : system.hasEnded number = true := by
      simp only [dispatcherAgrees, runs, Option.bind_some, jobOf?, Bool.and_eq_true] at agrees
      exact agrees.1
    rw [hasEnded, found, Option.map_some] at ended
    cases stage : worker.stage <;> simp_all [Dispatcher.Stage.isUnderway]

/-- Every section leaves the two in order. -/
theorem of_section (order : InOrder capacity moves system events) {move : Move}
    {result : System × List Event} (made : Section system move result) :
    ∃ later new, InOrder capacity (moves ++ later) result.1 (events ++ new) := by
  cases made with
  | dispatcher move dispatcher happened submissions agrees stepped =>
    have section_made := Dispatcher.System.section_of_step order.dispatcher.parkedReady stepped
    refine ⟨[], [], ?_⟩
    rw [List.append_nil, List.append_nil]
    exact
      { dispatcher := order.dispatcher.of_step stepped
        pool := order.pool
        created := fun number worker asks => Nat.lt_of_lt_of_le (order.created number worker asks)
          (Dispatcher.System.crew_of_section section_made).length_le
        once := order.once
        attended := fun _ _ => order.attended_of_dispatcher agrees section_made }
  | submitted move call stage job dispatcher happened pool later submissions agrees stepped
      caller found owes invoked =>
    have section_made := Dispatcher.System.section_of_step order.dispatcher.parkedReady stepped
    have longer : system.dispatcher.workers.length ≤ dispatcher.workers.length :=
      (Dispatcher.System.crew_of_section section_made).length_le
    have invoked_made := Pool.System.section_of_step invoked
    -- A loop that is submitted now has been created in this very section.
    have newest (worker : Nat) (same : job = .loop worker) :
        worker = system.dispatcher.workers.length ∧ dispatcher.workers.length = worker + 1 := by
      subst same
      cases owes
      exact Dispatcher.System.newest_of_submitting section_made caller found
    refine ⟨[.invoke (.submit job)], later, ?_⟩
    exact
      { dispatcher := order.dispatcher.of_step stepped
        pool := order.pool.of_section invoked_made
        created := fun number worker asks => by
          rw [Pool.asks_invoke] at asks
          split at asks
          · have latest := newest worker (by simpa using asks)
            exact Nat.lt_of_lt_of_eq (Nat.lt_succ_self worker) latest.2.symm
          · exact Nat.lt_of_lt_of_le (order.created number worker asks) longer
        once := fun number other worker asks also => by
          rw [Pool.asks_invoke] at asks also
          split at asks <;> split at also
          · omega
          · have latest := newest worker (by simpa using asks)
            have earlier := order.created other worker also
            omega
          · have latest := newest worker (by simpa using also)
            have earlier := order.created number worker asks
            omega
          · exact order.once number other worker asks also
        attended := fun number worker held underway => by
          have runs := order.attended_of_dispatcher agrees section_made held underway
          cases invoked_made
          exact runs }
  | pool move pool happened submissions agrees stepped =>
    have section_made := Pool.System.section_of_step stepped
    exact ⟨[move], happened,
      { dispatcher := order.dispatcher
        pool := order.pool.of_section section_made
        created := fun number worker asks =>
          order.created number worker (asks_of_agrees agrees asks)
        once := fun number other worker asks also =>
          order.once number other worker (asks_of_agrees agrees asks) (asks_of_agrees agrees also)
        attended := fun _ _ => order.attended_of_pool agrees section_made rfl }⟩

/-- No loop runs on two threads. -/
theorem countP_loop_le_one (order : InOrder capacity moves system events) (worker : WorkerId) :
    system.pool.threads.countP (fun thread => loopOf? thread == some worker) ≤ 1 := by
  by_cases somebody : ∃ thread ∈ system.pool.threads, loopOf? thread = some worker
  · obtain ⟨first, member, same⟩ := somebody
    obtain ⟨position, found⟩ := List.mem_iff_getElem?.mp member
    cases first with
    | running number job =>
      cases job with
      | loop own =>
        obtain rfl := Option.some.inj same
        have asks := order.pool.faithful.taken position _ (number, .loop own) found rfl
        -- All threads with this loop have it under the number of its only submission.
        refine Nat.le_trans (List.countP_mono_left fun thread held runs => ?_)
          (order.pool.countP_runs_le_one number)
        obtain ⟨place, stands⟩ := List.mem_iff_getElem?.mp held
        cases thread with
        | running other job =>
          cases job with
          | loop also =>
            obtain rfl : also = own := by simpa [loopOf?] using runs
            have asked := order.pool.faithful.taken place _ (other, .loop also) stands rfl
            simpa [Pool.Thread.runs] using order.once other number also asked asks
          | task | other => simp [loopOf?] at runs
        | _ => simp [loopOf?] at runs
      | task | other => cases same
    | _ => cases same
  · have nobody : system.pool.threads.countP (fun thread => loopOf? thread == some worker) = 0 :=
      List.countP_eq_zero.mpr fun thread member runs =>
        somebody ⟨thread, member, by simpa using runs⟩
    omega

end InOrder

/-- The pool keeps all its threads. -/
theorem length_threads_of_section {move : Move} {result : System × List Event}
    (made : Section system move result) :
    result.1.pool.threads.length = system.pool.threads.length := by
  cases made with
  | dispatcher => rfl
  | submitted move call stage job dispatcher happened pool later submissions agrees stepped
      caller found owes invoked =>
    exact (Pool.System.fixed_of_section (Pool.System.section_of_step invoked)).2.1
  | pool move pool happened submissions agrees stepped =>
    exact (Pool.System.fixed_of_section (Pool.System.section_of_step stepped)).2.1

/-- Every run leaves the two in order, with all threads of the pool. -/
theorem inOrder_of_play {idleTimeout : Option Duration.Millis} {threads queueCapacity : Nat}
    {made : List Move} {result : System × List Event}
    (run : (System.fresh (.fresh capacity idleTimeout) (.fresh threads queueCapacity)).play made =
      some result) :
    (∃ moves events, InOrder capacity moves result.1 events) ∧
      result.1.pool.threads.length = threads := by
  let invariant (system : System) (_ : List Event) : Prop :=
    (∃ moves events, InOrder capacity moves system events) ∧
      system.pool.threads.length = threads
  refine play_induction invariant ?_ []
    ⟨⟨[], [], .fresh capacity idleTimeout threads queueCapacity⟩, List.length_replicate⟩ run
  rintro system - move result ⟨⟨moves, events, order⟩, staff⟩ made
  obtain ⟨later, new, ordered⟩ := order.of_section made
  exact ⟨⟨_, _, ordered⟩, (length_threads_of_section made).trans staff⟩

end System

end Standby.Hosted
