import Standby.Proofs.Hosted.Places

/-!
# Loops that the pool has not taken

A worker loop comes to the pool by the call of the dispatcher that has created it, and by no
other. As long as the pool has not taken it, no thread has it, so nobody launches it. When the pool
refuses it, the dispatcher can drop it, and its call can hear of that. So no call of the dispatcher
waits in vain for the pool.
-/

namespace Standby.Dispatcher

/-- The loop was not launched: it waits for that, or was dropped. -/
def Stage.isUnlaunched : Stage → Bool
  | .queued | .gone .discarded => true
  | _ => false

namespace System

variable {system : System} {move : Move} {result : System × List Event} {call : Nat}
  {fallsBack : Bool} {worker : WorkerId}

/-- A call that submits a loop has done so before, or has just created it. -/
theorem submitting_of_section (made : Section system move result)
    (found : result.1.calls.get? call = some (.submitting fallsBack worker)) :
    move.isFor call = false ∧ system.calls.get? call = some (.submitting fallsBack worker) ∨
      move.isFor call = true ∧ system.workers[worker]? = none ∧
        ∃ epoch, result.1.workers[worker]? = some ⟨epoch, .queued⟩ := by
  cases own : move.isFor call with
  | true =>
    obtain ⟨newest, length⟩ :=
      newest_of_submitting made (Hosted.System.callOf?_eq_some_iff.mpr own) found
    have missing : system.workers[worker]? = none :=
      List.getElem?_eq_none (Nat.le_of_eq newest.symm)
    refine .inr ⟨rfl, missing, ?_⟩
    rcases ((crew_of_section made).newcomer missing).1 with absent | created
    · have present : worker < result.1.workers.length :=
        Nat.lt_of_lt_of_eq (Nat.lt_succ_self worker) length.symm
      exact absurd (List.getElem?_eq_none_iff.mp absent) (Nat.not_le.mpr present)
    · exact ⟨_, created⟩
  | false =>
    refine .inl ⟨rfl, ?_⟩
    rcases get?_of_foreign made own with same | ⟨-, woken⟩ | ⟨-, request, -, entering⟩
    · exact same.symm.trans found
    · obtain ⟨stage, held, wakes⟩ := Option.map_eq_some_iff.mp (woken.symm.trans found)
      cases stage with
      | sleeping => cases wakes
      | _ => exact held.trans (congrArg some wakes)
    · cases entering.symm.trans found

/-- Calls pass a loop over that was not launched. -/
theorem unlaunched_of_call (made : Section system move result) (about : move.worker? = none)
    {held : Worker} (found : system.workers[worker]? = some held)
    (idle : held.stage.isUnlaunched = true) : result.1.workers[worker]? = some held := by
  have untold : system.roster.tell worker held = held := by
    rcases system.roster.tell_cases worker held with same | ⟨epoch, _, _, rfl, _⟩
    · exact same
    · cases idle
  cases made with
  | claimed call fallsBack other remaining _ running parked ready =>
    have different : other ≠ worker := by
      rintro rfl
      obtain ⟨epoch, stage⟩ := held
      cases stage with
      | serving => cases idle
      | _ => simp [slot?, found, Worker.slot?] at ready
    simp [handOver, reply, System.count, List.getElem?_modify_ne _ _ different, found]
  | created =>
    have present : worker < system.workers.length := (List.getElem?_eq_some_iff.mp found).1
    simp [create, setCall, List.getElem?_append_left present, found]
  | turnedDown call fallsBack | declined call fallsBack => cases fallsBack <;> exact found
  | stopBegun call =>
    have told : (system.retireAll.1.awaitLastWorker call).workers =
        system.workers.mapIdx system.roster.tell := awaitLastWorker_workers _ call
    simp [told, found, untold]
  | looked call => rwa [awaitLastWorker_workers]
  | abandoned unused active => simp [letGo_workers active, found, untold]
  | invoked | illegal | started | retimed | counted | restful | joined | announced | taken
  | refused | passedOn | brokenOff | letGo => exact found
  | _ => cases about

/-- A loop that was not launched is launched by its executor only. -/
theorem unlaunched_of_section (made : Section system move result) {held : Worker}
    (found : system.workers[worker]? = some held) (idle : held.stage.isUnlaunched = true) :
    move = .launch worker ∨ ∃ later, result.1.workers[worker]? = some later ∧
      later.stage.isUnlaunched = true := by
  cases about : move.worker? with
  | none => exact .inr ⟨held, unlaunched_of_call made about found idle, idle⟩
  | some other =>
    by_cases same : other = worker
    · subst same
      have possible := step_of_section made
      obtain ⟨epoch, stage⟩ := held
      cases move with
      | launch => exact .inl (congrArg Move.launch (Option.some.inj about))
      | discard number =>
        obtain rfl := Option.some.inj about
        cases made <;>
          exact .inr ⟨⟨epoch, .gone .discarded⟩,
            by simp [setRoster, setStage, found, Worker.move], rfl⟩
      | _ =>
        cases stage <;>
          simp_all [Move.worker?, step, System.work, System.expire, System.finish,
            System.breakDown, Stage.isUnlaunched]
    · obtain ⟨change, workers⟩ := workers_of_section made about
      exact .inr ⟨held, by rw [workers, List.getElem?_modify_ne _ _ same, found], idle⟩

end System

end Standby.Dispatcher

namespace Standby.Hosted

open Dispatcher (WorkerId Worker)
open Executor (Refusal)

/-- The job is the loop of this worker. -/
def Job.isLoop (worker : WorkerId) (job : Job) : Bool := job == .loop worker

namespace System

variable {system next : System} {capacity : Nat} {moves : List (Pool.Move Job)}
  {events : List Pool.Event} {call : Nat} {fallsBack : Bool} {worker : WorkerId}

/-- The call submits the loop of a worker, and the pool has not told it that it has it. -/
def Seeks (system : System) (call : Nat) (worker : WorkerId) : Prop :=
  (∃ fallsBack, system.dispatcher.calls.get? call = some (.submitting fallsBack worker)) ∧
    system.submissions.lookup call ≠ some (.answered none)

/-- Every loop is submitted by one call, and the pool has none that it has not taken. -/
structure Sought (system : System) : Prop where
  alone : ∀ call other worker first second,
    system.dispatcher.calls.get? call = some (.submitting first worker) →
      system.dispatcher.calls.get? other = some (.submitting second worker) → call = other
  created : ∀ call fallsBack worker,
    system.dispatcher.calls.get? call = some (.submitting fallsBack worker) →
      worker < system.dispatcher.workers.length
  unlaunched : ∀ call worker, system.Seeks call worker →
    (∃ held, system.dispatcher.workers[worker]? = some held ∧
      held.stage.isUnlaunched = true) ∧ system.pool.stock (Job.isLoop worker) = 0

/-- A loop that runs is in stock. -/
theorem stock_pos_of_runs (runs : system.runs (.loop worker) = true) :
    0 < system.pool.stock (Job.isLoop worker) := by
  obtain ⟨thread, number, found⟩ := runs_iff.mp runs
  refine Nat.lt_of_lt_of_le ?_ (Nat.le_add_left _ _)
  exact List.countP_pos_iff.mpr ⟨_, List.mem_of_getElem? found, by
    simp [Pool.Thread.stocks, Pool.Thread.job?, Job.isLoop]⟩

/-- The pool has no loop in stock that was not created. -/
theorem stock_eq_zero_of_missing (order : InOrder capacity moves system events)
    (missing : system.dispatcher.workers.length ≤ worker) :
    system.pool.stock (Job.isLoop worker) = 0 := by
  have unasked {number : Nat} {job : Job} (asks : Pool.Asks moves number (.submit job)) :
      ¬ Job.isLoop worker job = true := by
    intro same
    obtain rfl : job = .loop worker := by simpa [Job.isLoop] using same
    exact Nat.not_lt.mpr missing (order.created number worker asks)
  refine Nat.add_eq_zero_iff.mpr ⟨List.countP_eq_zero.mpr fun entry queued => ?_,
    List.countP_eq_zero.mpr fun stage member has => ?_⟩
  · exact unasked (order.pool.faithful.queued entry queued)
  · obtain ⟨thread, found⟩ := List.mem_iff_getElem?.mp member
    obtain ⟨entry, held, same⟩ := (Option.any_eq_true _ _).mp has
    exact unasked (order.pool.faithful.taken thread stage entry found held) same

namespace Sought

/-- No call submits a loop at the beginning. -/
theorem fresh (capacity threads queueCapacity : Nat) (idleTimeout : Option Duration.Millis) :
    Sought (.fresh (.fresh capacity idleTimeout) (.fresh threads queueCapacity)) where
  alone _ _ _ _ _ found := by cases found
  created _ _ _ found := by cases found
  unlaunched _ _ seeks := by
    obtain ⟨⟨_, found⟩, -⟩ := seeks
    cases found

/-- Nobody launches a loop that the pool has not taken, and the dispatcher brings it to no other
call. -/
theorem of_dispatcher (sought : system.Sought)
    (order : InOrder capacity moves system events) {move : Dispatcher.Move}
    {result : Dispatcher.System × List Dispatcher.Event}
    (agrees : system.poolAgrees move = true)
    (stepped : system.dispatcher.step move = some result) (dispatcher : next.dispatcher = result.1)
    (stock : ∀ kind, next.pool.stock kind = system.pool.stock kind)
    (foreign : ∀ call, move.isFor call = false →
      next.submissions.lookup call = system.submissions.lookup call) : next.Sought := by
  have made := Dispatcher.System.section_of_step order.dispatcher.parkedReady stepped
  have longer : system.dispatcher.workers.length ≤ result.1.workers.length :=
    (Dispatcher.System.crew_of_section made).length_le
  have before {call : Nat} {fallsBack : Bool} {worker : WorkerId}
      (found : next.dispatcher.calls.get? call = some (.submitting fallsBack worker)) :=
    Dispatcher.System.submitting_of_section made (dispatcher ▸ found)
  have missed {call : Nat} {fallsBack : Bool} {worker : WorkerId}
      (held : system.dispatcher.calls.get? call = some (.submitting fallsBack worker))
      (missing : system.dispatcher.workers[worker]? = none) : False :=
    absurd (sought.created call fallsBack worker held)
      (Nat.not_lt.mpr (List.getElem?_eq_none_iff.mp missing))
  refine ⟨fun call other worker first second found also => ?_,
    fun call fallsBack worker found => ?_, fun call worker seeks => ?_⟩
  · rcases before found with ⟨-, held⟩ | ⟨own, missing, -⟩ <;>
      rcases before also with ⟨-, stands⟩ | ⟨mine, absent, -⟩
    · exact sought.alone call other worker first second held stands
    · exact (missed held absent).elim
    · exact (missed stands missing).elim
    · exact Dispatcher.Move.eq_of_isFor own mine
  · rw [dispatcher]
    rcases before found with ⟨-, held⟩ | ⟨-, -, epoch, created⟩
    · exact Nat.lt_of_lt_of_le (sought.created call fallsBack worker held) longer
    · exact (List.getElem?_eq_some_iff.mp created).1
  · obtain ⟨⟨fallsBack, found⟩, unanswered⟩ := seeks
    rw [stock, dispatcher]
    rcases before found with ⟨apart, held⟩ | ⟨-, missing, epoch, created⟩
    · obtain ⟨⟨loop, stands, idle⟩, nothing⟩ :=
        sought.unlaunched call worker ⟨⟨fallsBack, held⟩, foreign call apart ▸ unanswered⟩
      refine ⟨?_, nothing⟩
      rcases Dispatcher.System.unlaunched_of_section made stands idle with rfl | stays
      · have runs := stock_pos_of_runs agrees
        omega
      · exact stays
    · exact ⟨⟨_, created, rfl⟩,
        stock_eq_zero_of_missing order (List.getElem?_eq_none_iff.mp missing)⟩

/-- A loop comes to the pool with the call that seeks it, which hears so at once. -/
theorem of_pool (sought : system.Sought) (filed : system.Filed) {move : Pool.Move Job}
    {result : Pool.System Job × List Pool.Event}
    (made : Pool.Section system.pool move result) :
    Sought ⟨system.dispatcher, result.1, system.informed result.2⟩ := by
  refine ⟨sought.alone, sought.created, fun call worker seeks => ?_⟩
  have before (number : Nat) (answer : Pool.Answer)
      (unanswered : (system.noteAnswer (.returned number answer)).submissions.lookup call ≠
        some (.answered none)) : system.submissions.lookup call ≠ some (.answered none) := by
    intro answered
    rw [lookup_noteAnswer, answered] at unanswered
    exact unanswered rfl
  have kept (still : system.Seeks call worker)
      (less : result.1.stock (Job.isLoop worker) ≤ system.pool.stock (Job.isLoop worker)) :
      (∃ held, system.dispatcher.workers[worker]? = some held ∧
        held.stage.isUnlaunched = true) ∧ result.1.stock (Job.isLoop worker) = 0 := by
    obtain ⟨idle, nothing⟩ := sought.unlaunched call worker still
    exact ⟨idle, Nat.eq_zero_of_le_zero (nothing ▸ less)⟩
  obtain ⟨pool, events⟩ := result
  have stocks := Pool.System.stocks_of_section made
  dsimp only at stocks seeks kept ⊢
  obtain ⟨⟨fallsBack, found⟩, unanswered⟩ := seeks
  cases stocks with
  | silent _ _ _ quiet stock =>
    rw [informed_of_silent quiet] at unanswered
    exact kept ⟨⟨fallsBack, found⟩, unanswered⟩ (Nat.le_of_eq (stock _))
  | answered number answer _ stock =>
    exact kept ⟨⟨fallsBack, found⟩, before number answer unanswered⟩ (Nat.le_of_eq (stock _))
  | sent number job brought stock =>
    refine kept ⟨⟨fallsBack, found⟩, before number .done unanswered⟩ (Nat.le_of_eq ?_)
    have other : Job.isLoop worker job = false := by
      refine Bool.eq_false_iff.mpr fun same => ?_
      obtain rfl : job = .loop worker := by simpa [Job.isLoop] using same
      obtain ⟨caller, waits⟩ := filed.caller number _ ⟨_, brought, rfl⟩
      obtain ⟨owed, ⟨stage, stands, owes⟩, brings⟩ := filed.owner caller _ waits
      obtain rfl : owed = .loop worker := by
        obtain ⟨_, held, serves⟩ := brings number rfl
        obtain rfl := Option.some.inj (brought.symm.trans held)
        exact Eq.symm serves
      cases owes with
      | loop own =>
        obtain rfl := sought.alone call caller worker fallsBack own found stands
        refine unanswered ?_
        change (system.noteAnswer (.returned number .done)).submissions.lookup call = _
        rw [lookup_noteAnswer, waits]
        simp [Submission.hears, refusal?]
    rw [stock, other]
    rfl
  | ended thread number job outcome _ stock =>
    exact kept ⟨⟨fallsBack, found⟩, unanswered⟩ (Nat.le_of_add_right_le (Nat.le_of_eq (stock _)))

/-- Every section leaves the loops sought. -/
theorem of_recorded (sought : system.Sought) (filed : system.Filed)
    (order : InOrder capacity moves system events) {move : Move}
    {result : System × List Event} (made : Recorded system move result) : result.1.Sought := by
  cases made with
  | dispatcher move later happened agrees stepped nothing =>
    refine sought.of_dispatcher order agrees stepped rfl (fun _ => rfl) fun call apart => ?_
    exact (filed.lookup_settled stepped call).trans (by rw [apart]; rfl)
  | submitted move call job later happened agrees stepped caller submits =>
    refine sought.of_dispatcher order agrees stepped rfl (fun _ => rfl) fun other apart => ?_
    have different : other ≠ call := by
      rintro rfl
      cases apart.symm.trans (callOf?_eq_some_iff.mp caller)
    rw [List.lookup_cons, beq_false_of_ne different]
    exact (filed.lookup_settled stepped other).trans (by rw [apart]; rfl)
  | pool move later happened agrees stepped =>
    exact sought.of_pool filed (Pool.System.section_of_step stepped)

end Sought

end System

end Standby.Hosted
