import Standby.Proofs.Dispatcher.Order

/-!
# What a section does to the workers

Most sections leave the workers alone or concern one of them. Here every section is
reduced to what becomes of the workers: nothing, a new loop, the word to retire for all
that are parked, or one worker that advances from one stage to the next. What holds of
the worker that advances can then be read off its two stages, and so can what it counts;
nothing has to be said about calls.

What happens in a section is told by its events. Those that tell of a worker are events
of the worker that advances.
-/

namespace Standby.Dispatcher

open Duration (Millis)

/-- The worker whose doings an event tells. -/
def Event.actor? : Event → Option WorkerId
  | .claimed worker _ | .discarded worker | .stale worker | .registered worker
  | .began worker _ | .ended worker _ _ | .faulted worker _ | .finished worker _
  | .parkedAgain worker | .retiredAfterTask worker | .retired worker | .withdrawn worker
  | .idleRetired worker _ | .idleCancelled worker => some worker
  | _ => none

/-- A move that a worker makes by itself, without its executor and without a call. The
end of the task that it executes is one of them. -/
def Move.isWork : Move → Bool
  | .work _ | .expire _ | .finish _ _ | .breakDown _ => true
  | _ => false

/-- The worker loop that a move is about, if it is not made by a call. -/
def Move.worker? : Move → Option WorkerId
  | .launch number | .discard number | .work number | .expire number | .finish number _
  | .breakDown number => some number
  | .invoke _ | .proceed _ | .answer _ _ | .breakOff _ | .letGo => none

/-- How one worker of a number and an epoch advances in a section: whether it moves by
itself, its stage before and after, and what happens. -/
inductive Advance (roster : Roster) (number : WorkerId) (epoch : Nat) :
    Bool → Stage → Stage → List Event → Prop where
  | stale (past : roster.epoch ≠ epoch) :
    Advance roster number epoch false .queued (.gone .stale) [.stale number]
  | registered (current : roster.epoch = epoch) (running : roster.phase = .running) :
    Advance roster number epoch false .queued (.serving roster.idleTimeout none .waiting)
      [.registered number]
  | turnedAway (busy : roster.phase ≠ .running) :
    Advance roster number epoch false .queued (.gone .turnedAway) []
  | discarded : Advance roster number epoch false .queued (.gone .discarded) [.discarded number]
  | claimed (task : Task) (idleTimeout : Option Millis) (duty : Duty)
      (running : roster.phase = .running) :
    Advance roster number epoch false (.serving idleTimeout none duty)
      (.serving idleTimeout (some (.task task)) duty)
      [.claimed number task, .returned task .accepted]
  | began (task : Task) (idleTimeout : Option Millis) (duty : Duty)
      (waits : duty = .waiting ∨ duty = .awaiting) :
    Advance roster number epoch true (.serving idleTimeout (some (.task task)) duty)
      (.serving idleTimeout none (.executing task)) [.began number task]
  | told (idleTimeout : Option Millis) (duty : Duty)
      (waits : duty = .waiting ∨ duty = .awaiting) :
    Advance roster number epoch true (.serving idleTimeout (some .retire) duty)
      (.serving idleTimeout none .retiring) []
  | expired (timeout : Millis) :
    Advance roster number epoch true (.serving (some timeout) none .waiting)
      (.serving (some timeout) none .expired) []
  | withdrawn (timeout : Millis) (slot : Option Handoff) :
    Advance roster number epoch true (.serving (some timeout) slot .expired)
      (.announcing (.idle timeout)) [.withdrawn number]
  | kept (timeout : Millis) (slot : Option Handoff) :
    Advance roster number epoch true (.serving (some timeout) slot .expired)
      (.serving (some timeout) slot .awaiting) [.idleCancelled number]
  | ended (task : Task) (idleTimeout : Option Millis) (slot : Option Handoff)
      (outcome : Outcome) :
    Advance roster number epoch true (.serving idleTimeout slot (.executing task))
      (.serving idleTimeout slot (.ofOutcome task outcome)) [.ended number task outcome]
  | failed (task : Task) (idleTimeout : Option Millis) (slot : Option Handoff)
      (failure : Failure) :
    Advance roster number epoch true (.serving idleTimeout slot (.failed task failure))
      (.serving idleTimeout slot (.reporting task failure)) []
  | reported (task : Task) (idleTimeout : Option Millis) (slot : Option Handoff)
      (failure : Failure) (quiet : failure.spills = false) :
    Advance roster number epoch true (.serving idleTimeout slot (.reporting task failure))
      (.serving idleTimeout slot (.ended task)) [.faulted number failure.message]
  | broke (task : Task) (idleTimeout : Option Millis) (slot : Option Handoff)
      (failure : Failure) :
    Advance roster number epoch true (.serving idleTimeout slot (.reporting task failure))
      (.gone .broken) [.faulted number failure.message]
  | parkedAgain (task : Task) (idleTimeout : Option Millis) (slot : Option Handoff)
      (current : roster.epoch = epoch) (running : roster.phase = .running) :
    Advance roster number epoch true (.serving idleTimeout slot (.ended task))
      (.serving idleTimeout slot .waiting) [.finished number task, .parkedAgain number]
  | leftAfterTask (task : Task) (idleTimeout : Option Millis) (slot : Option Handoff) :
    Advance roster number epoch true (.serving idleTimeout slot (.ended task))
      (.announcing .afterTask) [.finished number task]
  | leftRetired (idleTimeout : Option Millis) (slot : Option Handoff) :
    Advance roster number epoch true (.serving idleTimeout slot .retiring)
      (.announcing .retired) []
  | announcedAfterTask :
    Advance roster number epoch true (.announcing .afterTask) (.gone (.left .afterTask))
      [.retiredAfterTask number]
  | announcedRetired :
    Advance roster number epoch true (.announcing .retired) (.gone (.left .retired))
      [.retired number]
  | announcedIdle (timeout : Millis) :
    Advance roster number epoch true (.announcing (.idle timeout)) (.counting timeout) []
  | idled (timeout : Millis) :
    Advance roster number epoch true (.counting timeout) (.gone (.left (.idle timeout)))
      [.idleRetired number timeout]

/-- A count that workers make. All others are made by calls. -/
def Count.isOfWorkers : Count → Bool
  | .idleRetired | .taskFailures => true
  | .accepted | .declined | .spawned | .spawnFailures => false

/-- A worker that goes on by itself from this stage counts this. -/
def Stage.counts (count : Count) : Stage → Bool
  | .serving _ _ (.failed _ _) => count = .taskFailures
  | .counting _ => count = .idleRetired
  | _ => false

/-- The counts of workers stay when a call counts something. -/
theorem Tally.get_add_of_call (tally : Tally) {counted : Count}
    (call : counted.isOfWorkers = false) (count : Count) (own : count.isOfWorkers = true) :
    (tally.add counted).get count = tally.get count := by
  rw [get_add, if_neg]
  rintro rfl
  cases own.symm.trans call

/-- What becomes of the workers in a section, and of the counts that they make. -/
inductive Crew (system next : System) (events : List Event) : Bool → Prop where
  /-- The workers stay as they are. -/
  | same (workers : next.workers = system.workers)
      (epoch : next.roster.epoch = system.roster.epoch)
      (quiet : ∀ event ∈ events, event.actor? = none)
      (tally : ∀ count, count.isOfWorkers = true →
        next.tally.get count = system.tally.get count := by exact fun _ _ => rfl) :
    Crew system next events false
  /-- A loop is created. -/
  | created (workers : next.workers = system.workers ++ [⟨system.roster.epoch, .queued⟩])
      (epoch : next.roster.epoch = system.roster.epoch)
      (quiet : ∀ event ∈ events, event.actor? = none)
      (tally : next.tally = system.tally) : Crew system next events false
  /-- Stopping begins. -/
  | told (workers : next.workers = system.workers.mapIdx system.roster.tell)
      (epoch : next.roster.epoch = system.roster.epoch + 1)
      (active : system.roster.phase = .starting ∨ system.roster.phase = .running)
      (quiet : ∀ event ∈ events, event.actor? = none)
      (tally : next.tally = system.tally) : Crew system next events false
  /-- One worker advances. -/
  | advanced {own : Bool} (number : WorkerId) (epoch : Nat) (before after : Stage)
      (change : Worker → Worker) (found : system.workers[number]? = some ⟨epoch, before⟩)
      (workers : next.workers = system.workers.modify number change)
      (changed : change ⟨epoch, before⟩ = ⟨epoch, after⟩)
      (still : next.roster.epoch = system.roster.epoch)
      (advance : Advance system.roster number epoch own before after events)
      (tally : ∀ count, count.isOfWorkers = true → next.tally.get count =
        system.tally.get count + (own && before.counts count).toNat := by exact fun _ _ => rfl) :
    Crew system next events own

/-- The events of a section in which a worker advances tell of this worker. -/
theorem Advance.eq_of_actor {roster : Roster} {number : WorkerId} {epoch : Nat} {own : Bool}
    {before after : Stage} {events : List Event}
    (advance : Advance roster number epoch own before after events) {event : Event}
    (happened : event ∈ events) {other : WorkerId} (acts : event.actor? = some other) :
    other = number := by
  cases advance <;> simp at happened
  case claimed =>
    rcases happened with rfl | rfl
    · exact (Option.some.inj acts).symm
    · cases acts
  case parkedAgain =>
    rcases happened with rfl | rfl <;> exact (Option.some.inj acts).symm
  all_goals
    subst happened
    exact (Option.some.inj acts).symm

/-- A worker that is told to retire and is not parked stays as it is. -/
theorem Roster.tell_cases (roster : Roster) (number : WorkerId) (worker : Worker) :
    roster.tell number worker = worker ∨
      ∃ epoch idleTimeout duty, worker = ⟨epoch, .serving idleTimeout none duty⟩ ∧
        roster.tell number worker = ⟨epoch, .serving idleTimeout (some .retire) duty⟩ := by
  obtain ⟨epoch, stage⟩ := worker
  unfold tell
  split
  · unfold Worker.receive
    split
    · rename_i idleTimeout duty same
      obtain rfl : stage = .serving idleTimeout none duty := same
      exact .inr ⟨epoch, idleTimeout, duty, rfl, rfl⟩
    · exact .inl rfl
  · exact .inl rfl

/-- One worker stays as it is or is told to retire, and no event tells of it; or it is the one
that advances. -/
theorem Crew.worker {system next : System} {events : List Event} {own : Bool}
    (crew : Crew system next events own) {number : WorkerId} {epoch : Nat} {before : Stage}
    (found : system.workers[number]? = some ⟨epoch, before⟩) :
    ∃ after, next.workers[number]? = some ⟨epoch, after⟩ ∧
      ((after = before ∨ ∃ idleTimeout duty, before = .serving idleTimeout none duty ∧
            after = .serving idleTimeout (some .retire) duty) ∧
          (∀ event ∈ events, event.actor? ≠ some number) ∨
        Advance system.roster number epoch own before after events) := by
  have others (quiet : ∀ event ∈ events, event.actor? = none) :
      ∀ event ∈ events, event.actor? ≠ some number := fun event held => by
    simp [quiet event held]
  cases crew with
  | same workers _ quiet => exact ⟨before, by rw [workers, found], .inl ⟨.inl rfl, others quiet⟩⟩
  | created workers _ quiet =>
    have present : number < system.workers.length := (List.getElem?_eq_some_iff.mp found).1
    exact ⟨before, by rw [workers, List.getElem?_append_left present, found],
      .inl ⟨.inl rfl, others quiet⟩⟩
  | told workers _ _ quiet =>
    rcases system.roster.tell_cases number ⟨epoch, before⟩ with
      same | ⟨_, idleTimeout, duty, stood, informed⟩
    · exact ⟨before, by simp [workers, found, same], .inl ⟨.inl rfl, others quiet⟩⟩
    · obtain ⟨rfl, rfl⟩ := Worker.mk.inj stood
      exact ⟨.serving idleTimeout (some .retire) duty, by simp [workers, found, informed],
        .inl ⟨.inr ⟨idleTimeout, duty, rfl, rfl⟩, others quiet⟩⟩
  | advanced acting actingEpoch earlier later change held workers changed _ advance =>
    by_cases same : acting = number
    · subst same
      obtain ⟨rfl, rfl⟩ := Worker.mk.inj (Option.some.inj (held.symm.trans found))
      exact ⟨later, by simp [workers, found, changed], .inr advance⟩
    · refine ⟨before, by rw [workers, List.getElem?_modify_ne _ _ same, found], .inl ⟨.inl rfl, ?_⟩⟩
      intro event happened acts
      exact same (advance.eq_of_actor happened acts).symm

/-- A loop that did not exist before is new, and no event tells of it. -/
theorem Crew.newcomer {system next : System} {events : List Event} {own : Bool}
    (crew : Crew system next events own) {number : WorkerId}
    (missing : system.workers[number]? = none) :
    (next.workers[number]? = none ∨
        next.workers[number]? = some ⟨system.roster.epoch, .queued⟩) ∧
      ∀ event ∈ events, event.actor? ≠ some number := by
  have others (quiet : ∀ event ∈ events, event.actor? = none) :
      ∀ event ∈ events, event.actor? ≠ some number := fun event held => by
    simp [quiet event held]
  cases crew with
  | same workers _ quiet => exact ⟨.inl (by rw [workers, missing]), others quiet⟩
  | created workers _ quiet =>
    refine ⟨?_, others quiet⟩
    have absent : system.workers.length ≤ number := List.getElem?_eq_none_iff.mp missing
    rw [workers, List.getElem?_append_right absent]
    cases number - system.workers.length with
    | zero => exact .inr rfl
    | succ => exact .inl rfl
  | told workers _ _ quiet => exact ⟨.inl (by simp [workers, missing]), others quiet⟩
  | advanced acting _ _ _ _ held workers _ _ advance =>
    have different : acting ≠ number := by
      rintro rfl
      cases held.symm.trans missing
    refine ⟨.inl (by rw [workers, List.getElem?_modify_ne _ _ different, missing]), ?_⟩
    intro event happened acts
    exact different (advance.eq_of_actor happened acts).symm

/-- An epoch never comes back. -/
theorem Crew.epoch_le {system next : System} {events : List Event} {own : Bool}
    (crew : Crew system next events own) : system.roster.epoch ≤ next.roster.epoch := by
  cases crew with
  | same _ epoch | created _ epoch | advanced _ _ _ _ _ _ _ _ epoch =>
    exact Nat.le_of_eq epoch.symm
  | told _ epoch => exact epoch ▸ Nat.le_succ _

/-- What holds of all stages goes on to do so if it holds of a new loop, and if neither the
word to retire nor an advance puts an end to it. -/
theorem Crew.forall {P : Stage → Prop} {system next : System} {events : List Event} {own : Bool}
    (crew : Crew system next events own) (all : ∀ worker ∈ system.workers, P worker.stage)
    (queued : P .queued)
    (told : ∀ idleTimeout duty, P (.serving idleTimeout none duty) →
      P (.serving idleTimeout (some .retire) duty))
    (advanced : ∀ number epoch before after,
      Advance system.roster number epoch own before after events → P before → P after) :
    ∀ worker ∈ next.workers, P worker.stage := by
  cases crew with
  | same workers => rwa [workers]
  | created workers =>
    intro worker member
    rw [workers] at member
    rcases List.mem_append.mp member with older | newest
    · exact all worker older
    · obtain rfl := List.mem_singleton.mp newest
      exact queued
  | told workers =>
    intro worker member
    rw [workers] at member
    obtain ⟨number, found⟩ := List.mem_iff_getElem?.mp member
    rw [List.getElem?_mapIdx] at found
    obtain ⟨before, held, rfl⟩ := Option.map_eq_some_iff.mp found
    have holds : P before.stage := all before (List.mem_of_getElem? held)
    rcases system.roster.tell_cases number before with
      same | ⟨epoch, idleTimeout, duty, rfl, informed⟩
    · rwa [same]
    · rw [informed]
      exact told idleTimeout duty holds
  | advanced number epoch before after change found workers changed still advance =>
    rw [workers]
    refine Counting.forall_modify found all ?_
    rw [changed]
    exact advanced number epoch before after advance (all _ (List.mem_of_getElem? found))

namespace System

variable {system : System}

/-- Looking for the last worker does not begin another epoch. -/
theorem awaitLastWorker_epoch (system : System) (call : Nat) :
    (system.awaitLastWorker call).roster.epoch = system.roster.epoch := by
  unfold awaitLastWorker
  split <;> rfl

/-- Letting go of an open dispatcher begins another epoch. -/
theorem letGo_epoch (active : system.roster.phase = .starting ∨ system.roster.phase = .running) :
    system.letGo.1.roster.epoch = system.roster.epoch + 1 := by
  rw [letGo_of_active active]
  dsimp only
  split <;> rfl

/-- Looking for the last worker counts nothing. -/
theorem awaitLastWorker_tally (system : System) (call : Nat) :
    (system.awaitLastWorker call).tally = system.tally := by
  unfold awaitLastWorker
  split <;> rfl

/-- Letting go of an open dispatcher counts nothing. -/
theorem letGo_tally (active : system.roster.phase = .starting ∨ system.roster.phase = .running) :
    system.letGo.1.tally = system.tally := by
  rw [letGo_of_active active]
  dsimp only
  split <;> rfl

/-- Every section does one of these things to the workers. -/
theorem crew_of_section {move : Move} {result : System × List Event}
    (made : Section system move result) : Crew system result.1 result.2 move.isWork := by
  cases made with
  | invoked | illegal | started | retimed | restful | joined | announced | taken | refused
  | passedOn | brokenOff | letGo => exact .same rfl rfl (by simp [reply, Event.actor?])
  | turnedDown call fallsBack | declined call fallsBack =>
    cases fallsBack <;>
      exact .same rfl rfl (by simp [decline, giveBack, reply, Event.actor?])
        (system.tally.get_add_of_call rfl)
  | claimed call fallsBack number remaining found running parked ready =>
    obtain ⟨⟨epoch, stage⟩, held, empty⟩ := Option.bind_eq_some_iff.mp ready
    obtain ⟨idleTimeout, duty, rfl⟩ := Worker.serving_of_slot empty
    exact .advanced number _ _ _ (Worker.receive (.task call)) held rfl rfl rfl
      (.claimed call idleTimeout duty running) (system.tally.get_add_of_call rfl)
  | created => exact .created rfl rfl (by simp [Event.actor?]) rfl
  | counted call fallsBack count event stage found answered =>
    rcases answered with ⟨_, _, rfl, rfl⟩ | ⟨_, _, _, rfl, rfl⟩ <;>
      exact .same rfl rfl (by simp [Event.actor?]) (system.tally.get_add_of_call rfl)
  | stopBegun call found active =>
    exact .told (awaitLastWorker_workers _ call) (awaitLastWorker_epoch _ call) active
      (by simp [retireAll, Event.actor?]) (awaitLastWorker_tally _ call)
  | looked call =>
    exact .same (awaitLastWorker_workers _ call) (awaitLastWorker_epoch _ call) (by simp)
      fun _ _ => by rw [awaitLastWorker_tally]
  | abandoned unused active =>
    refine .told (letGo_workers active) (letGo_epoch active) active ?_ (letGo_tally active)
    simp [letGo_of_active active, retireAll, Event.actor?]
  | stale number epoch found past => exact .advanced number _ _ _ _ found rfl rfl rfl (.stale past)
  | registered number found running =>
    exact .advanced number _ _ _ _ found rfl rfl rfl (.registered rfl running)
  | turnedAway number found busy =>
    exact .advanced number _ _ _ _ found rfl rfl rfl (.turnedAway busy)
  | discarded number found | forgotten number epoch found =>
    exact .advanced number _ _ _ _ found rfl rfl rfl .discarded
  | began number epoch idleTimeout task duty waits found =>
    exact .advanced number _ _ _ _ found rfl rfl rfl (.began task idleTimeout duty waits)
      fun _ _ => by rcases waits with rfl | rfl <;> rfl
  | told number epoch idleTimeout duty waits found =>
    exact .advanced number _ _ _ _ found rfl rfl rfl (.told idleTimeout duty waits)
      fun _ _ => by rcases waits with rfl | rfl <;> rfl
  | expired number epoch timeout found =>
    exact .advanced number _ _ _ _ found rfl rfl rfl (.expired timeout)
  | withdrawn number epoch timeout slot found =>
    exact .advanced number _ _ _ _ found rfl rfl rfl (.withdrawn timeout slot)
  | kept number epoch timeout slot found =>
    exact .advanced number _ _ _ _ found rfl rfl rfl (.kept timeout slot)
  | ended number epoch idleTimeout slot task outcome found =>
    exact .advanced number _ _ _ _ found rfl rfl rfl (.ended task idleTimeout slot outcome)
  | failed number epoch idleTimeout slot task failure found =>
    exact .advanced number _ _ _ _ found rfl rfl rfl (.failed task idleTimeout slot failure)
      fun count _ => by cases count <;> rfl
  | reported number epoch idleTimeout slot task failure found quiet =>
    exact .advanced number _ _ _ _ found rfl rfl rfl (.reported task idleTimeout slot failure quiet)
  | spilled number epoch idleTimeout slot task failure found
  | broke number epoch idleTimeout slot task failure found =>
    exact .advanced number _ _ _ _ found rfl rfl rfl (.broke task idleTimeout slot failure)
  | parkedAgain number idleTimeout slot task found running =>
    exact .advanced number _ _ _ _ found rfl rfl rfl
      (.parkedAgain task idleTimeout slot rfl running)
  | leftAfterTask number epoch idleTimeout slot task found =>
    exact .advanced number _ _ _ _ found rfl rfl rfl (.leftAfterTask task idleTimeout slot)
  | leftRetired number epoch idleTimeout slot found =>
    exact .advanced number _ _ _ _ found rfl rfl rfl (.leftRetired idleTimeout slot)
  | departed number epoch departure found =>
    cases departure with
    | afterTask => exact .advanced number _ _ _ _ found rfl rfl rfl .announcedAfterTask
    | retired => exact .advanced number _ _ _ _ found rfl rfl rfl .announcedRetired
    | idle timeout => exact .advanced number _ _ _ _ found rfl rfl rfl (.announcedIdle timeout)
  | idled number epoch timeout found =>
    exact .advanced number _ _ _ _ found rfl rfl rfl (.idled timeout)
      fun count _ => by cases count <;> rfl

/-- A move that is about one worker changes no other. -/
theorem workers_of_section {move : Move} {result : System × List Event}
    (made : Section system move result) {number : WorkerId} (about : move.worker? = some number) :
    ∃ change, result.1.workers = system.workers.modify number change := by
  cases made with
  | invoked | illegal | started | retimed | turnedDown | claimed | created | counted | declined
  | restful | joined | stopBegun | looked | announced | taken | refused | passedOn | brokenOff
  | letGo | abandoned => cases about
  | departed other epoch departure =>
    obtain rfl := Option.some.inj about
    cases departure <;> exact ⟨_, rfl⟩
  | _ =>
    obtain rfl := Option.some.inj about
    exact ⟨_, rfl⟩

end System

end Standby.Dispatcher
