import Standby.Dispatcher.System

/-!
# Sections of a dispatcher

What one move can be. Every move of a dispatcher is one of the sections listed
here, each with the condition under which it is reached and what it leaves behind.
What holds of all sections therefore holds of all moves, and a proof about moves
need not look into the programs of calls and workers again. Conversely every section
is made by its move, so the list has no entry too many, and a proof that a move can be
made need not look there either.

The list leaves out the two ways in which an offer could meet a parked worker that
cannot take a task. It is complete as long as every parked worker has an empty
slot, which is shown of all runs elsewhere.
-/

namespace Standby.Dispatcher

open Duration (Millis)
open Executor (Refusal)

/-- Every parked worker has an empty slot. -/
def System.ParkedReady (system : System) : Prop :=
  ∀ number ∈ system.roster.parked, system.slot? number = some none

/-- The workers of a system that has created one more loop, and its roster. -/
def System.create (system : System) : System :=
  { system with
    roster := system.roster.announce
    workers := system.workers ++ [⟨system.roster.epoch, .queued⟩] }

/-- A system whose roster has been changed. -/
def System.setRoster (system : System) (roster : Roster) : System :=
  { system with roster := roster }

/-- What a worker goes on to do with a task that has ended. -/
def Duty.ofOutcome (task : Task) : Outcome → Duty
  | .returned => .ended task
  | .failed failure => .failed task failure

/-- One section: the move that makes it, what it leaves behind and what happens. -/
inductive Section (system : System) : Move → System × List Event → Prop where
  /-- A call begins. -/
  | invoked (request : Request) (held : system.held = true) :
    Section system (.invoke request)
      ({ system with calls := system.calls.add (.entering request) },
        [.invoked system.calls.next request])
  /-- A request needs a stopped dispatcher and finds another. -/
  | illegal (call : Nat) (request : Request) (operation : String)
      (found : system.calls.get? call = some (.entering request))
      (needs : request = .start ∨ ∃ timeout, request = .setIdleTimeout timeout)
      (busy : system.roster.phase ≠ .stopped)
      (named : operation = if request = .start then "start" else "set idle timeout") :
    Section system (.proceed call)
      (system.reply call (.illegal ⟨operation, system.roster.phase⟩))
  /-- The dispatcher starts. -/
  | started (call : Nat) (found : system.calls.get? call = some (.entering .start))
      (stopped : system.roster.phase = .stopped) :
    Section system (.proceed call)
      (((system.setPhase .running).reply call .done).1,
        [.started system.capacity system.roster.idleTimeout, .returned call .done])
  /-- The idle timeout is set. -/
  | retimed (call : Nat) (timeout : Option Millis)
      (found : system.calls.get? call = some (.entering (.setIdleTimeout timeout)))
      (stopped : system.roster.phase = .stopped) :
    Section system (.proceed call)
      ((system.setRoster { system.roster with idleTimeout := idleTimeout? timeout }).reply call
        .done)
  /-- An offer is declined at once. -/
  | turnedDown (call : Nat) (fallsBack : Bool)
      (found : system.calls.get? call = some (.entering (.offer fallsBack)))
      (reason : system.roster.phase ≠ .running ∨
        system.roster.parked = [] ∧ system.capacity ≤ system.roster.reserved) :
    Section system (.proceed call) (system.decline call fallsBack)
  /-- An offer hands its task to the worker that parked last. -/
  | claimed (call : Nat) (fallsBack : Bool) (worker : WorkerId) (remaining : List WorkerId)
      (found : system.calls.get? call = some (.entering (.offer fallsBack)))
      (running : system.roster.phase = .running)
      (parked : system.roster.parked = worker :: remaining)
      (ready : system.slot? worker = some none) :
    Section system (.proceed call) (system.handOver call worker remaining)
  /-- An offer finds no parked worker and creates a worker loop. -/
  | created (call : Nat) (fallsBack : Bool)
      (found : system.calls.get? call = some (.entering (.offer fallsBack)))
      (running : system.roster.phase = .running) (nobody : system.roster.parked = [])
      (room : system.roster.reserved < system.capacity) :
    Section system (.proceed call)
      (system.create.setCall call (.submitting fallsBack system.workers.length),
        [.created system.workers.length])
  /-- The executor's answer about a worker loop is counted. -/
  | counted (call : Nat) (fallsBack : Bool) (count : Count) (event : Event) (stage : Call)
      (found : system.calls.get? call = some stage)
      (answered : (∃ worker, stage = .countingSpawned fallsBack worker ∧ count = .spawned ∧
          event = .submitted worker) ∨
        ∃ worker refusal, stage = .countingRefused fallsBack worker refusal ∧
          count = .spawnFailures ∧ event = .spawnFailed worker refusal) :
    Section system (.proceed call)
      ((system.count count).setCall call (.countingDeclined fallsBack), [event])
  /-- An offer that has created a worker loop is declined. -/
  | declined (call : Nat) (fallsBack : Bool)
      (found : system.calls.get? call = some (.countingDeclined fallsBack)) :
    Section system (.proceed call) (system.decline call fallsBack)
  /-- A stop finds that nothing is left to do. -/
  | restful (call : Nat)
      (found : system.calls.get? call = some (.entering .stop) ∨
        system.calls.get? call = some (.woken .stopped))
      (stopped : system.roster.phase = .stopped) :
    Section system (.proceed call) (system.reply call .done)
  /-- A stop waits for the one in progress. -/
  | joined (call : Nat)
      (found : system.calls.get? call = some (.entering .stop) ∧
          system.roster.phase = .stopping ∨
        system.calls.get? call = some (.woken .stopped) ∧ system.roster.phase ≠ .stopped) :
    Section system (.proceed call) (system.setCall call (.sleeping .stopped), [])
  /-- A stop tells all parked workers to retire. -/
  | stopBegun (call : Nat) (found : system.calls.get? call = some (.entering .stop))
      (active : system.roster.phase = .starting ∨ system.roster.phase = .running) :
    Section system (.proceed call)
      (system.retireAll.1.awaitLastWorker call, system.retireAll.2)
  /-- A stop looks again whether the last worker has left. -/
  | looked (call : Nat) (found : system.calls.get? call = some (.woken .lastWorker)) :
    Section system (.proceed call) (system.awaitLastWorker call, [])
  /-- A stop announces that the dispatcher is stopped. -/
  | announced (call : Nat) (found : system.calls.get? call = some .announcing) :
    Section system (.proceed call)
      ((system.announce.reply call .done).1, [.stopped, .returned call .done])
  /-- The executor takes a worker loop. -/
  | taken (call : Nat) (fallsBack : Bool) (worker : WorkerId)
      (found : system.calls.get? call = some (.submitting fallsBack worker)) :
    Section system (.answer call none)
      (system.setCall call (.countingSpawned fallsBack worker), [])
  /-- The executor refuses a worker loop. -/
  | refused (call : Nat) (fallsBack : Bool) (worker : WorkerId) (refusal : Refusal)
      (found : system.calls.get? call = some (.submitting fallsBack worker)) :
    Section system (.answer call (some refusal))
      (system.setCall call (.countingRefused fallsBack worker refusal), [])
  /-- The executor answers about a declined task. -/
  | passedOn (call : Nat) (refusal : Option Refusal)
      (found : system.calls.get? call = some .fallingBack) :
    Section system (.answer call refusal)
      (system.reply call ((refusal.map Answer.refused).getD .fallback))
  /-- A call is broken off while the executor has its worker loop or its task. -/
  | brokenOff (call : Nat) (stage : Call) (loop? : Option WorkerId)
      (found : system.calls.get? call = some stage) (has : stage.submission? = some loop?) :
    Section system (.breakOff call)
      ({ system with calls := system.calls.remove call }, [.brokenOff call loop?])
  /-- A worker loop is launched after its epoch. -/
  | stale (number : WorkerId) (epoch : Nat)
      (found : system.workers[number]? = some ⟨epoch, .queued⟩)
      (past : system.roster.epoch ≠ epoch) :
    Section system (.launch number) (system.setStage number (.gone .stale), [.stale number])
  /-- A worker loop registers. -/
  | registered (number : WorkerId)
      (found : system.workers[number]? = some ⟨system.roster.epoch, .queued⟩)
      (running : system.roster.phase = .running) :
    Section system (.launch number)
      ((system.setRoster (system.roster.register number)).setStage number
        (.serving system.roster.idleTimeout none .waiting), [.registered number])
  /-- A worker loop is launched in its epoch and not accepted. -/
  | turnedAway (number : WorkerId)
      (found : system.workers[number]? = some ⟨system.roster.epoch, .queued⟩)
      (busy : system.roster.phase ≠ .running) :
    Section system (.launch number)
      ((system.setRoster system.roster.giveBack).setStage number (.gone .turnedAway), [])
  /-- A worker loop is dropped unrun in its epoch. -/
  | discarded (number : WorkerId)
      (found : system.workers[number]? = some ⟨system.roster.epoch, .queued⟩) :
    Section system (.discard number)
      ((system.setRoster system.roster.giveBack).setStage number (.gone .discarded),
        [.discarded number])
  /-- A worker loop is dropped unrun after its epoch. -/
  | forgotten (number : WorkerId) (epoch : Nat)
      (found : system.workers[number]? = some ⟨epoch, .queued⟩)
      (past : system.roster.epoch ≠ epoch) :
    Section system (.discard number)
      (system.setStage number (.gone .discarded), [.discarded number])
  /-- A worker takes the task from its slot. -/
  | began (number : WorkerId) (epoch : Nat) (idleTimeout : Option Millis) (task : Task)
      (duty : Duty) (waits : duty = .waiting ∨ duty = .awaiting)
      (found : system.workers[number]? =
        some ⟨epoch, .serving idleTimeout (some (.task task)) duty⟩) :
    Section system (.work number)
      (system.setStage number (.serving idleTimeout none (.executing task)),
        [.began number task])
  /-- A worker is told to retire. -/
  | told (number : WorkerId) (epoch : Nat) (idleTimeout : Option Millis) (duty : Duty)
      (waits : duty = .waiting ∨ duty = .awaiting)
      (found : system.workers[number]? =
        some ⟨epoch, .serving idleTimeout (some .retire) duty⟩) :
    Section system (.work number)
      (system.setStage number (.serving idleTimeout none .retiring), [])
  /-- A worker has waited at its slot for long enough. -/
  | expired (number : WorkerId) (epoch : Nat) (timeout : Millis)
      (found : system.workers[number]? =
        some ⟨epoch, .serving (some timeout) none .waiting⟩) :
    Section system (.expire number)
      (system.setStage number (.serving (some timeout) none .expired), [])
  /-- A worker that has waited long enough is still parked and leaves. -/
  | withdrawn (number : WorkerId) (epoch : Nat) (timeout : Millis) (slot : Option Handoff)
      (found : system.workers[number]? =
        some ⟨epoch, .serving (some timeout) slot .expired⟩)
      (parked : number ∈ system.roster.parked) :
    Section system (.work number)
      ((system.setRoster (system.roster.withdraw number)).setStage number
        (.announcing (.idle timeout)), [.withdrawn number])
  /-- A worker that has waited long enough was given something and waits for it. -/
  | kept (number : WorkerId) (epoch : Nat) (timeout : Millis) (slot : Option Handoff)
      (found : system.workers[number]? =
        some ⟨epoch, .serving (some timeout) slot .expired⟩)
      (gone : number ∉ system.roster.parked) :
    Section system (.work number)
      (system.setStage number (.serving (some timeout) slot .awaiting), [.idleCancelled number])
  /-- A task ends. -/
  | ended (number : WorkerId) (epoch : Nat) (idleTimeout : Option Millis)
      (slot : Option Handoff) (task : Task) (outcome : Outcome)
      (found : system.workers[number]? =
        some ⟨epoch, .serving idleTimeout slot (.executing task)⟩) :
    Section system (.finish number outcome)
      (system.setStage number (.serving idleTimeout slot (.ofOutcome task outcome)),
        [.ended number task outcome])
  /-- A failed task is counted. -/
  | failed (number : WorkerId) (epoch : Nat) (idleTimeout : Option Millis)
      (slot : Option Handoff) (task : Task) (failure : Failure)
      (found : system.workers[number]? =
        some ⟨epoch, .serving idleTimeout slot (.failed task failure)⟩) :
    Section system (.work number)
      ((system.count .taskFailures).setStage number
        (.serving idleTimeout slot (.reporting task failure)), [])
  /-- A failed task is reported, and what it left behind is disposed of quietly. -/
  | reported (number : WorkerId) (epoch : Nat) (idleTimeout : Option Millis)
      (slot : Option Handoff) (task : Task) (failure : Failure)
      (found : system.workers[number]? =
        some ⟨epoch, .serving idleTimeout slot (.reporting task failure)⟩)
      (quiet : failure.spills = false) :
    Section system (.work number)
      (system.setStage number (.serving idleTimeout slot (.ended task)),
        [.faulted number failure.message])
  /-- A failed task is reported, and what it left behind spills and brings the worker
  down. -/
  | spilled (number : WorkerId) (epoch : Nat) (idleTimeout : Option Millis)
      (slot : Option Handoff) (task : Task) (failure : Failure)
      (found : system.workers[number]? =
        some ⟨epoch, .serving idleTimeout slot (.reporting task failure)⟩)
      (spills : failure.spills = true) :
    Section system (.work number)
      (system.setStage number (.gone .broken), [.faulted number failure.message])
  /-- Reporting a failed task brings the worker down. -/
  | broke (number : WorkerId) (epoch : Nat) (idleTimeout : Option Millis)
      (slot : Option Handoff) (task : Task) (failure : Failure)
      (found : system.workers[number]? =
        some ⟨epoch, .serving idleTimeout slot (.reporting task failure)⟩) :
    Section system (.breakDown number)
      (system.setStage number (.gone .broken), [.faulted number failure.message])
  /-- A worker gives its task back and parks again. -/
  | parkedAgain (number : WorkerId) (idleTimeout : Option Millis) (slot : Option Handoff)
      (task : Task)
      (found : system.workers[number]? =
        some ⟨system.roster.epoch, .serving idleTimeout slot (.ended task)⟩)
      (running : system.roster.phase = .running) :
    Section system (.work number)
      ((system.setRoster (system.roster.release.park number)).setStage number
        (.serving idleTimeout slot .waiting), [.finished number task, .parkedAgain number])
  /-- A worker gives its task back and leaves. -/
  | leftAfterTask (number : WorkerId) (epoch : Nat) (idleTimeout : Option Millis)
      (slot : Option Handoff) (task : Task)
      (found : system.workers[number]? =
        some ⟨epoch, .serving idleTimeout slot (.ended task)⟩)
      (unaccepted : system.roster.phase ≠ .running ∨ system.roster.epoch ≠ epoch) :
    Section system (.work number)
      ((system.setRoster system.roster.release.leave).setStage number (.announcing .afterTask),
        [.finished number task])
  /-- A worker that was told to retire leaves. -/
  | leftRetired (number : WorkerId) (epoch : Nat) (idleTimeout : Option Millis)
      (slot : Option Handoff)
      (found : system.workers[number]? =
        some ⟨epoch, .serving idleTimeout slot .retiring⟩) :
    Section system (.work number)
      ((system.setRoster system.roster.leave).setStage number (.announcing .retired), [])
  /-- A worker announces that it has left. -/
  | departed (number : WorkerId) (epoch : Nat) (departure : Departure)
      (found : system.workers[number]? = some ⟨epoch, .announcing departure⟩) :
    Section system (.work number) (system.depart number departure)
  /-- A worker that has left for being idle is counted. -/
  | idled (number : WorkerId) (epoch : Nat) (timeout : Millis)
      (found : system.workers[number]? = some ⟨epoch, .counting timeout⟩) :
    Section system (.work number)
      ((system.count .idleRetired).setStage number (.gone (.left (.idle timeout))),
        [.idleRetired number timeout])
  /-- The last holder lets go of a dispatcher that is not open. -/
  | letGo (unused : system.calls.isEmpty = true)
      (closed : system.roster.phase = .stopped ∨ system.roster.phase = .stopping)
      (held : system.held = true) : Section system .letGo ({ system with held := false }, [])
  /-- The last holder lets go of an open dispatcher, which begins to stop. -/
  | abandoned (unused : system.calls.isEmpty = true)
      (active : system.roster.phase = .starting ∨ system.roster.phase = .running)
      (held : system.held = true) : Section system .letGo system.letGo

namespace System

variable {system : System}

/-- With every parked slot empty, an offer in a running dispatcher either hands its
task to the worker that parked last or finds nobody parked. -/
theorem offer_of_running (ready : system.ParkedReady) (running : system.roster.phase = .running)
    (call : Nat) (fallsBack : Bool) :
    system.offer call fallsBack =
      match system.roster.parked with
      | [] => system.declineAndSpawn call fallsBack
      | worker :: remaining => system.handOver call worker remaining := by
  unfold offer
  rw [if_neg (by simp [running])]
  cases parked : system.roster.parked with
  | nil =>
    have same : { system with roster := { system.roster with parked := [] } } = system := by
      rw [← parked]
    simp only [List.takeWhile_nil, List.dropWhile_nil, List.map_nil, List.nil_append, same]
  | cons worker remaining =>
    have empty : system.slot? worker = some none := ready worker (by simp [parked])
    simp [empty]

/-- An offer enters in one section: it hands its task over, declines it or creates a loop. -/
theorem section_of_offer (ready : system.ParkedReady) (call : Nat) (fallsBack : Bool)
    (found : system.calls.get? call = some (.entering (.offer fallsBack))) :
    Section system (.proceed call) (system.offer call fallsBack) := by
  by_cases running : system.roster.phase = .running
  · rw [offer_of_running ready running]
    cases parked : system.roster.parked with
    | nil =>
      by_cases room : system.roster.reserved < system.capacity
      · simpa [declineAndSpawn, room, create] using
          Section.created call fallsBack found running parked room
      · simpa [declineAndSpawn, room] using
          Section.turnedDown call fallsBack found (.inr ⟨parked, Nat.le_of_not_lt room⟩)
    | cons worker remaining =>
      exact .claimed call fallsBack worker remaining found running parked
        (ready worker (by simp [parked]))
  · simpa [offer, running] using Section.turnedDown call fallsBack found (.inl running)

/-- A stop enters in one section: it begins to stop, joins another stop or rests. -/
theorem section_of_stop (call : Nat)
    (found : system.calls.get? call = some (.entering .stop)) :
    Section system (.proceed call) (system.stop call) := by
  cases phase : system.roster.phase with
  | stopped => simpa [stop, phase] using Section.restful call (.inl found) phase
  | stopping =>
    simpa [stop, awaitStopped, phase] using Section.joined call (.inl ⟨found, phase⟩)
  | starting => simpa [stop, phase] using Section.stopBegun call found (.inl phase)
  | running => simpa [stop, phase] using Section.stopBegun call found (.inr phase)

/-- Every call enters in one section. -/
theorem section_of_enter (ready : system.ParkedReady) (call : Nat) (request : Request)
    (found : system.calls.get? call = some (.entering request)) :
    Section system (.proceed call) (system.enter call request) := by
  cases request with
  | start =>
    by_cases stopped : system.roster.phase = .stopped
    · simpa [enter, whileStopped, stopped, reply] using Section.started call found stopped
    · simpa [enter, whileStopped, stopped] using
        Section.illegal call .start "start" found (.inl rfl) stopped rfl
  | setIdleTimeout timeout =>
    by_cases stopped : system.roster.phase = .stopped
    · simpa [enter, whileStopped, stopped, setRoster, reply] using
        Section.retimed call timeout found stopped
    · simpa [enter, whileStopped, stopped] using
        Section.illegal call _ "set idle timeout" found (.inr ⟨timeout, rfl⟩) stopped rfl
  | stop => exact section_of_stop call found
  | offer fallsBack => exact section_of_offer ready call fallsBack found

/-- A call goes on by itself in one section. -/
theorem section_of_proceed (ready : system.ParkedReady) (call : Nat) (stage : Call)
    (found : system.calls.get? call = some stage) {result : System × List Event}
    (made : system.proceed call stage = some result) :
    Section system (.proceed call) result := by
  cases stage with
  | entering request =>
    obtain rfl := Option.some.inj made
    exact section_of_enter ready call request found
  | countingSpawned fallsBack worker =>
    obtain rfl := Option.some.inj made
    exact .counted call fallsBack .spawned _ _ found (.inl ⟨worker, rfl, rfl, rfl⟩)
  | countingRefused fallsBack worker refusal =>
    obtain rfl := Option.some.inj made
    exact .counted call fallsBack .spawnFailures _ _ found (.inr ⟨worker, refusal, rfl, rfl, rfl⟩)
  | countingDeclined fallsBack =>
    obtain rfl := Option.some.inj made
    exact .declined call fallsBack found
  | woken awaited =>
    cases awaited with
    | lastWorker =>
      obtain rfl := Option.some.inj made
      exact .looked call found
    | stopped =>
      obtain rfl := Option.some.inj made
      by_cases stopped : system.roster.phase = .stopped
      · simpa [awaitStopped, stopped] using Section.restful call (.inr found) stopped
      · simpa [awaitStopped, stopped] using Section.joined call (.inr ⟨found, stopped⟩)
  | announcing =>
    obtain rfl := Option.some.inj made
    exact .announced call found
  | submitting _ _ => cases made
  | fallingBack => cases made
  | sleeping _ => cases made

/-- The executor's answer is one section of the call. -/
theorem section_of_answer (call : Nat) (refusal : Option Refusal) (stage : Call)
    (found : system.calls.get? call = some stage) {result : System × List Event}
    (made : system.answer call refusal stage = some result) :
    Section system (.answer call refusal) result := by
  cases stage with
  | submitting fallsBack worker =>
    cases refusal with
    | none =>
      obtain rfl := Option.some.inj made
      exact .taken call fallsBack worker found
    | some refusal =>
      obtain rfl := Option.some.inj made
      exact .refused call fallsBack worker refusal found
  | fallingBack =>
    have passed := Section.passedOn call refusal found
    cases refusal <;> exact Option.some.inj made ▸ passed
  | _ => cases made

/-- An executor that breaks down ends the call in one section. -/
theorem section_of_break_off (call : Nat) (stage : Call)
    (found : system.calls.get? call = some stage) {result : System × List Event}
    (made : system.breakOff call stage = some result) :
    Section system (.breakOff call) result := by
  obtain ⟨loop?, has, rfl⟩ := Option.map_eq_some_iff.mp made
  exact .brokenOff call stage loop? found has

/-- A loop is launched in one section. -/
theorem section_of_launch (number : WorkerId) (epoch : Nat)
    (found : system.workers[number]? = some ⟨epoch, .queued⟩) :
    Section system (.launch number) (system.launch number epoch) := by
  by_cases past : system.roster.epoch = epoch
  · subst past
    by_cases running : system.roster.phase = .running
    · simpa [launch, Roster.accepts, running, setRoster] using
        Section.registered number found running
    · simpa [launch, Roster.accepts, running, setRoster] using
        Section.turnedAway number found running
  · simpa [launch, past] using Section.stale number epoch found past

/-- A loop is dropped in one section. -/
theorem section_of_discard (number : WorkerId) (epoch : Nat)
    (found : system.workers[number]? = some ⟨epoch, .queued⟩) :
    Section system (.discard number) (system.discard number epoch) := by
  by_cases past : system.roster.epoch = epoch
  · subst past
    simpa [discard, setRoster] using Section.discarded number found
  · simpa [discard, past] using Section.forgotten number epoch found past

/-- A worker goes on after its task in one section. -/
theorem section_of_conclude (number : WorkerId) (epoch : Nat) (idleTimeout : Option Millis)
    (slot : Option Handoff) (task : Task)
    (found : system.workers[number]? = some ⟨epoch, .serving idleTimeout slot (.ended task)⟩) :
    Section system (.work number) (system.conclude number epoch idleTimeout slot task) := by
  by_cases accepted : system.roster.phase = .running ∧ system.roster.epoch = epoch
  · obtain ⟨running, rfl⟩ := accepted
    simpa [conclude, Roster.accepts, Roster.release, running, setRoster] using
      Section.parkedAgain number idleTimeout slot task found running
  · have unaccepted : system.roster.phase ≠ .running ∨ system.roster.epoch ≠ epoch :=
      Decidable.not_and_iff_not_or_not.mp accepted
    have refused : system.roster.release.accepts epoch = false := by
      simpa [Roster.accepts, Roster.release] using accepted
    simpa [conclude, refused, setRoster] using
      Section.leftAfterTask number epoch idleTimeout slot task found unaccepted

/-- A serving worker goes on by itself in one section. -/
theorem section_of_serve (number : WorkerId) (epoch : Nat) (idleTimeout : Option Millis)
    (slot : Option Handoff) (duty : Duty)
    (found : system.workers[number]? = some ⟨epoch, .serving idleTimeout slot duty⟩)
    {result : System × List Event}
    (made : system.serve number epoch idleTimeout slot duty = some result) :
    Section system (.work number) result := by
  have taken (waits : duty = .waiting ∨ duty = .awaiting)
      (took : slot.map (system.take number idleTimeout) = some result) :
      Section system (.work number) result := by
    cases slot with
    | none => cases took
    | some handoff =>
      obtain rfl := Option.some.inj took
      cases handoff with
      | task task => exact .began number epoch idleTimeout task duty waits found
      | retire => exact .told number epoch idleTimeout duty waits found
  cases duty with
  | waiting => exact taken (.inl rfl) made
  | awaiting => exact taken (.inr rfl) made
  | expired =>
    cases idleTimeout with
    | none => cases made
    | some timeout =>
      obtain rfl := Option.some.inj made
      by_cases parked : number ∈ system.roster.parked
      · simpa [retireIdle, parked, setRoster] using
          Section.withdrawn number epoch timeout slot found parked
      · simpa [retireIdle, parked] using Section.kept number epoch timeout slot found parked
  | executing _ => cases made
  | failed task failure =>
    obtain rfl := Option.some.inj made
    exact .failed number epoch idleTimeout slot task failure found
  | reporting task failure =>
    obtain rfl := Option.some.inj made
    cases spills : failure.spills with
    | false =>
      simpa [Stage.afterReport, spills] using
        Section.reported number epoch idleTimeout slot task failure found spills
    | true =>
      simpa [Stage.afterReport, spills] using
        Section.spilled number epoch idleTimeout slot task failure found spills
  | ended task =>
    obtain rfl := Option.some.inj made
    exact section_of_conclude number epoch idleTimeout slot task found
  | retiring =>
    obtain rfl := Option.some.inj made
    exact .leftRetired number epoch idleTimeout slot found

/-- A worker goes on by itself in one section. -/
theorem section_of_work (number : WorkerId) (worker : Worker)
    (found : system.workers[number]? = some worker) {result : System × List Event}
    (made : system.work number worker = some result) :
    Section system (.work number) result := by
  obtain ⟨epoch, stage⟩ := worker
  cases stage with
  | serving idleTimeout slot duty =>
    exact section_of_serve number epoch idleTimeout slot duty found made
  | announcing departure =>
    obtain rfl := Option.some.inj made
    exact .departed number epoch departure found
  | counting timeout =>
    obtain rfl := Option.some.inj made
    exact .idled number epoch timeout found
  | queued => cases made
  | gone _ => cases made

/-- An idle timeout fires in one section. -/
theorem section_of_expire (number : WorkerId) (worker : Worker)
    (found : system.workers[number]? = some worker) {result : System × List Event}
    (made : system.expire number worker = some result) :
    Section system (.expire number) result := by
  obtain ⟨epoch, stage⟩ := worker
  unfold expire at made
  split at made
  · rename_i timeout same
    obtain rfl := Option.some.inj made
    obtain rfl : stage = .serving (some timeout) none .waiting := same
    exact .expired number epoch timeout found
  · cases made

/-- A task ends in one section. -/
theorem section_of_finish (number : WorkerId) (outcome : Outcome) (worker : Worker)
    (found : system.workers[number]? = some worker) {result : System × List Event}
    (made : system.finish number outcome worker = some result) :
    Section system (.finish number outcome) result := by
  obtain ⟨epoch, stage⟩ := worker
  unfold finish at made
  split at made
  · rename_i idleTimeout slot task same
    obtain rfl := Option.some.inj made
    obtain rfl : stage = .serving idleTimeout slot (.executing task) := same
    have ended := Section.ended number epoch idleTimeout slot task outcome found
    cases outcome <;> exact ended
  · cases made

/-- A worker is brought down in one section. -/
theorem section_of_break_down (number : WorkerId) (worker : Worker)
    (found : system.workers[number]? = some worker) {result : System × List Event}
    (made : system.breakDown number worker = some result) :
    Section system (.breakDown number) result := by
  obtain ⟨epoch, stage⟩ := worker
  unfold breakDown at made
  split at made
  · rename_i idleTimeout slot task failure same
    obtain rfl := Option.some.inj made
    obtain rfl : stage = .serving idleTimeout slot (.reporting task failure) := same
    exact .broke number epoch idleTimeout slot task failure found
  · cases made

/-- The last holder lets a dispatcher go in one section. -/
theorem section_of_let_go (unused : system.calls.isEmpty = true) (held : system.held = true) :
    Section system .letGo system.letGo := by
  cases phase : system.roster.phase with
  | stopped => simpa [letGo, phase] using Section.letGo unused (.inl phase) held
  | stopping => simpa [letGo, phase] using Section.letGo unused (.inr phase) held
  | starting => exact .abandoned unused (.inl phase) held
  | running => exact .abandoned unused (.inr phase) held

/-- Every move is one of the sections. -/
theorem section_of_step (ready : system.ParkedReady) {move : Move}
    {result : System × List Event} (made : system.step move = some result) :
    Section system move result := by
  cases move with
  | invoke request =>
    simp only [step] at made
    split at made
    · rename_i held
      obtain rfl := Option.some.inj made
      exact .invoked request held
    · cases made
  | proceed call =>
    obtain ⟨stage, found, made⟩ := Option.bind_eq_some_iff.mp made
    exact section_of_proceed ready call stage found made
  | answer call refusal =>
    obtain ⟨stage, found, made⟩ := Option.bind_eq_some_iff.mp made
    exact section_of_answer call refusal stage found made
  | breakOff call =>
    obtain ⟨stage, found, made⟩ := Option.bind_eq_some_iff.mp made
    exact section_of_break_off call stage found made
  | launch number =>
    obtain ⟨⟨epoch, stage⟩, found, made⟩ := Option.bind_eq_some_iff.mp made
    split at made
    · rename_i queued
      obtain rfl : stage = .queued := queued
      obtain rfl := Option.some.inj made
      exact section_of_launch number epoch found
    · cases made
  | discard number =>
    obtain ⟨⟨epoch, stage⟩, found, made⟩ := Option.bind_eq_some_iff.mp made
    split at made
    · rename_i queued
      obtain rfl : stage = .queued := queued
      obtain rfl := Option.some.inj made
      exact section_of_discard number epoch found
    · cases made
  | work number =>
    obtain ⟨worker, found, made⟩ := Option.bind_eq_some_iff.mp made
    exact section_of_work number worker found made
  | expire number =>
    obtain ⟨worker, found, made⟩ := Option.bind_eq_some_iff.mp made
    exact section_of_expire number worker found made
  | finish number outcome =>
    obtain ⟨worker, found, made⟩ := Option.bind_eq_some_iff.mp made
    exact section_of_finish number outcome worker found made
  | breakDown number =>
    obtain ⟨worker, found, made⟩ := Option.bind_eq_some_iff.mp made
    exact section_of_break_down number worker found made
  | letGo =>
    simp only [step] at made
    split at made
    · rename_i allowed
      obtain rfl := Option.some.inj made
      rw [Bool.and_eq_true] at allowed
      exact section_of_let_go allowed.2 allowed.1
    · cases made

/-- Every section is made by its move, so the list has no entry too many. -/
theorem step_of_section {move : Move} {result : System × List Event}
    (made : Section system move result) : system.step move = some result := by
  cases made with
  | invoked request held => simp [step, held]
  | illegal call request operation found needs busy named =>
    subst named
    rcases needs with rfl | ⟨timeout, rfl⟩ <;>
      simp [step, found, proceed, enter, whileStopped, busy]
  | started call found stopped =>
    simp [step, found, proceed, enter, whileStopped, stopped, reply]
  | retimed call timeout found stopped =>
    simp [step, found, proceed, enter, whileStopped, stopped, setRoster, reply]
  | turnedDown call fallsBack found reason =>
    by_cases running : system.roster.phase = .running
    · obtain ⟨nobody, full⟩ := reason.resolve_left (not_not_intro running)
      have ready : system.ParkedReady := by simp [ParkedReady, nobody]
      simp [step, found, proceed, enter, offer_of_running ready running, nobody, declineAndSpawn,
        Nat.not_lt.mpr full]
    · simp [step, found, proceed, enter, offer, running]
  | claimed call fallsBack worker remaining found running parked ready =>
    simp [step, found, proceed, enter, offer, running, parked, ready]
  | created call fallsBack found running nobody room =>
    have ready : system.ParkedReady := by simp [ParkedReady, nobody]
    simp [step, found, proceed, enter, offer_of_running ready running, nobody, declineAndSpawn,
      room, create]
  | counted call fallsBack count event stage found answered =>
    rcases answered with ⟨worker, rfl, rfl, rfl⟩ | ⟨worker, refusal, rfl, rfl, rfl⟩ <;>
      simp [step, found, proceed]
  | declined call fallsBack found => simp [step, found, proceed]
  | restful call found stopped =>
    rcases found with found | found <;>
      simp [step, found, proceed, enter, stop, awaitStopped, stopped]
  | joined call found =>
    rcases found with ⟨found, stopping⟩ | ⟨found, open_⟩
    · simp [step, found, proceed, enter, stop, awaitStopped, stopping]
    · simp [step, found, proceed, awaitStopped, open_]
  | stopBegun call found active =>
    rcases active with phase | phase <;> simp [step, found, proceed, enter, stop, phase]
  | looked call found => simp [step, found, proceed]
  | announced call found => simp [step, found, proceed, reply]
  | taken call fallsBack worker found => simp [step, found, answer]
  | refused call fallsBack worker refusal found => simp [step, found, answer]
  | passedOn call refusal found => cases refusal <;> simp [step, found, answer]
  | brokenOff call stage loop? found has => simp [step, found, breakOff, has]
  | stale number epoch found past => simp [step, found, launch, past]
  | registered number found running =>
    simp [step, found, launch, Roster.accepts, running, setRoster]
  | turnedAway number found busy => simp [step, found, launch, Roster.accepts, busy, setRoster]
  | discarded number found => simp [step, found, discard, setRoster]
  | forgotten number epoch found past => simp [step, found, discard, past]
  | began number epoch idleTimeout task duty waits found
  | told number epoch idleTimeout duty waits found =>
    rcases waits with rfl | rfl <;> simp [step, found, work, serve, take]
  | expired number epoch timeout found => simp [step, found, expire]
  | withdrawn number epoch timeout slot found parked =>
    simp [step, found, work, serve, retireIdle, parked, setRoster]
  | kept number epoch timeout slot found gone =>
    simp [step, found, work, serve, retireIdle, gone]
  | ended number epoch idleTimeout slot task outcome found =>
    cases outcome <;> simp [step, found, finish, Duty.ofOutcome]
  | failed number epoch idleTimeout slot task failure found => simp [step, found, work, serve]
  | reported number epoch idleTimeout slot task failure found quiet =>
    simp [step, found, work, serve, Stage.afterReport, quiet]
  | spilled number epoch idleTimeout slot task failure found spills =>
    simp [step, found, work, serve, Stage.afterReport, spills]
  | broke number epoch idleTimeout slot task failure found => simp [step, found, breakDown]
  | parkedAgain number idleTimeout slot task found running =>
    simp [step, found, work, serve, conclude, Roster.accepts, Roster.release, running, setRoster]
  | leftAfterTask number epoch idleTimeout slot task found unaccepted =>
    have refused : system.roster.release.accepts epoch = false := by
      simpa [Roster.accepts, Roster.release] using Decidable.not_and_iff_not_or_not.mpr unaccepted
    simp [step, found, work, serve, conclude, refused, setRoster]
  | leftRetired number epoch idleTimeout slot found =>
    simp [step, found, work, serve, setRoster]
  | departed number epoch departure found => simp [step, found, work]
  | idled number epoch timeout found => simp [step, found, work]
  | letGo unused closed held =>
    rcases closed with phase | phase <;> simp [step, unused, held, letGo, phase]
  | abandoned unused active held => simp [step, unused, held]

end System

end Standby.Dispatcher
