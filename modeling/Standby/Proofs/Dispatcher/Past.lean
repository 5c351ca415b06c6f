import Mathlib.Data.List.Basic
import Standby.Proofs.Dispatcher.Crew

/-!
# Dispatchers with a past

What was before leaves its traces in a dispatcher: numbers that were given out, an epoch
that was reached, counts, and worker loops. Here a dispatcher is put behind such a past.
Its calls, tasks and loops get later numbers, its epochs come later and its counts go on
from those of the past. The loops of the past stand before its own.

The main statement is that a past makes no difference: a dispatcher behind a past makes
the same moves as without it, under the later numbers. Nothing is assumed of the loops of
the past for that, since no move under a later number looks at them.
-/

namespace Standby

namespace Register

variable {α : Type}

/-- The entries under later numbers, in a register that had given out some before. -/
def after (register : Register α) (before : Nat) (change : α → α) : Register α where
  next := before + register.next
  entries := register.entries.map fun entry => (before + entry.1, change entry.2)
  descending := by
    rw [List.pairwise_map]
    exact register.descending.imp fun earlier => Nat.add_lt_add_left earlier before
  given := by
    intro entry member
    obtain ⟨own, held, rfl⟩ := List.mem_map.mp member
    exact Nat.add_lt_add_left (register.given own held) before

/-- A register is known by its entries and by the number that comes next. -/
theorem eq_of_entries {left right : Register α} (next : left.next = right.next)
    (entries : left.entries = right.entries) : left = right := by
  cases left
  cases right
  cases next
  cases entries
  rfl

variable (register : Register α) (before number : Nat) (change : α → α)

/-- An entry of a list is found under its later number. -/
theorem lookup_after (entries : List (Nat × α)) :
    (entries.map fun entry => (before + entry.1, change entry.2)).lookup (before + number) =
      (entries.lookup number).map change := by
  induction entries with
  | nil => rfl
  | cons first rest inductionHypothesis =>
    obtain ⟨given, value⟩ := first
    by_cases same : number = given
    · simp [same]
    · have different : (number == given) = false := by simpa using same
      have apart : (before + number == before + given) = false := by simpa using same
      simp only [List.map_cons, List.lookup_cons, different, apart, inductionHypothesis]

/-- An entry stands under its later number. -/
@[simp] theorem get?_after :
    (register.after before change).get? (before + number) = (register.get? number).map change :=
  lookup_after before number change register.entries

/-- Nothing stands under the numbers that were given out before. -/
theorem get?_after_of_lt {number : Nat} (early : number < before) :
    (register.after before change).get? number = none := by
  refine List.lookup_eq_none_iff.mpr fun entry member => bne_iff_ne.mpr ?_
  obtain ⟨own, _, rfl⟩ := List.mem_map.mp member
  exact Nat.ne_of_lt (Nat.lt_of_lt_of_le early (Nat.le_add_right before own.1))

/-- Without entries of its own a register only knows where it goes on. -/
theorem after_of_isEmpty (unused : register.isEmpty = true) :
    register = (empty : Register α).after register.next change := by
  have none : register.entries = [] := List.isEmpty_iff.mp unused
  exact eq_of_entries rfl none

/-- Later numbers make no entries. -/
@[simp] theorem isEmpty_after : (register.after before change).isEmpty = register.isEmpty :=
  List.isEmpty_map

/-- An entry is added under the next number behind those of before. -/
theorem add_after (value : α) :
    (register.after before change).add (change value) =
      (register.add value).after before change :=
  eq_of_entries rfl rfl

/-- A change of all entries may come before or after. -/
theorem map_after (first second : Nat → α → α)
    (same : ∀ own value, first (before + own) (change value) = change (second own value)) :
    (register.after before change).map first = (register.map second).after before change := by
  refine eq_of_entries rfl ?_
  simp [map, after, same]

/-- An entry is replaced under its later number. -/
theorem put_after (value : α) :
    (register.after before change).put (before + number) (change value) =
      (register.put number value).after before change := by
  apply map_after
  intro own held
  by_cases same : own = number <;> simp [same]

/-- An entry is removed under its later number. -/
theorem remove_after :
    (register.after before change).remove (before + number) =
      (register.remove number).after before change := by
  refine eq_of_entries rfl ?_
  have same (entry : Nat × α) :
      (before + entry.1 != before + number) = (entry.1 != number) := by
    rw [Bool.eq_iff_iff]
    simp
  simp [remove, after, List.filter_map, Function.comp_def, same]

end Register

namespace Dispatcher

/-- What a dispatcher had before: how many loops and calls, how often it began to stop,
and its counts. -/
structure Past where
  workers : Nat
  calls : Nat
  epoch : Nat
  tally : Tally

namespace Past

variable (past : Past)

/-- The number of a later loop. -/
def worker (number : WorkerId) : WorkerId := past.workers + number

/-- The number of a later call, and of its task. -/
def call (number : Nat) : Nat := past.calls + number

/-- Different loops have different later numbers. -/
theorem worker_injective : Function.Injective past.worker :=
  fun _ _ same => Nat.add_left_cancel same

end Past

/-- Counts that go on from others. -/
def Tally.plus (before tally : Tally) : Tally :=
  .of fun count => before.get count + tally.get count

/-- Counting goes on from the counts of before. -/
theorem Tally.plus_add (before tally : Tally) (count : Count) :
    (before.plus tally).add count = before.plus (tally.add count) := by
  refine Tally.ext fun other => ?_
  by_cases same : other = count
  · simp [plus, same, Nat.add_assoc]
  · simp [plus, same]

/-- Counts that go on from others, if nothing was counted since. -/
theorem Tally.plus_zero (before : Tally) : before.plus .zero = before :=
  Tally.ext fun count => by simp [plus]

section Shift

variable (past : Past)

/-- A handoff of a later task. -/
def Handoff.after : Handoff → Handoff
  | .task number => .task (past.call number)
  | .retire => .retire

/-- A duty that concerns a later task. -/
def Duty.after : Duty → Duty
  | .executing task => .executing (past.call task)
  | .failed task failure => .failed (past.call task) failure
  | .reporting task failure => .reporting (past.call task) failure
  | .ended task => .ended (past.call task)
  | .waiting => .waiting
  | .expired => .expired
  | .awaiting => .awaiting
  | .retiring => .retiring

/-- A stage of a later loop. -/
def Stage.after : Stage → Stage
  | .serving idleTimeout slot duty =>
    .serving idleTimeout (slot.map (Handoff.after past)) (duty.after past)
  | .queued => .queued
  | .announcing departure => .announcing departure
  | .counting timeout => .counting timeout
  | .gone ending => .gone ending

/-- A later loop. -/
def Worker.after (worker : Worker) : Worker :=
  ⟨past.epoch + worker.epoch, worker.stage.after past⟩

/-- A roster of later loops. -/
def Roster.after (roster : Roster) : Roster :=
  { roster with
    parked := roster.parked.map past.worker
    epoch := past.epoch + roster.epoch }

/-- A stage of a later call. -/
def Call.after : Call → Call
  | .submitting fallsBack worker => .submitting fallsBack (past.worker worker)
  | .countingSpawned fallsBack worker => .countingSpawned fallsBack (past.worker worker)
  | .countingRefused fallsBack worker refusal =>
    .countingRefused fallsBack (past.worker worker) refusal
  | .entering request => .entering request
  | .countingDeclined fallsBack => .countingDeclined fallsBack
  | .fallingBack => .fallingBack
  | .sleeping awaited => .sleeping awaited
  | .woken awaited => .woken awaited
  | .announcing => .announcing

/-- An answer to a later call. -/
def Answer.after : Answer → Answer
  | .declined task => .declined (past.call task)
  | .done => .done
  | .illegal fault => .illegal fault
  | .accepted => .accepted
  | .fallback => .fallback
  | .refused refusal => .refused refusal

/-- Something that happens under later numbers. -/
def Event.after : Event → Event
  | .invoked call request => .invoked (past.call call) request
  | .returned call answer => .returned (past.call call) (answer.after past)
  | .brokenOff call loop? => .brokenOff (past.call call) (loop?.map past.worker)
  | .started capacity idleTimeout => .started capacity idleTimeout
  | .stopping parked busy => .stopping parked busy
  | .stopped => .stopped
  | .claimed worker task => .claimed (past.worker worker) (past.call task)
  | .created worker => .created (past.worker worker)
  | .submitted worker => .submitted (past.worker worker)
  | .spawnFailed worker refusal => .spawnFailed (past.worker worker) refusal
  | .fellBack task => .fellBack (past.call task)
  | .slotOccupied worker => .slotOccupied (past.worker worker)
  | .vanished worker => .vanished (past.worker worker)
  | .discarded worker => .discarded (past.worker worker)
  | .stale worker => .stale (past.worker worker)
  | .registered worker => .registered (past.worker worker)
  | .began worker task => .began (past.worker worker) (past.call task)
  | .ended worker task outcome => .ended (past.worker worker) (past.call task) outcome
  | .faulted worker message => .faulted (past.worker worker) message
  | .finished worker task => .finished (past.worker worker) (past.call task)
  | .parkedAgain worker => .parkedAgain (past.worker worker)
  | .retiredAfterTask worker => .retiredAfterTask (past.worker worker)
  | .retired worker => .retired (past.worker worker)
  | .withdrawn worker => .withdrawn (past.worker worker)
  | .idleRetired worker timeout => .idleRetired (past.worker worker) timeout
  | .idleCancelled worker => .idleCancelled (past.worker worker)

/-- A move that concerns a later call or loop. -/
def Move.after : Move → Move
  | .invoke request => .invoke request
  | .proceed call => .proceed (past.call call)
  | .answer call refusal => .answer (past.call call) refusal
  | .breakOff call => .breakOff (past.call call)
  | .launch worker => .launch (past.worker worker)
  | .discard worker => .discard (past.worker worker)
  | .work worker => .work (past.worker worker)
  | .expire worker => .expire (past.worker worker)
  | .finish worker outcome => .finish (past.worker worker) outcome
  | .breakDown worker => .breakDown (past.worker worker)
  | .letGo => .letGo

end Shift

/-- The loop is with the executor, or it has come to its end. -/
def Stage.isSettled : Stage → Bool
  | .queued | .gone _ => true
  | _ => false

/-- The loops that a past leaves behind. The executor may still hold some of them, and
all others have come to their end. -/
structure Leftover (past : Past) where
  loops : List Worker
  length_eq : loops.length = past.workers
  early : ∀ loop ∈ loops, loop.epoch < past.epoch
  settled : ∀ loop ∈ loops, loop.stage.isSettled = true

/-- The dispatcher behind a past and the loops that it has left. -/
def System.after (system : System) {past : Past} (leftover : Leftover past) : System where
  capacity := system.capacity
  held := system.held
  roster := system.roster.after past
  tally := past.tally.plus system.tally
  workers := leftover.loops ++ system.workers.map (Worker.after past)
  calls := system.calls.after past.calls (Call.after past)

/-- What a move leaves and what happens, behind a past. -/
def Leftover.result {past : Past} (leftover : Leftover past) (result : System × List Event) :
    System × List Event :=
  (result.1.after leftover, result.2.map (Event.after past))

section Parts

variable {past : Past}

/-- A roster under later numbers accepts the same loops. -/
theorem Roster.accepts_after (roster : Roster) (epoch : Nat) :
    (roster.after past).accepts (past.epoch + epoch) = roster.accepts epoch := by
  have same : (past.epoch + roster.epoch == past.epoch + epoch) = (roster.epoch == epoch) := by
    rw [Bool.eq_iff_iff]
    simp
  simp only [accepts, after, same]

/-- As many workers count against the capacity as without the past. -/
theorem Roster.reserved_after (roster : Roster) :
    (roster.after past).reserved = roster.reserved := by
  simp [reserved, available, after]

/-- A worker withdraws under its later number. -/
theorem Roster.withdraw_after (roster : Roster) (number : WorkerId) :
    (roster.after past).withdraw (past.worker number) = (roster.withdraw number).after past := by
  simp [withdraw, leave, after, List.map_erase past.worker_injective]

/-- A worker is parked under its later number if it is parked without the past. -/
theorem Roster.mem_parked_after (roster : Roster) (number : WorkerId) :
    past.worker number ∈ (roster.after past).parked ↔ number ∈ roster.parked :=
  List.mem_map_of_injective past.worker_injective

/-- A sleeping call is woken behind a past as without it. -/
theorem Call.wake_after (call : Call) : (call.after past).wake = call.wake.after past := by
  cases call <;> rfl

/-- Only a loop that serves has a slot, behind a past as well. -/
theorem Worker.slot?_after (worker : Worker) :
    (worker.after past).slot? = worker.slot?.map (Option.map (Handoff.after past)) := by
  obtain ⟨epoch, stage⟩ := worker
  cases stage <;> rfl

/-- A worker receives what is later for it. -/
theorem Worker.receive_after (handoff : Handoff) (worker : Worker) :
    (worker.after past).receive (handoff.after past) = (worker.receive handoff).after past := by
  obtain ⟨epoch, stage⟩ := worker
  cases stage with
  | serving idleTimeout slot duty => cases slot <;> rfl
  | _ => rfl

/-- A slot under later numbers is empty when it was empty before. -/
theorem slot_empty_after (slot : Option (Option Handoff)) :
    slot.map (Option.map (Handoff.after past)) = some none ↔ slot = some none := by
  match slot with
  | none => simp
  | some none => simp
  | some (some handoff) => simp

/-- A later loop is told to retire when it was parked. -/
theorem Roster.tell_after (roster : Roster) (number : WorkerId) (worker : Worker) :
    (roster.after past).tell (past.worker number) (worker.after past) =
      (roster.tell number worker).after past := by
  unfold tell
  simp only [mem_parked_after]
  split
  · exact worker.receive_after .retire
  · rfl

/-- Nobody of the past is parked, so nobody of the past is told to retire. -/
theorem Roster.tell_of_lt (roster : Roster) {number : WorkerId} (early : number < past.workers)
    (loop : Worker) : (roster.after past).tell number loop = loop := by
  have unparked : number ∉ (roster.after past).parked := by
    intro parked
    obtain ⟨own, -, rfl⟩ := List.mem_map.mp parked
    exact absurd early (Nat.not_lt.mpr (Nat.le_add_right past.workers own))
  exact if_neg unparked

/-- A later loop goes on after a report as it would without a past. -/
theorem Stage.afterReport_after (idleTimeout : Option Duration.Millis) (slot : Option Handoff)
    (task : Task) (failure : Failure) :
    (Stage.afterReport idleTimeout slot task failure).after past =
      .afterReport idleTimeout (slot.map (Handoff.after past)) (past.call task) failure := by
  unfold afterReport
  split <;> rfl

/-- Only a queued loop is queued behind a past. -/
theorem Stage.queued_after (stage : Stage) : stage.after past = .queued ↔ stage = .queued := by
  cases stage <;> simp [after]

end Parts

/-- Changing an entry behind others leaves those alone. -/
theorem modify_append {α : Type} (front back : List α) (position : Nat) (change : α → α) :
    (front ++ back).modify (front.length + position) change =
      front ++ back.modify position change := by
  induction front with
  | nil => simp
  | cons first rest inductionHypothesis =>
    have shifted : (first :: rest).length + position = (rest.length + position) + 1 := by
      rw [List.length_cons]
      omega
    rw [shifted, List.cons_append, List.modify_succ_cons, inductionHypothesis, List.cons_append]

/-- An entry may be changed before all are translated or after that. -/
theorem modify_map {α : Type} (translate first second : α → α) (entries : List α)
    (position : Nat) (same : ∀ entry, first (translate entry) = translate (second entry)) :
    (entries.map translate).modify position first =
      (entries.modify position second).map translate := by
  refine List.ext_getElem? fun other => ?_
  rw [List.getElem?_modify, List.getElem?_map, List.getElem?_map, List.getElem?_modify]
  cases entries[other]? with
  | none => rfl
  | some entry => by_cases here : position = other <;> simp [here, same]

namespace System

variable {past : Past} (leftover : Leftover past) (system : System)

/-- A loop stands under its later number. -/
theorem worker_after (number : WorkerId) :
    (system.after leftover).workers[past.worker number]? =
      system.workers[number]?.map (Worker.after past) := by
  have behind : leftover.loops.length ≤ past.worker number := by
    rw [leftover.length_eq]
    exact Nat.le_add_right past.workers number
  have place : past.worker number - leftover.loops.length = number := by
    rw [leftover.length_eq]
    exact Nat.add_sub_cancel_left past.workers number
  simp only [after]
  rw [List.getElem?_append_right behind, place, List.getElem?_map]

/-- A loop of the past stands under its old number. -/
theorem loop_after {number : WorkerId} (early : number < past.workers) :
    (system.after leftover).workers[number]? = leftover.loops[number]? := by
  rw [← leftover.length_eq] at early
  exact List.getElem?_append_left early

/-- What lies in a slot is of later tasks. -/
theorem slot?_after (number : WorkerId) :
    (system.after leftover).slot? (past.worker number) =
      (system.slot? number).map (Option.map (Handoff.after past)) := by
  unfold slot?
  rw [worker_after]
  cases system.workers[number]? with
  | none => rfl
  | some worker => exact worker.slot?_after

/-- A change of one worker leaves the loops of the past as they are. -/
theorem workers_after_modify (number : WorkerId) (first second : Worker → Worker)
    (same : ∀ worker : Worker, first (worker.after past) = (second worker).after past) :
    (system.after leftover).workers.modify (past.worker number) first =
      leftover.loops ++ (system.workers.modify number second).map (Worker.after past) := by
  have place : past.worker number = leftover.loops.length + number := by
    rw [leftover.length_eq]
    rfl
  rw [place, after, modify_append, modify_map (Worker.after past) first second _ _ same]

/-- What is counted goes on from the counts of the past. -/
theorem count_after (count : Count) :
    (system.after leftover).count count = (system.count count).after leftover := by
  simp only [System.count, after, Tally.plus_add]

/-- A worker moves to its later stage under its later number. -/
theorem setStage_after (number : WorkerId) (stage : Stage) :
    (system.after leftover).setStage (past.worker number) (stage.after past) =
      (system.setStage number stage).after leftover := by
  unfold setStage
  rw [workers_after_modify leftover system number _ (Worker.move stage) fun _ => rfl]
  rfl

/-- A call moves to its later stage under its later number. -/
theorem setCall_after (call : Nat) (stage : Call) :
    (system.after leftover).setCall (past.call call) (stage.after past) =
      (system.setCall call stage).after leftover := by
  have put := system.calls.put_after past.calls call (Call.after past) stage
  simp only [setCall, after, Past.call, put]

/-- The calls of later numbers are woken with the others. -/
theorem announce_after : (system.after leftover).announce = system.announce.after leftover := by
  have woken := system.calls.map_after past.calls (Call.after past) (fun _ call => call.wake)
    (fun _ call => call.wake) fun _ call => call.wake_after
  simp only [announce, after, woken]

/-- A call returns under its later number. -/
theorem reply_after (call : Nat) (answer : Answer) :
    (system.after leftover).reply (past.call call) (answer.after past) =
      leftover.result (system.reply call answer) := by
  have removed := system.calls.remove_after past.calls call (Call.after past)
  simp only [reply, after, Past.call, removed]
  rfl

end System

end Dispatcher

end Standby
