import Standby.Proofs.Dispatcher.Capacity
import Standby.Proofs.Dispatcher.Crew
import Standby.Proofs.Dispatcher.Origin

/-!
# Idle workers retire

A worker whose idle timeout fires is about to withdraw, and in between it may still be given
something. One question decides, asked under the lock: is it still listed as parked?

If it is, its slot is empty and it withdraws. From then on it has no slot, is never listed
again, and has two sections before it, in which it announces that it has left and is counted.
If it is not, something lies in its slot already, and the worker takes it as soon as it goes on.
So nobody waits at an empty slot for something that never comes.
-/

namespace Standby.Dispatcher

open Duration (Millis)

/-- A worker was counted that had retired because it was idle for too long. -/
def Event.isIdleRetired : Event → Bool
  | .idleRetired _ _ => true
  | _ => false

/-- The stage of a worker that has withdrawn, by how many sections are still before it. -/
def Stage.withdrawn (timeout : Millis) : Nat → Stage
  | 0 => .gone (.left (.idle timeout))
  | 1 => .counting timeout
  | _ => .announcing (.idle timeout)

/-- A worker that has withdrawn does not serve. -/
theorem Stage.isServing_withdrawn (timeout : Millis) (ahead : Nat) :
    (Stage.withdrawn timeout ahead).isServing = false := by
  unfold withdrawn
  split <;> rfl

/-- Nothing can be put into its slot. -/
theorem Worker.slot?_withdrawn (epoch : Nat) (timeout : Millis) (ahead : Nat) :
    (Worker.mk epoch (.withdrawn timeout ahead)).slot? = none := by
  unfold Stage.withdrawn
  split <;> rfl

/-- A worker at this stage neither withdraws nor ever will. -/
def Stage.NeverIdle : Stage → Prop
  | .queued | .counting _ | .announcing (.idle _) => False
  | .serving idleTimeout _ _ => idleTimeout = none
  | .announcing .afterTask | .announcing .retired | .gone _ => True

namespace Advance

variable {roster : Roster} {number : WorkerId} {epoch : Nat} {own : Bool} {before after : Stage}
  {events : List Event}

/-- Those that retire idle are counted one by one. -/
theorem idleRetired (advance : Advance roster number epoch own before after events) :
    (own && before.counts .idleRetired).toNat = events.countP Event.isIdleRetired := by
  cases advance with
  | claimed task idleTimeout duty => cases duty <;> rfl
  | began task idleTimeout duty waits | told idleTimeout duty waits =>
    rcases waits with rfl | rfl <;> rfl
  | _ => rfl

/-- A worker that has withdrawn only moves by itself, one section at a time, and the last of
them counts it. -/
theorem of_withdrawn {timeout : Millis} {ahead : Nat} (few : ahead ≤ 2)
    (advance : Advance roster number epoch own (.withdrawn timeout ahead) after events) :
    ∃ left, ahead = left + 1 ∧ after = .withdrawn timeout left ∧
      events = if left = 0 then [.idleRetired number timeout] else [] := by
  match ahead with
  | 0 => cases advance
  | 1 =>
    cases advance
    exact ⟨0, rfl, rfl, rfl⟩
  | 2 =>
    cases advance
    exact ⟨1, rfl, rfl, rfl⟩
  | _ + 3 => omega

/-- A worker that never retires idle goes on like that, and does not withdraw. -/
theorem neverIdle (advance : Advance roster number epoch own before after events)
    (never : before.NeverIdle) :
    after.NeverIdle ∧ .withdrawn number ∉ events ∧
      ∀ timeout, .idleRetired number timeout ∉ events := by
  cases advance with
  | withdrawn | kept | expired => cases never
  | stale | registered | turnedAway | discarded | announcedIdle | idled => cases never
  | _ => simp_all [Stage.NeverIdle]

end Advance

namespace System

variable {capacity : Nat} {system : System} {move : Move} {result : System × List Event}
  {number : WorkerId} {epoch : Nat} {timeout : Millis}

/-- Every section counts those that it says have retired idle. -/
theorem idleRetired_of_section (made : Section system move result) :
    result.1.tally.idleRetired =
      system.tally.idleRetired + result.2.countP Event.isIdleRetired := by
  have silent (quiet : ∀ event ∈ result.2, event.actor? = none) :
      result.2.countP Event.isIdleRetired = 0 := by
    apply List.countP_eq_zero.mpr
    intro event held
    have nobody := quiet event held
    cases event <;> simp_all [Event.isIdleRetired, Event.actor?]
  obtain ⟨own, crew⟩ : ∃ own, Crew system result.1 result.2 own := ⟨_, crew_of_section made⟩
  cases crew with
  | same workers _ quiet tally => exact (tally .idleRetired rfl).trans (by rw [silent quiet]; rfl)
  | created workers _ quiet tally | told workers _ _ quiet tally =>
    rw [silent quiet, tally, Nat.add_zero]
  | advanced number epoch before after change found workers changed still advance tally =>
    rw [← advance.idleRetired]
    exact tally .idleRetired rfl

/-- Unless a loop is created, nothing more counts against the capacity. -/
theorem reserved_of_section (order : InOrder capacity system) (made : Section system move result)
    (uncreated : ∀ number, .created number ∉ result.2) :
    result.1.roster.reserved ≤ system.roster.reserved := by
  have census := order.census
  have looked (system : System) (call : Nat) :
      (system.awaitLastWorker call).roster.reserved = system.roster.reserved := by
    unfold awaitLastWorker
    split <;> rfl
  have retired : system.roster.retireAll.reserved ≤ system.roster.reserved := by
    simp only [Roster.reserved, Roster.available, Roster.retireAll, List.length_nil]
    omega
  cases made with
  | created call fallsBack => exact absurd List.mem_cons_self (uncreated _)
  | turnedDown call fallsBack | declined call fallsBack => cases fallsBack <;> exact Nat.le_refl _
  | claimed call fallsBack worker remaining found running parked =>
    simp only [handOver, reply, Roster.reserved, Roster.available, Roster.claim, System.count,
      parked, List.length_cons]
    omega
  | stopBegun call => exact (looked _ call).symm ▸ retired
  | looked call => exact Nat.le_of_eq (looked _ call)
  | registered number found =>
    have slot := census.starting_pos found
    simp only [setRoster, setStage, Roster.reserved, Roster.available, Roster.register,
      Roster.park, List.length_cons]
    omega
  | turnedAway | discarded =>
    simp only [setRoster, setStage, Roster.reserved, Roster.available, Roster.giveBack]
    omega
  | withdrawn number epoch timeout slot found parked =>
    have shorter := (List.erase_sublist (a := number) (l := system.roster.parked)).length_le
    simp only [setRoster, setStage, Roster.reserved, Roster.available, Roster.withdraw,
      Roster.leave]
    omega
  | parkedAgain number idleTimeout slot task found =>
    obtain rfl := (census.orderly_of_found found).placed.slot_eq_none rfl
    have counted := census.pending_pos found rfl
    simp only [setRoster, setStage, Roster.reserved, Roster.available, Roster.park,
      Roster.release, List.length_cons]
    omega
  | leftAfterTask =>
    simp only [setRoster, setStage, Roster.reserved, Roster.available, Roster.leave,
      Roster.release]
    omega
  | departed number epoch departure => cases departure <;> exact Nat.le_refl _
  | abandoned unused active =>
    rw [letGo_of_active active]
    dsimp only
    split <;> exact retired
  | _ => exact Nat.le_refl _

/-- Only a worker that is listed as parked withdraws, when it has waited for too long. -/
theorem withdrawn_of_section (made : Section system move result)
    (happened : .withdrawn number ∈ result.2) :
    move = .work number ∧ number ∈ system.roster.parked ∧ ∃ epoch timeout slot,
      system.workers[number]? = some ⟨epoch, .serving (some timeout) slot .expired⟩ := by
  obtain rfl : move = .work number := move_of_event made happened rfl
  cases made with
  | withdrawn _ epoch timeout slot found parked => exact ⟨rfl, parked, epoch, timeout, slot, found⟩
  | departed _ epoch departure => cases departure <;> simp [depart] at happened
  | _ => simp at happened

/-- A worker that waits for what lies in its slot stays as it is until it goes on. -/
theorem awaiting_of_section (made : Section system move result) {handoff : Handoff}
    (found : system.workers[number]? =
      some ⟨epoch, .serving (some timeout) (some handoff) .awaiting⟩)
    (rests : move ≠ .work number) :
    result.1.workers[number]? =
      some ⟨epoch, .serving (some timeout) (some handoff) .awaiting⟩ := by
  have possible := step_of_section made
  cases about : move.worker? with
  | none =>
    have call : move.isWork = false := by cases move <;> first | rfl | cases about
    obtain ⟨after, stands, ⟨same | ⟨_, _, empty, _⟩, _⟩ | advance⟩ :=
      (crew_of_section made).worker found
    · rwa [same] at stands
    · cases empty
    · rw [call] at advance
      cases advance
  | some other =>
    by_cases same : other = number
    · -- Nothing but going on is possible for this worker.
      subst same
      cases move <;>
        simp_all [Move.worker?, step, System.expire, System.finish, System.breakDown]
    · obtain ⟨change, workers⟩ := workers_of_section made about
      rw [workers, List.getElem?_modify_ne _ _ same, found]

section Runs

variable {moves : List Move}

/-- A worker that has withdrawn is counted once, and nothing else happens to it. -/
theorem play_withdrawn (order : InOrder capacity system)
    (found : system.workers[number]? = some ⟨epoch, .withdrawn timeout 2⟩)
    (run : system.play moves = some result) :
    ∃ ahead ≤ 2, result.1.workers[number]? = some ⟨epoch, .withdrawn timeout ahead⟩ ∧
      result.2.count (.idleRetired number timeout) = (if ahead = 0 then 1 else 0) ∧
      (∀ event ∈ result.2, event.actor? = some number → event = .idleRetired number timeout) ∧
      result.1.tally.idleRetired =
        system.tally.idleRetired + result.2.countP Event.isIdleRetired := by
  let invariant (later : System) (events : List Event) : Prop :=
    ∃ ahead ≤ 2, later.workers[number]? = some ⟨epoch, .withdrawn timeout ahead⟩ ∧
      events.count (.idleRetired number timeout) = (if ahead = 0 then 1 else 0) ∧
      (∀ event ∈ events, event.actor? = some number → event = .idleRetired number timeout) ∧
      later.tally.idleRetired = system.tally.idleRetired + events.countP Event.isIdleRetired
  have start : invariant system [] := ⟨2, Nat.le_refl _, found, rfl, by simp, rfl⟩
  refine (play_sections invariant [] moves ?_ order start run).2
  rintro move - earlier events result - ⟨ahead, few, found, once, nothing, tally⟩ made
  have counted : result.1.tally.idleRetired =
      system.tally.idleRetired + (events ++ result.2).countP Event.isIdleRetired := by
    rw [idleRetired_of_section made, tally, List.countP_append, Nat.add_assoc]
  obtain ⟨after, stands, ⟨stays, others⟩ | advance⟩ := (crew_of_section made).worker found
  · obtain rfl : after = .withdrawn timeout ahead := by
      rcases stays with same | ⟨_, _, serves, _⟩
      · exact same
      · have idle := Stage.isServing_withdrawn timeout ahead
        rw [serves] at idle
        cases idle
    have silent : result.2.count (.idleRetired number timeout) = 0 := by
      apply List.count_eq_zero.mpr
      intro happened
      exact others _ happened rfl
    refine ⟨ahead, few, stands, by rw [List.count_append, once, silent, Nat.add_zero], ?_, counted⟩
    intro event happened acts
    rcases List.mem_append.mp happened with before | now
    · exact nothing event before acts
    · exact absurd acts (others event now)
  · obtain ⟨left, rfl, rfl, said⟩ := advance.of_withdrawn few
    refine ⟨left, by omega, stands, ?_, ?_, counted⟩
    · rw [List.count_append, once, said]
      by_cases last : left = 0 <;> simp [last]
    · intro event happened acts
      rcases List.mem_append.mp happened with before | now
      · exact nothing event before acts
      · rw [said] at now
        split at now
        · exact List.mem_singleton.mp now
        · cases now

/-- A worker that has withdrawn gets counted as soon as it goes on, whatever else there is. -/
theorem exists_play_counted {ahead : Nat} (few : ahead ≤ 2)
    (found : system.workers[number]? = some ⟨epoch, .withdrawn timeout ahead⟩) :
    ∃ last, system.play (List.replicate ahead (.work number)) = some (last,
      if ahead = 0 then [] else [.idleRetired number timeout]) := by
  match ahead with
  | 0 => exact ⟨system, rfl⟩
  | 1 => simp [List.replicate, play, step, found, Stage.withdrawn, System.work]
  | 2 =>
    simp [List.replicate, play, step, found, Stage.withdrawn, System.work, depart, announce,
      setStage, Worker.move]
  | _ + 3 => omega

/-- Until another loop is created, the room for one stays. -/
theorem play_room (order : InOrder capacity system)
    (room : system.roster.reserved < capacity) (run : system.play moves = some result)
    (uncreated : ∀ number, .created number ∉ result.2) :
    result.1.roster.reserved < capacity := by
  let invariant (later : System) (events : List Event) : Prop :=
    (∀ number, .created number ∉ events) → later.roster.reserved < capacity
  refine (play_sections invariant [] moves ?_ order (fun _ => room) run).2 uncreated
  rintro move - earlier events result order before made uncreated
  have room : earlier.roster.reserved < capacity := before fun number happened =>
    uncreated number (List.mem_append_left _ happened)
  have kept : result.1.roster.reserved ≤ earlier.roster.reserved :=
    reserved_of_section order made fun number happened =>
      uncreated number (List.mem_append_right _ happened)
  exact Nat.lt_of_le_of_lt kept room

/-- A worker that waits for what lies in its slot stays as it is, however long it takes. -/
theorem play_awaiting (order : InOrder capacity system) {handoff : Handoff}
    (found : system.workers[number]? =
      some ⟨epoch, .serving (some timeout) (some handoff) .awaiting⟩)
    (rests : .work number ∉ moves) (run : system.play moves = some result) :
    result.1.workers[number]? =
      some ⟨epoch, .serving (some timeout) (some handoff) .awaiting⟩ := by
  let invariant (later : System) (_ : List Event) : Prop :=
    later.workers[number]? = some ⟨epoch, .serving (some timeout) (some handoff) .awaiting⟩
  refine (play_sections invariant [] moves ?_ order found run).2
  rintro move member earlier events result order found made
  exact awaiting_of_section made found (ne_of_mem_of_not_mem member rests)

/-- A worker without an idle timeout never withdraws. -/
theorem play_untimed (order : InOrder capacity system) {before : Stage}
    (found : system.workers[number]? = some ⟨epoch, before⟩) (never : before.NeverIdle)
    (run : system.play moves = some result) :
    .withdrawn number ∉ result.2 ∧ ∀ timeout, .idleRetired number timeout ∉ result.2 := by
  let invariant (later : System) (events : List Event) : Prop :=
    (∃ stage, later.workers[number]? = some ⟨epoch, stage⟩ ∧ stage.NeverIdle) ∧
      .withdrawn number ∉ events ∧ ∀ timeout, .idleRetired number timeout ∉ events
  have start : invariant system [] := ⟨⟨before, found, never⟩, by simp⟩
  refine (play_sections invariant [] moves ?_ order start run).2.2
  rintro move - earlier events result - ⟨⟨stage, found, never⟩, unseen, uncounted⟩ made
  obtain ⟨after, stands, ⟨stays, others⟩ | advance⟩ := (crew_of_section made).worker found
  · have still : after.NeverIdle := by
      rcases stays with rfl | ⟨idleTimeout, duty, rfl, rfl⟩ <;> exact never
    refine ⟨⟨after, stands, still⟩, fun happened => ?_, fun timeout happened => ?_⟩
    · exact (List.mem_append.mp happened).elim unseen fun now => others _ now rfl
    · exact (List.mem_append.mp happened).elim (uncounted timeout) fun now => others _ now rfl
  · obtain ⟨still, unsaid, unspoken⟩ := advance.neverIdle never
    refine ⟨⟨after, stands, still⟩, fun happened => ?_, fun timeout happened => ?_⟩
    · exact (List.mem_append.mp happened).elim unseen unsaid
    · exact (List.mem_append.mp happened).elim (uncounted timeout) (unspoken timeout)

end Runs

/-- What it means that a worker withdraws from a dispatcher and leaves this behind. -/
structure Withdrawal (system : System) (number : WorkerId) (timeout : Millis) (next : System) :
    Prop where
  /-- It alone is taken from the list, where the others keep their order, and nothing else
  changes but that one worker less is live. -/
  alone : ∃ latest oldest, system.roster.parked = latest ++ number :: oldest ∧
    number ∉ latest ++ oldest ∧
    next = { system with
      roster := { system.roster with
        parked := latest ++ oldest
        live := system.roster.live - 1 } }.setStage number (.announcing (.idle timeout))
  lowered : next.roster.live + 1 = system.roster.live
  /-- Nothing can be put into its slot any more, and nothing happens to the worker except that
  it is counted. -/
  emptied : ∀ moves last events, next.play moves = some (last, events) →
    last.slot? number = none ∧ number ∉ last.roster.parked ∧
      ∀ event ∈ events, event.actor? = some number → event = .idleRetired number timeout
  /-- It is counted once, at the latest when it has gone on twice. -/
  counted : ∀ moves last events, next.play moves = some (last, events) →
    ∃ ahead ≤ 2, ∃ final told,
      last.play (List.replicate ahead (.work number)) = some (final, told) ∧
        (events ++ told).count (.idleRetired number timeout) = 1 ∧
        final.tally.idleRetired =
          system.tally.idleRetired + (events ++ told).countP Event.isIdleRetired
  /-- The next offer that finds nobody parked creates a loop in its place. -/
  replaced : ∀ moves last events, next.play moves = some (last, events) →
    (∀ other, .created other ∉ events) → last.roster.phase = .running →
      last.roster.parked = [] → ∀ call fallsBack,
        last.calls.get? call = some (.entering (.offer fallsBack)) → ∃ final,
          last.step (.proceed call) = some (final, [.created last.workers.length]) ∧
            final.workers = last.workers ++ [⟨last.roster.epoch, .queued⟩] ∧
            final.roster = { last.roster with starting := last.roster.starting + 1 }

/-- The worker that is listed as parked withdraws when it has waited for too long. -/
theorem withdrawal_of_parked (order : InOrder capacity system)
    (found : system.workers[number]? = some ⟨epoch, .serving (some timeout) none .expired⟩)
    (parked : number ∈ system.roster.parked) :
    ∃ next, system.step (.work number) = some (next, [.withdrawn number]) ∧
      system.Withdrawal number timeout next := by
  have census := order.census
  obtain ⟨next, same⟩ : ∃ next, next = (system.setRoster (system.roster.withdraw number)).setStage
      number (.announcing (.idle timeout)) := ⟨_, rfl⟩
  have made : system.step (.work number) = some (next, [.withdrawn number]) := by
    rw [same]
    exact step_of_section (.withdrawn number epoch timeout none found parked)
  have later : InOrder capacity next := order.of_step made
  have withdrawn : next.workers[number]? = some ⟨epoch, .withdrawn timeout 2⟩ := by
    simp [same, setStage, setRoster, found, Worker.move, Stage.withdrawn]
  have roster : next.roster = system.roster.withdraw number := by simp [same, setStage, setRoster]
  obtain ⟨latest, oldest, _, split, erased⟩ := List.exists_erase_eq parked
  have distinct : (latest ++ number :: oldest).Nodup := split ▸ census.distinct
  have room : next.roster.reserved < capacity := by
    have bounded := census.reserved_le
    have shorter : next.roster.parked = latest ++ oldest := by rw [roster]; exact erased
    simp only [Roster.reserved, Roster.available, shorter, split, List.length_append,
      List.length_cons] at bounded ⊢
    simp only [roster, Roster.withdraw, Roster.leave]
    omega
  refine ⟨next, made, ⟨latest, oldest, split, ?_, ?_⟩, ?_, ?_, ?_, ?_⟩
  · simpa using (List.nodup_cons.mp (List.nodup_middle.mp distinct)).1
  · simp [same, setRoster, Roster.withdraw, Roster.leave, erased]
  · have counted : 0 < system.roster.live := census.live_pos found rfl
    rw [roster]
    exact Nat.sub_add_cancel counted
  · intro moves last events run
    obtain ⟨ahead, few, stands, _, nothing, _⟩ := play_withdrawn later withdrawn run
    have kept := (play_sections (fun _ _ => True) [] moves (by simp) later trivial run).1.census
    refine ⟨?_, ?_, nothing⟩
    · simp only [slot?, stands, Option.bind_some, Worker.slot?_withdrawn]
    · intro listed
      have serves := Stage.serving_of_station ((kept.parked_iff stands).mp listed)
      simp [Stage.isServing_withdrawn] at serves
  · intro moves last events run
    obtain ⟨ahead, few, stands, once, _, tally⟩ := play_withdrawn later withdrawn run
    obtain ⟨final, played⟩ := exists_play_counted few stands
    have whole := play_append run played
    obtain ⟨_, _, _, _, _, total⟩ := play_withdrawn later withdrawn whole
    refine ⟨ahead, few, final, _, played, ?_, ?_⟩
    · rw [List.count_append, once]
      split <;> simp
    · rw [total, same]
      rfl
  · intro moves last events run uncreated running nobody call fallsBack asked
    have order : InOrder capacity last :=
      (play_sections (fun _ _ => True) [] moves (by simp) later trivial run).1
    have space : last.roster.reserved < last.capacity := by
      rw [order.bounded]
      exact play_room later room run uncreated
    exact ⟨_, step_of_section (.created call fallsBack asked running nobody space), rfl, rfl⟩

/-- A worker that has waited for too long and is not listed as parked was given something, and
takes it. -/
theorem kept_of_given (order : InOrder capacity system) {slot : Option Handoff}
    (found : system.workers[number]? = some ⟨epoch, .serving (some timeout) slot .expired⟩)
    (given : number ∉ system.roster.parked) :
    ∃ handoff, slot = some handoff ∧
      ∃ next, system.step (.work number) = some (next, [.idleCancelled number]) ∧
        next = system.setStage number (.serving (some timeout) slot .awaiting) ∧
        ∀ moves last events, .work number ∉ moves → next.play moves = some (last, events) →
          last.step (.work number) = some (last.take number (some timeout) handoff) := by
  obtain ⟨handoff, rfl⟩ : ∃ handoff, slot = some handoff := by
    cases slot with
    | none => exact absurd ((order.census.parked_iff found).mpr rfl) given
    | some handoff => exact ⟨handoff, rfl⟩
  have made := step_of_section (.kept number epoch timeout (some handoff) found given)
  refine ⟨handoff, rfl, _, made, rfl, ?_⟩
  intro moves last events rests run
  have awaits : (system.setStage number
      (.serving (some timeout) (some handoff) .awaiting)).workers[number]? =
        some ⟨epoch, .serving (some timeout) (some handoff) .awaiting⟩ := by
    simp [setStage, found, Worker.move]
  have stands := play_awaiting (order.of_step made) awaits rests run
  simp [step, stands, System.work, serve]

/-- Idle workers retire without losing what they were given. -/
structure RetiresIdle (system : System) : Prop where
  /-- An idle timeout only fires for a worker that waits at an empty slot and is parked. -/
  fires : ∀ number result, system.step (.expire number) = some result →
    number ∈ system.roster.parked ∧ ∃ epoch timeout,
      system.workers[number]? = some ⟨epoch, .serving (some timeout) none .waiting⟩ ∧
        result = (system.setStage number (.serving (some timeout) none .expired), [])
  /-- A worker that is still parked then has an empty slot, and withdraws. -/
  withdraws : ∀ number epoch timeout slot,
    system.workers[number]? = some ⟨epoch, .serving (some timeout) slot .expired⟩ →
      number ∈ system.roster.parked → slot = none ∧
        ∃ next, system.step (.work number) = some (next, [.withdrawn number]) ∧
          system.Withdrawal number timeout next
  /-- A worker that is not has one thing in its slot, and only goes back to wait. It takes what
  it was given as soon as it goes on, whatever happens before. -/
  keeps : ∀ number epoch timeout slot,
    system.workers[number]? = some ⟨epoch, .serving (some timeout) slot .expired⟩ →
      number ∉ system.roster.parked → ∃ handoff, slot = some handoff ∧
        ∃ next, system.step (.work number) = some (next, [.idleCancelled number]) ∧
          next = system.setStage number (.serving (some timeout) slot .awaiting) ∧
          ∀ moves last events, .work number ∉ moves → next.play moves = some (last, events) →
            last.step (.work number) = some (last.take number (some timeout) handoff)
  /-- Nobody else withdraws. -/
  only : ∀ move result number, system.step move = some result → .withdrawn number ∈ result.2 →
    move = .work number ∧ number ∈ system.roster.parked ∧ ∃ epoch timeout slot,
      system.workers[number]? = some ⟨epoch, .serving (some timeout) slot .expired⟩
  /-- A worker with a task in its hands does not. -/
  busy : ∀ number, (system.duty? number).any Duty.isExecuting = true →
    system.step (.expire number) = none ∧
      ∀ move result, system.step move = some result → .withdrawn number ∉ result.2
  /-- A worker without an idle timeout never does. -/
  untimed : ∀ number epoch slot duty,
    system.workers[number]? = some ⟨epoch, .serving none slot duty⟩ →
      ∀ moves last events, system.play moves = some (last, events) →
        .withdrawn number ∉ events ∧ ∀ timeout, .idleRetired number timeout ∉ events

/-- In every run idle workers retire without losing what they were given. -/
theorem play_retiresIdle (capacity : Nat) (idleTimeout : Option Millis) (moves : List Move)
    (system : System) (events : List Event)
    (run : (fresh capacity idleTimeout).play moves = some (system, events)) :
    system.RetiresIdle := by
  have order : InOrder capacity system := inOrder_of_play run
  have section_made {move : Move} {result : System × List Event}
      (made : system.step move = some result) : Section system move result :=
    section_of_step order.parkedReady made
  constructor
  case fires =>
    intro number result made
    cases section_made made with
    | expired _ epoch timeout found =>
      exact ⟨(order.census.parked_iff found).mpr rfl, epoch, timeout, found, rfl⟩
  case withdraws =>
    intro number epoch timeout slot found parked
    have stands := (order.census.parked_iff found).mp parked
    obtain ⟨_, _, same, _⟩ := (Stage.parked_iff _).mp stands
    obtain ⟨-, rfl, -⟩ := Stage.serving.inj same
    exact ⟨rfl, withdrawal_of_parked order found parked⟩
  case keeps =>
    intro number epoch timeout slot found given
    exact kept_of_given order found given
  case only =>
    intro move result number made happened
    exact withdrawn_of_section (section_made made) happened
  case busy =>
    intro number busy
    obtain ⟨duty, does, executes⟩ := Option.any_eq_true _ _ |>.mp busy
    obtain ⟨worker, found, holds⟩ := Option.bind_eq_some_iff.mp does
    refine ⟨Option.eq_none_iff_forall_ne_some.mpr fun result made => ?_, ?_⟩
    · cases section_made made with
      | expired _ epoch timeout stands =>
        obtain rfl := Option.some.inj (found.symm.trans stands)
        obtain rfl := Option.some.inj holds
        cases executes
    · intro move result made happened
      obtain ⟨-, -, epoch, timeout, slot, stands⟩ :=
        withdrawn_of_section (section_made made) happened
      obtain rfl := Option.some.inj (found.symm.trans stands)
      obtain rfl := Option.some.inj holds
      cases executes
  case untimed =>
    intro number epoch slot duty found moves last events played
    exact play_untimed order found rfl played

/-- The idle timeouts of both workers have fired when one of them is given a task. -/
def lateOffer : List Move :=
  [.invoke .start, .proceed 0, .invoke (.offer false), .proceed 1, .invoke (.offer false),
    .proceed 2, .launch 0, .launch 1, .expire 0, .expire 1, .invoke (.offer false), .proceed 3]

/-- One is about to withdraw, and the other has a task in its slot. -/
theorem lateOffer_retiresIdle :
    ∃ system events, (fresh 2 (some 5)).play lateOffer = some (system, events) ∧
      system.roster.parked = [0] ∧
      system.workers[0]? = some ⟨0, .serving (some 5) none .expired⟩ ∧
      system.workers[1]? = some ⟨0, .serving (some 5) (some (.task 3)) .expired⟩ ∧
      system.RetiresIdle :=
  ⟨_, _, rfl, rfl, rfl, rfl, play_retiresIdle 2 (some 5) lateOffer _ _ rfl⟩

/-- Between its withdrawal and its count an observer does not see the worker at all. -/
example :
    ∃ system events, (fresh 1 (some 5)).play
        [.invoke .start, .proceed 0, .invoke (.offer false), .proceed 1, .launch 0, .expire 0,
          .work 0] = some (system, events) ∧
      .withdrawn 0 ∈ events ∧ system.snapshot.available = 0 ∧
      system.snapshot.tally.idleRetired = 0 :=
  ⟨_, _, rfl, by decide, rfl, rfl⟩

end System

end Standby.Dispatcher
