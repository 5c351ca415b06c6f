import Standby.Proofs.Dispatcher.Crew
import Standby.Proofs.Dispatcher.Passage

/-!
# Waking

A sleeping call is woken by the next announcement and by nothing else. What it sleeps for
comes about in few sections: the last worker leaves, in one way or another, or a call finds
that it has left and stops the dispatcher. Whoever makes such a section goes on to announce,
whatever others do in between.

So when what a sleeping call waits for has come, somebody still has to announce. Nobody can
have done so too early, because a call falls asleep only while what it waits for is still to
come, in the same section in which it looks.
-/

namespace Standby.Dispatcher

/-- What a call waits for has come. -/
def Awaited.HasCome (roster : Roster) : Awaited → Prop
  | .lastWorker => roster.live = 0
  | .stopped => roster.phase = .stopped

/-- The last worker announces that it has left, and a call that it has stopped the
dispatcher. -/
def Announcer.Heralds : Announcer → Awaited → Prop
  | .worker _, .lastWorker | .call _, .stopped => True
  | _, _ => False

namespace System

variable {capacity : Nat} {system : System} {move : Move} {result : System × List Event}
variable {call : Nat} {awaited : Awaited} {who : Announcer}

/-- Whoever has to announce can do so at once, and wakes every sleeping call. -/
theorem wakes_of_announces (announces : system.Announces who) :
    ∃ result, system.step who.move = some result ∧
      ∀ call awaited, system.calls.get? call = some (.sleeping awaited) →
        result.1.calls.get? call = some (.woken awaited) := by
  cases who with
  | worker number =>
    obtain ⟨epoch, departure, found⟩ := announces
    refine ⟨system.depart number departure, by simp [Announcer.move, step, found, work], ?_⟩
    intro call awaited asleep
    cases departure <;> simp [depart, setStage, announce, asleep, Call.wake]
  | call number =>
    have found : system.calls.get? number = some .announcing := announces
    refine ⟨_, step_of_section (.announced number found), fun call awaited asleep => ?_⟩
    have different : call ≠ number := by
      rintro rfl
      cases found.symm.trans asleep
    simp [reply, announce, Register.get?_remove, different, asleep, Call.wake]

/-- A move about a worker that has to announce is its announcement. -/
theorem move_of_announcing (made : Section system move result) {number : WorkerId}
    (about : move.worker? = some number) (announces : system.Announces (.worker number)) :
    move = .work number := by
  obtain ⟨epoch, departure, found⟩ := announces
  have stepped := step_of_section made
  cases move with
  | work other => exact congrArg Move.work (Option.some.inj about)
  | launch | discard | expire | finish | breakDown =>
    obtain rfl := Option.some.inj about
    simp [step, found, expire, finish, breakDown] at stepped
  | _ => cases about

/-- Whoever has to announce has to until it does. -/
theorem announces_of_section (made : Section system move result)
    (announces : system.Announces who) (silent : move ≠ who.move) :
    result.1.Announces who := by
  cases who with
  | worker number =>
    have other : move.worker? ≠ some number := fun about =>
      silent (move_of_announcing made about announces)
    obtain ⟨epoch, departure, found⟩ := announces
    refine ⟨epoch, departure, ?_⟩
    cases about : move.worker? with
    | some acting =>
      have different : acting ≠ number := fun same => other (about.trans (congrArg some same))
      obtain ⟨change, workers⟩ := workers_of_section made about
      rw [workers, List.getElem?_modify_ne _ _ different, found]
    | none =>
      -- Without a worker of its own the section may still claim one, but not one that has left.
      have idle : move.isWork = false := by
        cases move with
        | work | expire | finish | breakDown => cases about
        | _ => rfl
      obtain ⟨after, stands, change⟩ := (crew_of_section made).worker found
      rcases change with ⟨rfl | ⟨_, _, serving, _⟩, _⟩ | advance
      · exact stands
      · cases serving
      · rw [idle] at advance
        cases advance
  | call number =>
    have found : system.calls.get? number = some .announcing := announces
    have foreign : move.isFor number = false := by
      refine Bool.eq_false_iff.mpr fun own => ?_
      rcases own_of_step (step_of_section made) own found with
        ⟨same, _⟩ | ⟨_, _, answered⟩ | ⟨_, brokenOff⟩
      · exact silent same
      · cases answered
      · cases brokenOff
    rcases bystands_of_foreign made foreign found with same | ⟨_, same⟩
    · exact same
    · exact same

/-- A sleeping call sleeps on, or the section is an announcement and wakes it. -/
theorem sleeps_of_section (made : Section system move result)
    (asleep : system.calls.get? call = some (.sleeping awaited)) :
    (∃ who, system.Announces who ∧ move = who.move) ∧
        result.1.calls.get? call = some (.woken awaited) ∨
      (∀ who, system.Announces who → move ≠ who.move) ∧
        result.1.calls.get? call = some (.sleeping awaited) := by
  by_cases announced : ∃ who, system.Announces who ∧ move = who.move
  · left
    refine ⟨announced, ?_⟩
    obtain ⟨who, announces, rfl⟩ := announced
    obtain ⟨woken, stepped, wakes⟩ := wakes_of_announces announces
    obtain rfl := Option.some.inj ((step_of_section made).symm.trans stepped)
    exact wakes call awaited asleep
  · right
    refine ⟨fun who announces same => announced ⟨who, announces, same⟩, ?_⟩
    have foreign : move.isFor call = false := by
      refine Bool.eq_false_iff.mpr fun own => ?_
      rcases own_of_step (step_of_section made) own asleep with
        ⟨_, acted⟩ | ⟨_, _, acted⟩ | ⟨_, acted⟩ <;> cases acted
    rcases bystands_of_foreign made foreign asleep with same | ⟨announces, _⟩
    · exact same
    · exact absurd announces announced

/-- Looking for the last worker puts the call to sleep while somebody is live. -/
theorem lastWorker_of_asleep {looking : System}
    (asleep : (looking.awaitLastWorker call).calls.get? call = some (.sleeping awaited)) :
    ¬ awaited.HasCome (looking.awaitLastWorker call).roster := by
  unfold awaitLastWorker at asleep ⊢
  by_cases nobody : looking.roster.live = 0
  · rw [if_pos nobody] at asleep
    simp [setCall, Register.get?_put] at asleep
  · rw [if_neg nobody] at asleep ⊢
    obtain ⟨_, _, rfl⟩ : ∃ before, looking.calls.get? call = some before ∧
        Awaited.lastWorker = awaited := by
      simpa [setCall, Register.get?_put] using asleep
    exact nobody

/-- A call falls asleep only while what it waits for is still to come. -/
theorem asleep_of_section (made : Section system move result)
    (asleep : result.1.calls.get? call = some (.sleeping awaited)) :
    system.calls.get? call = some (.sleeping awaited) ∨ ¬ awaited.HasCome result.1.roster := by
  by_cases own : move.isFor call = true
  · right
    cases made with
    | joined other found =>
      obtain rfl := of_decide_eq_true own
      obtain ⟨_, _, rfl⟩ : ∃ before, system.calls.get? other = some before ∧
          Awaited.stopped = awaited := by
        simpa [setCall, Register.get?_put] using asleep
      rcases found with ⟨_, stopping⟩ | ⟨_, unstopped⟩
      · simp [Awaited.HasCome, setCall, stopping]
      · exact unstopped
    | stopBegun other | looked other =>
      obtain rfl := of_decide_eq_true own
      exact lastWorker_of_asleep asleep
    | turnedDown other fallsBack | declined other fallsBack =>
      obtain rfl := of_decide_eq_true own
      cases fallsBack <;>
        simp [decline, giveBack, reply, setCall, Register.get?_put, Register.get?_remove]
          at asleep
    | illegal | started | retimed | claimed | restful | announced | passedOn | brokenOff =>
      obtain rfl := of_decide_eq_true own
      simp [reply, handOver, Register.get?_remove] at asleep
    | created | counted | taken | refused =>
      obtain rfl := of_decide_eq_true own
      simp [setCall, Register.get?_put] at asleep
    | _ => cases own
  · left
    rcases get?_of_foreign made (Bool.eq_false_iff.mpr own) with
      same | ⟨_, woken⟩ | ⟨_, _, _, begun⟩
    · exact same.symm.trans asleep
    · rw [woken] at asleep
      obtain ⟨before, _, same⟩ := Option.map_eq_some_iff.mp asleep
      cases before <;> cases same
    · cases begun.symm.trans asleep

/-- When a worker leaves, in one way or another, it has to announce that. In no other section
the workers get fewer. -/
theorem announces_of_lowered (made : Section system move result)
    (lowered : result.1.roster.live < system.roster.live) :
    ∃ number, move = .work number ∧ result.1.Announces (.worker number) := by
  have looked (looking : System) (call : Nat) :
      (looking.awaitLastWorker call).roster.live = looking.roster.live := by
    unfold awaitLastWorker
    split <;> rfl
  cases made with
  | withdrawn number epoch timeout slot found
  | leftAfterTask number epoch idleTimeout slot task found
  | leftRetired number epoch idleTimeout slot found =>
    refine ⟨number, rfl, epoch, ?_⟩
    simp [setStage, setRoster, found, Worker.move]
  | turnedDown call fallsBack | declined call fallsBack =>
    cases fallsBack <;> exact absurd lowered (Nat.lt_irrefl _)
  | departed number epoch departure =>
    cases departure <;> exact absurd lowered (Nat.lt_irrefl _)
  | registered number => exact absurd lowered (Nat.not_lt.mpr (Nat.le_succ _))
  | stopBegun other => exact absurd lowered (by simp [looked, retireAll, Roster.retireAll])
  | looked other => exact absurd lowered (by simp [looked])
  | abandoned unused active =>
    rw [letGo_of_active active] at lowered
    dsimp only at lowered
    split at lowered <;> exact absurd lowered (Nat.lt_irrefl _)
  | _ => exact absurd lowered (Nat.lt_irrefl _)

/-- Looking for the last worker stops the dispatcher only as the call goes on to announce it. -/
theorem announces_of_looked {looking : System} {stage : Call}
    (found : looking.calls.get? call = some stage) (open_ : looking.roster.phase ≠ .stopped)
    (stopped : (looking.awaitLastWorker call).roster.phase = .stopped) :
    (looking.awaitLastWorker call).Announces (.call call) := by
  unfold awaitLastWorker at stopped ⊢
  split
  · simp [Announces, setCall, setPhase, Register.get?_put, found]
  · rename_i somebody
    rw [if_neg somebody] at stopped
    exact absurd stopped open_

/-- A call that stops the dispatcher has to announce that. Only the last holder may do so too,
when there are no calls. -/
theorem announces_of_stopped (made : Section system move result)
    (open_ : system.roster.phase ≠ .stopped) (stopped : result.1.roster.phase = .stopped) :
    (∀ call, system.calls.get? call = none) ∨
      ∃ call, move = .proceed call ∧ result.1.Announces (.call call) := by
  cases made with
  | stopBegun call found => exact .inr ⟨call, rfl, announces_of_looked found nofun stopped⟩
  | looked call found => exact .inr ⟨call, rfl, announces_of_looked found open_ stopped⟩
  | abandoned unused => exact .inl (Register.isEmpty_iff.mp unused)
  | started => cases stopped
  | turnedDown call fallsBack | declined call fallsBack =>
    cases fallsBack <;> exact absurd stopped open_
  | departed number epoch departure => cases departure <;> exact absurd stopped open_
  | _ => exact absurd stopped open_

/-- When what a sleeping call waits for has come, somebody still has to announce it. -/
def Heralded (system : System) : Prop :=
  ∀ call awaited, system.calls.get? call = some (.sleeping awaited) →
    awaited.HasCome system.roster → ∃ who : Announcer, who.Heralds awaited ∧ system.Announces who

/-- Every section keeps it so. Either the awaited has just come, and who made it come has to
announce it; or it had come before, and who had to announce it still has to, since the call
sleeps on. -/
theorem Heralded.of_section (heralded : system.Heralded) (made : Section system move result) :
    result.1.Heralded := by
  intro call awaited asleep come
  have slept : system.calls.get? call = some (.sleeping awaited) :=
    (asleep_of_section made asleep).resolve_right (not_not_intro come)
  by_cases before : awaited.HasCome system.roster
  · obtain ⟨who, heralds, announces⟩ := heralded call awaited slept before
    refine ⟨who, heralds, announces_of_section made announces fun same => ?_⟩
    rcases sleeps_of_section made slept with ⟨_, woken⟩ | ⟨silent, _⟩
    · cases asleep.symm.trans woken
    · exact silent who announces same
  · cases awaited with
    | lastWorker =>
      have left : result.1.roster.live = 0 := come
      have lowered : result.1.roster.live < system.roster.live :=
        left ▸ Nat.pos_of_ne_zero before
      obtain ⟨number, _, announces⟩ := announces_of_lowered made lowered
      exact ⟨.worker number, trivial, announces⟩
    | stopped =>
      rcases announces_of_stopped made before come with nobody | ⟨other, _, announces⟩
      · cases (nobody call).symm.trans slept
      · exact ⟨.call other, trivial, announces⟩

/-- It is so after every run. -/
theorem heralded_of_play {idleTimeout : Option Duration.Millis} {moves : List Move}
    (run : (fresh capacity idleTimeout).play moves = some result) : result.1.Heralded :=
  (play_sections (fun system _ => system.Heralded) [] moves
    (fun _ _ _ _ _ _ heralded made => heralded.of_section made) (.fresh capacity idleTimeout)
    (fun call _ asleep => by simp [fresh] at asleep) run).2

/-- Whatever follows, a call sleeps on and somebody has to announce, until the call wakes. -/
theorem woken_or_announces (order : InOrder capacity system)
    (asleep : system.calls.get? call = some (.sleeping awaited))
    (announces : system.Announces who) {later : List Move} {last : System × List Event}
    (run : system.play later = some last) :
    last.1.calls.get? call = some (.sleeping awaited) ∧ last.1.Announces who ∨
      ∃ earlier middle, earlier <+: later ∧ system.play earlier = some middle ∧
        middle.1.calls.get? call = some (.woken awaited) := by
  induction later generalizing system last with
  | nil =>
    obtain rfl := Option.some.inj run
    exact .inl ⟨asleep, announces⟩
  | cons move moves inductionHypothesis =>
    obtain ⟨first, rest, stepped, played, rfl⟩ := play_cons_eq_some.mp run
    have made : Section system move first := section_of_step order.parkedReady stepped
    rcases sleeps_of_section made asleep with ⟨_, woken⟩ | ⟨silent, sleeps⟩
    · exact .inr ⟨[move], (first.1, first.2 ++ []), by simp,
        play_cons_eq_some.mpr ⟨first, _, stepped, rfl, rfl⟩, woken⟩
    · have still := announces_of_section made announces (silent who announces)
      rcases inductionHypothesis (order.of_section made) sleeps still played with
        kept | ⟨earlier, middle, within, reached, woken⟩
      · exact .inl kept
      · exact .inr ⟨move :: earlier, (middle.1, first.2 ++ middle.2),
          List.cons_prefix_cons.mpr ⟨rfl, within⟩,
          play_cons_eq_some.mpr ⟨first, middle, stepped, reached, rfl⟩, woken⟩

/-- A woken call looks again, and sleeps on exactly when what it waits for is still to come. -/
theorem looks_of_woken (woken : system.calls.get? call = some (.woken awaited)) :
    ∃ result, system.step (.proceed call) = some result ∧
      (result.1.calls.get? call = some (.sleeping awaited) ↔
        ¬ awaited.HasCome system.roster) := by
  cases awaited with
  | lastWorker =>
    refine ⟨_, step_of_section (.looked call woken), ?_⟩
    unfold awaitLastWorker
    split <;> simp_all [Awaited.HasCome, setCall, setPhase, Register.get?_put]
  | stopped =>
    by_cases stopped : system.roster.phase = .stopped
    · refine ⟨_, step_of_section (.restful call (.inr woken) stopped), ?_⟩
      simp [Awaited.HasCome, stopped, reply, Register.get?_remove]
    · refine ⟨_, step_of_section (.joined call (.inr ⟨woken, stopped⟩)), ?_⟩
      simp [Awaited.HasCome, stopped, setCall, Register.get?_put, woken]

/-- No call sleeps through what it waits for. -/
structure NobodyOversleeps (system : System) : Prop where
  /-- A call falls asleep only while what it waits for is still to come. -/
  fallsAsleep : ∀ move result call awaited, system.step move = some result →
    result.1.calls.get? call = some (.sleeping awaited) →
      system.calls.get? call = some (.sleeping awaited) ∨ ¬ awaited.HasCome result.1.roster
  /-- A sleeping call is woken by the next announcement and by nothing else. -/
  sleeps : ∀ move result call awaited, system.step move = some result →
    system.calls.get? call = some (.sleeping awaited) →
      (∃ who, system.Announces who ∧ move = who.move) ∧
          result.1.calls.get? call = some (.woken awaited) ∨
        (∀ who, system.Announces who → move ≠ who.move) ∧
          result.1.calls.get? call = some (.sleeping awaited)
  /-- However a worker leaves, it has to announce that. -/
  leaves : ∀ move result, system.step move = some result →
    result.1.roster.live < system.roster.live →
      ∃ number, move = .work number ∧ result.1.Announces (.worker number)
  /-- Whoever stops the dispatcher has to announce that, unless there are no calls. -/
  stops : ∀ move result, system.step move = some result → system.roster.phase ≠ .stopped →
    result.1.roster.phase = .stopped →
      (∀ call, system.calls.get? call = none) ∨
        ∃ call, move = .proceed call ∧ result.1.Announces (.call call)
  /-- When what a sleeping call waits for has come, somebody who made it come still has to
  announce it, and has to in every continuation until the call wakes. -/
  heralded : ∀ call awaited, system.calls.get? call = some (.sleeping awaited) →
    awaited.HasCome system.roster → ∃ who : Announcer, who.Heralds awaited ∧
      system.Announces who ∧ ∀ later last, system.play later = some last →
        last.1.calls.get? call = some (.sleeping awaited) ∧ last.1.Announces who ∨
          ∃ earlier middle, earlier <+: later ∧ system.play earlier = some middle ∧
            middle.1.calls.get? call = some (.woken awaited)
  /-- Whoever has to announce can do so at once, and wakes every sleeping call. -/
  wakes : ∀ who, system.Announces who → ∃ result, system.step who.move = some result ∧
    ∀ call awaited, system.calls.get? call = some (.sleeping awaited) →
      result.1.calls.get? call = some (.woken awaited)
  /-- A woken call looks again, and sleeps on exactly when what it waits for is still to
  come. -/
  looks : ∀ call awaited, system.calls.get? call = some (.woken awaited) →
    ∃ result, system.step (.proceed call) = some result ∧
      (result.1.calls.get? call = some (.sleeping awaited) ↔ ¬ awaited.HasCome system.roster)

/-- In no run a call sleeps through what it waits for. -/
theorem play_nobodyOversleeps (capacity : Nat) (idleTimeout : Option Duration.Millis)
    (moves : List Move) (system : System) (events : List Event)
    (run : (fresh capacity idleTimeout).play moves = some (system, events)) :
    system.NobodyOversleeps := by
  have order : InOrder capacity system := inOrder_of_play run
  have sections {move : Move} {result : System × List Event}
      (stepped : system.step move = some result) : Section system move result :=
    section_of_step order.parkedReady stepped
  exact
    { fallsAsleep := fun _ _ _ _ stepped => asleep_of_section (sections stepped)
      sleeps := fun _ _ _ _ stepped => sleeps_of_section (sections stepped)
      leaves := fun _ _ stepped => announces_of_lowered (sections stepped)
      stops := fun _ _ stepped => announces_of_stopped (sections stepped)
      heralded := by
        intro call awaited asleep come
        obtain ⟨who, heralds, announces⟩ := heralded_of_play run call awaited asleep come
        exact ⟨who, heralds, announces, fun _ _ => woken_or_announces order asleep announces⟩
      wakes := fun _ => wakes_of_announces
      looks := fun _ _ => looks_of_woken }

/-- One call stops a dispatcher whose only worker is busy, another joins it, and both fall
asleep. Then the worker ends its task and leaves. -/
def lastLeave : List Move :=
  [.invoke .start, .proceed 0, .invoke (.offer false), .proceed 1, .answer 1 none, .proceed 1,
    .proceed 1, .launch 0, .invoke (.offer false), .proceed 2, .work 0, .invoke .stop, .proceed 3,
    .invoke .stop, .proceed 4, .finish 0 .returned, .work 0]

/-- Before the worker announces that it has left, the call that stops the dispatcher sleeps
although nobody is live. Later the other one sleeps although the dispatcher is stopped, until
that is announced. Neither is forgotten. -/
theorem lastLeave_nobodyOversleeps :
    (∃ system events, (fresh 1 (some 5)).play lastLeave = some (system, events) ∧
      system.calls.get? 3 = some (.sleeping .lastWorker) ∧ system.roster.live = 0 ∧
      system.NobodyOversleeps) ∧
    ∃ system events,
      (fresh 1 (some 5)).play (lastLeave ++ [.work 0, .proceed 4, .proceed 3]) =
        some (system, events) ∧
      system.calls.get? 4 = some (.sleeping .stopped) ∧ system.roster.phase = .stopped ∧
      system.NobodyOversleeps :=
  ⟨⟨_, _, rfl, rfl, rfl, play_nobodyOversleeps 1 (some 5) lastLeave _ _ rfl⟩,
    _, _, rfl, rfl, rfl,
    play_nobodyOversleeps 1 (some 5) (lastLeave ++ [.work 0, .proceed 4, .proceed 3]) _ _ rfl⟩

end System

end Standby.Dispatcher
