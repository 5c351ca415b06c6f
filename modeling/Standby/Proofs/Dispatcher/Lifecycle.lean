import Standby.Proofs.Dispatcher.Order

/-!
# The life of a dispatcher

A section leaves the phase alone, or it starts a stopped dispatcher, or it begins to stop
an open one, or it finds that the last worker of a stopping one has left. Starting and
stopping are told by an event of their own. Until the next start a dispatcher that does
not run goes on not to run, and a stopped one stays stopped.
-/

namespace Standby.Dispatcher

open Duration (Millis)

namespace Event

/-- The dispatcher was started. -/
def isStart : Event → Bool
  | .started _ _ => true
  | _ => false

/-- The dispatcher began to stop. -/
def isStopping : Event → Bool
  | .stopping _ _ => true
  | _ => false

end Event

/-- What becomes of the phase in a section. -/
inductive PhaseTurn (system next : System) (events : List Event) : Prop where
  | same (phase : next.roster.phase = system.roster.phase)
      (quiet : ∀ event ∈ events, event.isStopping = false)
  | starts (before : system.roster.phase = .stopped) (after : next.roster.phase = .running)
      (told : ∃ event ∈ events, event.isStart = true)
      (quiet : ∀ event ∈ events, event.isStopping = false)
  | stops (before : system.roster.phase = .starting ∨ system.roster.phase = .running)
      (after : next.roster.phase = .stopping ∨ next.roster.phase = .stopped)
  | ends (before : system.roster.phase = .stopping) (after : next.roster.phase = .stopped)
      (quiet : ∀ event ∈ events, event.isStopping = false)

namespace System

variable {capacity : Nat} {system : System}

/-- Looking for the last worker either stops the dispatcher or changes nothing. -/
theorem awaitLastWorker_phase (system : System) (call : Nat) :
    (system.awaitLastWorker call).roster.phase = .stopped ∨
      (system.awaitLastWorker call).roster.phase = system.roster.phase := by
  unfold awaitLastWorker
  split
  · exact .inl rfl
  · exact .inr rfl

/-- A dispatcher that was let go while it was open stops, or has stopped. -/
theorem letGo_phase (active : system.roster.phase = .starting ∨ system.roster.phase = .running) :
    system.letGo.1.roster.phase = .stopping ∨ system.letGo.1.roster.phase = .stopped := by
  rw [letGo_of_active active]
  dsimp only
  split
  · exact .inr rfl
  · exact .inl rfl

/-- Every section does one of these things to the phase. -/
theorem phaseTurn_of_section (order : InOrder capacity system) {move : Move}
    {result : System × List Event} (made : Section system move result) :
    PhaseTurn system result.1 result.2 := by
  cases made with
  | started call found stopped =>
    exact .starts stopped rfl ⟨_, List.mem_cons_self, rfl⟩ (by simp [Event.isStopping])
  | stopBegun call found active =>
    refine .stops active ?_
    rcases awaitLastWorker_phase system.retireAll.1 call with stopped | same
    · exact .inr stopped
    · exact .inl same
  | looked call found =>
    have stopping : system.roster.phase = .stopping := order.stopping call ⟨_, found, rfl⟩
    rcases awaitLastWorker_phase system call with stopped | same
    · exact .ends stopping stopped (by simp)
    · exact .same same (by simp)
  | abandoned unused active => exact .stops active (letGo_phase active)
  | turnedDown call fallsBack | declined call fallsBack =>
    cases fallsBack <;>
      exact .same rfl (by simp [decline, giveBack, reply, Event.isStopping])
  | counted call fallsBack count event stage found answered =>
    refine .same rfl ?_
    rcases answered with ⟨_, _, _, rfl⟩ | ⟨_, _, _, _, rfl⟩ <;> simp [Event.isStopping]
  | departed number epoch departure =>
    cases departure <;> exact .same rfl (by simp [depart, Event.isStopping])
  | invoked | illegal | retimed | claimed | created | restful | joined | announced | taken
  | refused | passedOn | brokenOff | stale | registered | turnedAway | discarded | forgotten
  | began | told | expired | withdrawn | kept | ended | failed | reported | spilled | broke
  | parkedAgain | leftAfterTask | leftRetired | idled | letGo =>
    exact .same rfl (by simp [reply, handOver, Event.isStopping])

/-- A section in which stopping begins leaves a dispatcher that does not run. -/
theorem not_running_of_stopping (order : InOrder capacity system) {move : Move}
    {result : System × List Event} (made : Section system move result) {event : Event}
    (happened : event ∈ result.2) (begins : event.isStopping = true) :
    result.1.roster.phase ≠ .running := by
  cases phaseTurn_of_section order made with
  | same _ quiet | starts _ _ _ quiet | ends _ _ quiet =>
    have other := quiet event happened
    simp [begins] at other
  | stops _ after => rcases after with phase | phase <;> simp [phase]

/-- Unless it is started, a dispatcher that does not run goes on like that. -/
theorem not_running_of_section (order : InOrder capacity system)
    (idle : system.roster.phase ≠ .running) {move : Move} {result : System × List Event}
    (made : Section system move result) (unstarted : ∀ event ∈ result.2, event.isStart = false) :
    result.1.roster.phase ≠ .running := by
  cases phaseTurn_of_section order made with
  | same phase => rwa [phase]
  | starts _ _ told =>
    obtain ⟨event, happened, starts⟩ := told
    simp [unstarted event happened] at starts
  | stops _ after => rcases after with phase | phase <;> simp [phase]
  | ends _ after => simp [after]

/-- Unless it is started, a stopped dispatcher stays stopped. -/
theorem stopped_of_section (order : InOrder capacity system)
    (stopped : system.roster.phase = .stopped) {move : Move} {result : System × List Event}
    (made : Section system move result) (unstarted : ∀ event ∈ result.2, event.isStart = false) :
    result.1.roster.phase = .stopped := by
  cases phaseTurn_of_section order made with
  | same phase => rwa [phase]
  | starts _ _ told =>
    obtain ⟨event, happened, starts⟩ := told
    simp [unstarted event happened] at starts
  | stops before => rcases before with phase | phase <;> simp [stopped] at phase
  | ends before => simp [stopped] at before

end System

end Standby.Dispatcher
