import Standby.Proofs.Dispatcher.Order

/-!
# Where events come from

Most events tell of the move in which they happen: a worker registers when it is launched, and a
call returns in a section of its own. What a call is answered tells further at which stage
it was, and few stages are answered at all.
-/

namespace Standby.Dispatcher

open Executor (Refusal)

/-- The move in which a call is answered like this. -/
def Answer.move (call : Nat) : Answer → Move
  | .fallback => .answer call none
  | .refused refusal => .answer call (some refusal)
  | .done | .illegal _ | .accepted | .declined _ => .proceed call

/-- The move that an event tells of. An event of the whole dispatcher, or one that happens in
several moves, tells of none. -/
def Event.move? : Event → Option Move
  | .invoked _ request => some (.invoke request)
  | .returned call answer => some (answer.move call)
  | .brokenOff call _ => some (.breakOff call)
  | .claimed _ task | .fellBack task => some (.proceed task)
  | .registered worker | .stale worker => some (.launch worker)
  | .discarded worker => some (.discard worker)
  | .began worker _ | .finished worker _ | .parkedAgain worker | .retiredAfterTask worker
  | .retired worker | .withdrawn worker | .idleRetired worker _ | .idleCancelled worker =>
    some (.work worker)
  | .ended worker _ outcome => some (.finish worker outcome)
  | .started _ _ | .stopping _ _ | .stopped | .created _ | .submitted _ | .spawnFailed _ _
  | .slotOccupied _ | .vanished _ | .faulted _ _ => none

namespace System

variable {system : System} {move : Move} {result : System × List Event}

/-- An event happens in the move that it tells of. -/
theorem move_of_event (made : Section system move result) {event : Event}
    (happened : event ∈ result.2) {other : Move} (tells : event.move? = some other) :
    move = other := by
  have told : ∀ event ∈ result.2, ∀ other, event.move? = some other → move = other := by
    clear happened tells
    cases made with
    | turnedDown call fallsBack | declined call fallsBack =>
      cases fallsBack <;> simp [decline, giveBack, reply, Event.move?, Answer.move]
    | counted call fallsBack count event stage found answered =>
      rcases answered with ⟨_, _, _, rfl⟩ | ⟨_, _, _, _, rfl⟩ <;> simp [Event.move?]
    | passedOn call refusal => cases refusal <;> simp [reply, Event.move?, Answer.move]
    | departed number epoch departure => cases departure <;> simp [depart, Event.move?]
    | abandoned unused active => simp [letGo_of_active active, retireAll, Event.move?]
    | _ => simp [reply, handOver, retireAll, Event.move?, Answer.move]
  exact told event happened other tells

end System

/-- What a call at this stage can be answered in its next section. -/
inductive Answered (system : System) (call : Nat) : Call → Answer → Prop where
  | illegal (request : Request) (operation : String)
      (needs : request = .start ∨ ∃ timeout, request = .setIdleTimeout timeout)
      (busy : system.roster.phase ≠ .stopped) :
    Answered system call (.entering request) (.illegal ⟨operation, system.roster.phase⟩)
  | changed (request : Request)
      (needs : request = .start ∨ ∃ timeout, request = .setIdleTimeout timeout)
      (stopped : system.roster.phase = .stopped) :
    Answered system call (.entering request) .done
  | restful (stage : Call) (asks : stage = .entering .stop ∨ stage = .woken .stopped)
      (stopped : system.roster.phase = .stopped) : Answered system call stage .done
  | announced : Answered system call .announcing .done
  | accepted (fallsBack : Bool) : Answered system call (.entering (.offer fallsBack)) .accepted
  | givenBack (stage : Call)
      (asks : stage = .entering (.offer false) ∨ stage = .countingDeclined false) :
    Answered system call stage (.declined call)
  | passedOn : Answered system call .fallingBack .fallback
  | refused (refusal : Refusal) : Answered system call .fallingBack (.refused refusal)

namespace System

variable {system : System} {move : Move} {result : System × List Event} {call : Nat}

/-- A call is answered at one of the stages that can be answered like this. -/
theorem answered_of_returned (made : Section system move result) {answer : Answer}
    (told : .returned call answer ∈ result.2) :
    ∃ stage, system.calls.get? call = some stage ∧ Answered system call stage answer := by
  cases made with
  | illegal other request operation found needs busy =>
    obtain ⟨rfl, rfl⟩ := by simpa [reply] using told
    exact ⟨_, found, .illegal request operation needs busy⟩
  | started other found stopped =>
    obtain ⟨rfl, rfl⟩ := by simpa [reply] using told
    exact ⟨_, found, .changed _ (.inl rfl) stopped⟩
  | retimed other timeout found stopped =>
    obtain ⟨rfl, rfl⟩ := by simpa [reply] using told
    exact ⟨_, found, .changed _ (.inr ⟨timeout, rfl⟩) stopped⟩
  | restful other found stopped =>
    obtain ⟨rfl, rfl⟩ := by simpa [reply] using told
    rcases found with found | found
    · exact ⟨_, found, .restful _ (.inl rfl) stopped⟩
    · exact ⟨_, found, .restful _ (.inr rfl) stopped⟩
  | announced other found =>
    obtain ⟨rfl, rfl⟩ := by simpa [reply] using told
    exact ⟨_, found, .announced⟩
  | claimed other fallsBack worker remaining found =>
    obtain ⟨rfl, rfl⟩ := by simpa [handOver, reply] using told
    exact ⟨_, found, .accepted fallsBack⟩
  | turnedDown other fallsBack found =>
    cases fallsBack with
    | true => simp [decline, giveBack] at told
    | false =>
      obtain ⟨rfl, rfl⟩ := by simpa [decline, giveBack, reply] using told
      exact ⟨_, found, .givenBack _ (.inl rfl)⟩
  | declined other fallsBack found =>
    cases fallsBack with
    | true => simp [decline, giveBack] at told
    | false =>
      obtain ⟨rfl, rfl⟩ := by simpa [decline, giveBack, reply] using told
      exact ⟨_, found, .givenBack _ (.inr rfl)⟩
  | passedOn other refusal found =>
    obtain ⟨rfl, rfl⟩ := by simpa [reply] using told
    cases refusal with
    | none => exact ⟨_, found, .passedOn⟩
    | some refusal => exact ⟨_, found, .refused refusal⟩
  | counted other fallsBack count event stage found answered =>
    rcases answered with ⟨_, _, _, rfl⟩ | ⟨_, _, _, _, rfl⟩ <;> simp at told
  | stopBegun => simp [retireAll] at told
  | departed number epoch departure => cases departure <;> simp [depart] at told
  | abandoned unused active => simp [letGo_of_active active, retireAll] at told
  | _ => simp at told

end System

end Standby.Dispatcher
