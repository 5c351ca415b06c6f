import Standby.Proofs.Dispatcher.Announcement
import Standby.Proofs.LoadRun.Rounds

/-!
# How a load run ends

Nobody but the main thread starts or stops the dispatcher, and it does each once, so the
dispatcher is stopped when the main thread has heard so and stays stopped. A turn is only
taken as long as its task runs, or as the main thread begins a chain. So no turn is left when
all threads of the pool have stopped, and no signal is sent after that.
-/

namespace Standby.LoadRun

open Dispatcher (WorkerId Task)

/-- The main thread has stopped the dispatcher. -/
def Main.isAfterStop : Main → Bool
  | .closing | .callingClose _ | .joining | .finished => true
  | _ => false

namespace System

variable {system next : System} {capacity : Nat} {moves : List (Pool.Move Hosted.Job)}
  {told : List Pool.Event} {move : Move} {result : System × List Event}

namespace Linked

/-- Nobody starts the dispatcher but the main thread. -/
theorem nobody_starts (linked : system.Linked)
    (idle : ∀ call, system.main.call? ≠ some (call, .start)) (call : Nat) :
    system.host.dispatcher.calls.get? call ≠ some (.entering .start) := by
  intro found
  rcases linked.callers call _ found with ⟨request, waits⟩ | ⟨runner, calls⟩
  · obtain ⟨_, stands, serves⟩ := linked.main call request waits
    obtain rfl := Option.some.inj (stands.symm.trans found)
    obtain rfl : Dispatcher.Request.start = request := serves
    exact idle call waits
  · obtain ⟨_, stands, serves⟩ := linked.turns runner call calls
    obtain rfl := Option.some.inj (stands.symm.trans found)
    cases serves

/-- Nobody announces the end of a stop but for the main thread. -/
theorem stops_of_announcing (linked : system.Linked) {call : Nat}
    (found : system.host.dispatcher.calls.get? call = some .announcing) :
    system.main.call? = some (call, .stop) := by
  rcases linked.callers call _ found with ⟨request, waits⟩ | ⟨runner, calls⟩
  · obtain ⟨_, stands, serves⟩ := linked.main call request waits
    obtain rfl := Option.some.inj (stands.symm.trans found)
    cases request <;> first | exact waits | cases serves
  · obtain ⟨_, stands, serves⟩ := linked.turns runner call calls
    obtain rfl := Option.some.inj (stands.symm.trans found)
    cases serves

/-- A stopped dispatcher stays stopped unless the main thread starts it. -/
theorem stopped_stays (linked : system.Linked)
    (order : Hosted.System.InOrder capacity moves system.host told)
    (made : Section system move result) (idle : ∀ call, system.main.call? ≠ some (call, .start))
    (stopped : system.host.dispatcher.roster.phase = .stopped) :
    result.1.host.dispatcher.roster.phase = .stopped := by
  rcases dispatcher_of_section made with ⟨same, -⟩ | ⟨own, -, stepped⟩
  · rw [same]
    exact stopped
  · exact Dispatcher.System.stopped_of_nobody order.dispatcher stopped
      (Dispatcher.System.section_of_step order.dispatcher.parkedReady stepped)
      (linked.nobody_starts idle)

end Linked

/-- The dispatcher is stopped whenever somebody says so or relies on it. -/
structure WoundUp (system : System) : Prop where
  announcing : ∀ call, system.host.dispatcher.calls.get? call = some .announcing →
    system.host.dispatcher.roster.phase = .stopped
  after : system.main.isAfterStop = true → system.host.dispatcher.roster.phase = .stopped

/-- The main thread comes behind the stop only by hearing the answer to its call. -/
theorem after_of_section (linked : system.Linked)
    (order : Hosted.System.InOrder capacity moves system.host told)
    (made : Section system move result) (after : result.1.main.isAfterStop = true) :
    system.main.isAfterStop = true ∨ ∃ call stage,
      system.main.call? = some (call, .stop) ∧
        system.host.dispatcher.calls.get? call = some stage ∧
          result.1.host.dispatcher.calls.get? call = none := by
  have hears {host : Hosted.System} {answers : List (Nat × Dispatcher.Answer)} {noted : System}
      (heard : Heard system host answers noted) (after : noted.main.isAfterStop = true) :
      system.main.isAfterStop = true ∨ ∃ call stage,
        system.main.call? = some (call, .stop) ∧
          system.host.dispatcher.calls.get? call = some stage ∧
            host.dispatcher.calls.get? call = none := by
    cases heard with
    | nothing main calls turned =>
      rcases turned with rfl | ⟨⟨call, closes⟩, -⟩
      · exact .inl after
      · exact .inl (by rw [closes]; rfl)
    | turn => exact .inl after
    | main call stage request answer main waits turned found gone =>
      rcases turned with ⟨-, rfl⟩ | ⟨rfl, -⟩
      · cases after
      · exact .inr ⟨call, stage, waits, found, gone⟩
  cases made with
  | began | exhausted | claimed | offered | signalled | watched => exact .inl after
  | counted runner answer => cases answer <;> exact .inl after
  | chained | starting | seeded | sawAll | stopping | gaveUp => cases after
  | closing main | joined main => exact .inl (by rw [main]; rfl)
  | hosted own host events plain stepped =>
    rw [noting_host]
    exact hears (heard_of_step linked order stepped plain.begins_nothing) after
  | finished own task host events ends ended stepped =>
    rw [removeTurn, noting_host]
    exact hears (heard_of_step linked order stepped ends.begins_nothing) after

/-- Every section keeps this up. -/
theorem WoundUp.of_section (wound : system.WoundUp) (linked : system.Linked)
    (order : Hosted.System.InOrder capacity moves system.host told)
    (made : Section system move result) : result.1.WoundUp where
  announcing call found := by
    have before (held : system.host.dispatcher.calls.get? call = some .announcing) :
        result.1.host.dispatcher.roster.phase = .stopped := by
      have stops := linked.stops_of_announcing held
      refine linked.stopped_stays order made (fun other starts => ?_) (wound.announcing call held)
      rw [stops] at starts
      cases starts
    rcases dispatcher_of_section made with ⟨same, -⟩ | ⟨own, -, stepped⟩
    · exact before (same ▸ found)
    · rcases Dispatcher.System.announcing_of_section
        (Dispatcher.System.section_of_step order.dispatcher.parkedReady stepped) found with
        held | stopped
      · exact before held
      · exact stopped
  after after := by
    rcases after_of_section linked order made after with behind | ⟨call, stage, waits, found, gone⟩
    · refine linked.stopped_stays order made (fun call starts => ?_) (wound.after behind)
      cases main : system.main <;> simp_all [Main.call?, Main.isAfterStop]
    · have idle (other : Nat) : system.main.call? ≠ some (other, .start) := by
        rw [waits]
        simp
      refine linked.stopped_stays order made idle ?_
      obtain ⟨_, stands, serves⟩ := linked.main call .stop waits
      obtain rfl := Option.some.inj (stands.symm.trans found)
      rcases dispatcher_of_section made with ⟨same, -⟩ | ⟨own, -, stepped⟩
      · rw [same] at gone
        cases gone.symm.trans found
      · rcases Dispatcher.System.stopped_of_answered
          (Dispatcher.System.section_of_step order.dispatcher.parkedReady stepped) found serves
          gone with rfl | stopped
        · exact wound.announcing call found
        · exact stopped

end System

end Standby.LoadRun
