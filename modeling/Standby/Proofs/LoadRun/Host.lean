import Standby.Proofs.Dispatcher.Exchange
import Standby.Proofs.Dispatcher.Execution
import Standby.Proofs.Hosted.Loops
import Standby.Proofs.LoadRun.Section

/-!
# The dispatcher and the pool in a load run

In a load run the dispatcher and the pool make one of their own moves or rest, so what is
known of them holds there as well. No task of a load run fails, and no call of the dispatcher
is broken off. An answer of the dispatcher is noted where its call was made, and the answer of
the pool lets the main thread wait for the threads.
-/

namespace Standby.LoadRun

open Dispatcher (WorkerId Task Follows Exchange)

/-- What happens in the dispatcher. -/
def Event.dispatched? : Event → Option Dispatcher.Event
  | .host (.dispatcher event) => some event
  | _ => none

/-- What happens in the dispatcher, of all that happens. -/
def dispatched (events : List Event) : List Dispatcher.Event :=
  events.filterMap Event.dispatched?

/-- What happens in the dispatcher when it moves, or when its pool does. -/
def hosted (events : List Hosted.Event) : List Dispatcher.Event := dispatched (events.map .host)

/-- What happens in the dispatcher is told in order. -/
theorem dispatched_append (before after : List Event) :
    dispatched (before ++ after) = dispatched before ++ dispatched after :=
  List.filterMap_append

/-- What happens in the dispatcher or the pool is told in order. -/
theorem hosted_append (before after : List Hosted.Event) :
    hosted (before ++ after) = hosted before ++ hosted after := by
  simp [hosted, dispatched]

/-- Of the events of the dispatcher all are its own. -/
theorem hosted_dispatcher (events : List Dispatcher.Event) :
    hosted (events.map .dispatcher) = events := by
  induction events with
  | nil => rfl
  | cons event events inductionHypothesis =>
    simpa [hosted, dispatched, Event.dispatched?] using inductionHypothesis

/-- Of the events of the pool none is the dispatcher's. -/
theorem hosted_pool (events : List Pool.Event) : hosted (events.map .pool) = [] := by
  induction events with
  | nil => rfl
  | cons event events inductionHypothesis => exact inductionHypothesis

/-- The move lets no task of the dispatcher fail and breaks off none of its calls. -/
def Mild : Hosted.Move → Prop
  | .dispatcher move => move.Returns ∧ ∀ call, move ≠ .breakOff call
  | .pool _ => True

namespace System

variable {system : System} {capacity : Nat} {moves : List (Pool.Move Hosted.Job)}
  {told : List Pool.Event}

/-- What is noted of an answer does not concern the dispatcher and the pool. -/
theorem noting_host (system : System) (host : Hosted.System) (events : List Hosted.Event) :
    (system.noting host events).host = host := by
  have kept (noted : System) : (events.foldl note noted).host = noted.host := by
    induction events generalizing noted with
    | nil => rfl
    | cons event events inductionHypothesis =>
      rw [List.foldl_cons, inductionHypothesis]
      cases event with
      | dispatcher event => cases event <;> rfl
      | pool event =>
        cases event with
        | returned call answer =>
          simp only [note, notePoolAnswer]
          split <;> rfl
        | _ => rfl
  exact kept _

/-- The dispatcher takes a call. -/
theorem step_invoke (held : system.host.dispatcher.held = true) (request : Dispatcher.Request) :
    system.host.step (.dispatcher (.invoke request)) = some ((system.invoked request).host,
      [.dispatcher (.invoked system.host.dispatcher.calls.next request)]) := by
  simp [Hosted.System.step, Hosted.System.moveDispatcher, Hosted.System.poolAgrees,
    Dispatcher.System.step, held, Hosted.System.callOf?, invoked]

/-- The pool takes a call to close it. -/
theorem step_close (held : system.host.pool.held = true) :
    system.host.step (.pool (.invoke .close)) = some (system.closeInvoked.host,
      [.pool (.invoked system.host.pool.calls.next)]) := by
  simp [Hosted.System.step, Hosted.System.movePool, Hosted.System.dispatcherAgrees,
    Pool.System.step, held, Hosted.System.noteAnswer, closeInvoked]

/-- A move that ends no task lets none fail, and the pool does not break down. -/
theorem mild_of_plain {move : Hosted.Move} {result : Hosted.System × List Hosted.Event}
    (plain : system.Plain move) (made : system.host.step move = some result) : Mild move := by
  cases move with
  | pool move => exact trivial
  | dispatcher move =>
    cases move with
    | finish worker outcome =>
      -- Nothing ends at a worker that executes nothing.
      have idle : system.taskOf? worker = none := plain
      exfalso
      cases found : system.host.dispatcher.workers[worker]? with
      | none =>
        simp [Hosted.System.step, Hosted.System.moveDispatcher, Dispatcher.System.step, found]
          at made
      | some held =>
        obtain ⟨epoch, stage⟩ := held
        cases stage with
        | serving idleTimeout slot duty =>
          cases duty with
          | executing task => simp [taskOf?, found] at idle
          | _ => simp [Hosted.System.step, Hosted.System.moveDispatcher, Dispatcher.System.step,
              found, Dispatcher.System.finish] at made
        | _ => simp [Hosted.System.step, Hosted.System.moveDispatcher, Dispatcher.System.step,
            found, Dispatcher.System.finish] at made
    | breakOff call =>
      simp [Hosted.System.step, Hosted.System.moveDispatcher, Hosted.System.poolAgrees] at made
    | _ => exact ⟨trivial, by simp⟩

/-- In every section the dispatcher and the pool make a move of their own or rest. -/
theorem host_of_section {move : Move} {result : System × List Event}
    (made : Section system move result) :
    (result.1.host = system.host ∧ dispatched result.2 = []) ∨
      ∃ own events, Mild own ∧ system.host.step own = some (result.1.host, events) ∧
        result.2 = events.map .host := by
  cases made with
  | began | exhausted | claimed | signalled | chained | seeded | sawAll | joined | watched
  | gaveUp => exact .inl ⟨rfl, rfl⟩
  | counted runner answer =>
    cases answer <;> exact .inl ⟨rfl, rfl⟩
  | offered runner found held =>
    exact .inr ⟨.dispatcher (.invoke (.offer true)), _, ⟨trivial, by simp⟩, step_invoke held _, rfl⟩
  | starting main held =>
    exact .inr ⟨.dispatcher (.invoke .start), _, ⟨trivial, by simp⟩, step_invoke held _, rfl⟩
  | stopping main held =>
    exact .inr ⟨.dispatcher (.invoke .stop), _, ⟨trivial, by simp⟩, step_invoke held _, rfl⟩
  | closing main held => exact .inr ⟨.pool (.invoke .close), _, trivial, step_close held, rfl⟩
  | hosted own host events plain stepped =>
    refine .inr ⟨own, events, mild_of_plain plain stepped, ?_, rfl⟩
    rw [noting_host]
    exact stepped
  | finished own task host events ends ended stepped =>
    have mild : Mild own := by
      cases ends with
      | worker => exact ⟨rfl, by simp⟩
      | thread => exact trivial
    refine .inr ⟨own, events, mild, ?_, rfl⟩
    rw [removeTurn, noting_host]
    exact stepped

/-- In every section the dispatcher makes a move of its own or rests. -/
theorem dispatcher_of_section {move : Move} {result : System × List Event}
    (made : Section system move result) :
    (result.1.host.dispatcher = system.host.dispatcher ∧ dispatched result.2 = []) ∨
      ∃ own, (own.Returns ∧ ∀ call, own ≠ .breakOff call) ∧
        system.host.dispatcher.step own =
          some (result.1.host.dispatcher, dispatched result.2) := by
  rcases host_of_section made with ⟨host, silent⟩ | ⟨own, events, mild, stepped, told⟩
  · exact .inl ⟨congrArg Hosted.System.dispatcher host, silent⟩
  · obtain ⟨host, same⟩ : ∃ host, result.1.host = host := ⟨_, rfl⟩
    have happened : dispatched result.2 = hosted events := congrArg dispatched told
    rw [same] at stepped
    rw [happened, same]
    cases Hosted.System.section_of_step stepped with
    | dispatcher move next new submissions agrees moved =>
      rw [hosted_dispatcher]
      exact .inr ⟨move, mild, moved⟩
    | submitted move call stage job next new pool later submissions agrees moved =>
      rw [hosted_append, hosted_dispatcher, hosted_pool, List.append_nil]
      exact .inr ⟨move, mild, moved⟩
    | pool move next new submissions agrees moved =>
      rw [hosted_pool]
      exact .inl ⟨rfl, rfl⟩

/-- How the answers of a section of the dispatcher or the pool are noted. -/
inductive Noted (system : System) (host : Hosted.System) :
    List (Nat × Dispatcher.Answer) → System → Prop where
  /-- A call of the dispatcher is answered. -/
  | answered (call : Nat) (stage : Dispatcher.Call) (answer : Dispatcher.Answer)
      (found : system.host.dispatcher.calls.get? call = some stage)
      (gone : host.dispatcher.calls.get? call = none)
      (others : ∀ other, other ≠ call →
        Follows (system.host.dispatcher.calls.get? other) (host.dispatcher.calls.get? other))
      (suits : ∀ request, stage.Serves request → answer.Suits request) :
    Noted system host [(call, answer)] ({ system with host := host }.noteAnswer call answer)
  /-- No call of the dispatcher is answered. The main thread may hear from the pool. -/
  | silent (main : Main)
      (calls : ∀ call,
        Follows (system.host.dispatcher.calls.get? call) (host.dispatcher.calls.get? call))
      (turned : main = system.main ∨
        (∃ call, system.main = .callingClose call) ∧ main = .joining) :
    Noted system host [] { system with host := host, main := main }

/-- Answers of the pool concern the main thread only. -/
theorem foldl_note_pool (events : List Pool.Event) (system : System) :
    ∃ main, (events.map Hosted.Event.pool).foldl note system = { system with main := main } ∧
      (main = system.main ∨ (∃ call, system.main = .callingClose call) ∧ main = .joining) := by
  induction events generalizing system with
  | nil => exact ⟨system.main, rfl, .inl rfl⟩
  | cons event events inductionHypothesis =>
    rw [List.map_cons, List.foldl_cons]
    cases event with
    | returned call answer =>
      simp only [note, notePoolAnswer]
      split
      · rename_i waits
        obtain ⟨main, noted, turned⟩ :=
          inductionHypothesis { system with main := .joining }
        refine ⟨main, noted, .inr ⟨⟨call, waits⟩, ?_⟩⟩
        rcases turned with same | ⟨⟨_, impossible⟩, _⟩
        · exact same
        · cases impossible
      · exact inductionHypothesis system
    | _ => exact inductionHypothesis system

/-- Answers of the dispatcher are noted one after the other. -/
theorem foldl_note_dispatcher (events : List Dispatcher.Event) (system : System) :
    (events.map Hosted.Event.dispatcher).foldl note system =
      (events.filterMap Dispatcher.Event.reply?).foldl
        (fun noted reply => noted.noteAnswer reply.1 reply.2) system := by
  induction events generalizing system with
  | nil => rfl
  | cons event events inductionHypothesis =>
    rw [List.map_cons, List.foldl_cons, inductionHypothesis]
    cases event <;> rfl

/-- Every move of the dispatcher or the pool that begins no call of the dispatcher answers
one at most. -/
theorem noted_of_step (order : Hosted.System.InOrder capacity moves system.host told)
    {move : Hosted.Move} {host : Hosted.System} {events : List Hosted.Event}
    (made : system.host.step move = some (host, events))
    (begun : ∀ request, move ≠ .dispatcher (.invoke request)) :
    Noted system host ((hosted events).filterMap Dispatcher.Event.reply?)
      (system.noting host events) := by
  have exchanged (own : Dispatcher.Move) (next : Dispatcher.System)
      (new : List Dispatcher.Event) (same : move = .dispatcher own)
      (agrees : system.host.poolAgrees own = true)
      (stepped : system.host.dispatcher.step own = some (next, new))
      (dispatcher : host.dispatcher = next) :
      Noted system host (new.filterMap Dispatcher.Event.reply?)
        ((new.map Hosted.Event.dispatcher).foldl note { system with host := host }) := by
    have section_made :=
      Dispatcher.System.section_of_step order.dispatcher.parkedReady stepped
    rw [foldl_note_dispatcher]
    subst dispatcher
    cases Dispatcher.System.exchange_of_section section_made
      fun request invokes => begun request (by rw [same, invokes]) with
    | goesOn calls silent =>
      rw [silent]
      exact .silent system.main calls (.inl rfl)
    | answered call stage answer found gone others said suits =>
      rw [said]
      exact .answered call stage answer found gone others suits
    | brokenOff call stage loop? found has gone others said =>
      have happened : .brokenOff call loop? ∈ new := by simp [show new = _ from said]
      exact absurd happened (Hosted.System.not_brokenOff_of_agrees section_made agrees)
  cases Hosted.System.section_of_step made with
  | dispatcher own next new submissions agrees stepped =>
    rw [hosted_dispatcher]
    exact exchanged own next new rfl agrees stepped rfl
  | submitted own call stage job next new pool later submissions agrees stepped caller found
      owes invoked =>
    obtain ⟨_, rfl⟩ : _ ∧ later = [.invoked system.host.pool.calls.next] := by
      have invoked_made := Pool.System.section_of_step invoked
      cases invoked_made
      exact ⟨trivial, rfl⟩
    rw [hosted_append, hosted_pool, List.append_nil, hosted_dispatcher, noting,
      List.foldl_append]
    exact exchanged own next new rfl agrees stepped rfl
  | pool own next new submissions agrees stepped =>
    rw [hosted_pool]
    obtain ⟨main, noted, turned⟩ := foldl_note_pool new
      { system with host := ⟨system.host.dispatcher, next, submissions⟩ }
    rw [noting, noted]
    exact .silent main (fun call => .refl _) turned

end System

end Standby.LoadRun
