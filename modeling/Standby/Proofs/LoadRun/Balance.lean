import Standby.LoadRun.Log
import Standby.Proofs.Dispatcher.Capacity
import Standby.Proofs.LoadRun.Books

/-!
# Books that balance

However a load run goes, every dispatch that is taken from the budget leads to one offer and
is counted once, in the way that the offer went, before its signal is sent. When the main
thread has stopped the dispatcher and waited for the pool, no turn is left half way. Then the
counts of the run, its signals and the statistics of the dispatcher agree, and the dispatcher
has come to rest.
-/

namespace Standby.LoadRun

open Dispatcher (Answer)

/-- The task was given back, or the pool has answered about it. -/
def isDeclined : Answer → Bool
  | .declined _ | .fallback | .refused _ => true
  | _ => false

/-- Whoever is told that its task was accepted has this answer. -/
theorem countP_accepts (events : List Dispatcher.Event) :
    events.countP Dispatcher.Event.accepts =
      (events.filterMap Dispatcher.Event.reply?).countP fun reply => isAccepted reply.2 := by
  rw [List.countP_filterMap]
  refine List.countP_congr fun event _ => ?_
  cases event with
  | returned call answer => cases answer <;> rfl
  | _ => rfl

/-- Whoever is told that its task was declined has one of these answers. -/
theorem countP_declines (events : List Dispatcher.Event) :
    events.countP Dispatcher.Event.declines =
      (events.filterMap Dispatcher.Event.reply?).countP fun reply => isDeclined reply.2 := by
  rw [List.countP_filterMap]
  refine List.countP_congr fun event _ => ?_
  cases event with
  | returned call answer => cases answer <;> rfl
  | _ => rfl

/-- Whatever was counted in a story suits an offer. -/
theorem Story.suits {told : List (Nat × Answer)} {progress : Option Progress} {deeds : List Deed}
    (story : Story told progress deeds) {answer : Answer} (member : .counted answer ∈ deeds) :
    answer.Suits (.offer true) := by
  obtain ⟨rounds, begun, rfl, gave, stands⟩ := story
  rcases List.mem_append.mp member with whole | partly
  · obtain ⟨round, among, inside⟩ := List.mem_flatMap.mp whole
    obtain rfl : answer = round.answer := by simpa [Round.deeds] using inside
    exact (gave round among).2
  · cases stands with
    | signalling call own given =>
      obtain rfl : answer = own := by simpa using partly
      exact given.2
    | _ => simp at partly

namespace System

/-- The load run has come to its end and everything agrees. -/
structure Settled (loops : Nat) (system : System) : Prop where
  counted : system.reserved + system.pooled + system.failed = system.seen
  seen : system.seen = loops - system.remaining
  within : system.remaining ≤ loops ∧ system.seen ≤ loops
  balanced : system.mismatch? = none
  accepted : system.host.dispatcher.snapshot.tally.accepted = system.reserved
  declined : system.host.dispatcher.snapshot.tally.declined = system.pooled + system.failed
  stopped : system.host.dispatcher.snapshot.phase = .stopped
  vacant : system.host.dispatcher.snapshot.available = 0 ∧
    system.host.dispatcher.snapshot.pending = 0 ∧ system.host.dispatcher.snapshot.starting = 0
  unfailed : system.host.dispatcher.snapshot.tally.taskFailures = 0

/-- The books of a load run balance. -/
structure Balances (loops : Nat) (system : System) (deeds : List (Runner × Deed))
    (events : List Event) : Prop where
  /-- Whoever takes turns goes from each claim to one offer, counts the answer that the
  dispatcher gives to it, and sends one signal. -/
  rounds : ∀ runner, Story (replies events) (system.progress? runner) (deedsOf runner deeds)
  /-- The dispatcher gets these offers and no others. -/
  offers : offersIn events = deeds.filterMap (·.2.offer?)
  /-- Every claim takes one dispatch from the budget, every count is one more in exactly one of
  three numbers, and every signal is seen or still to be seen. -/
  counted : Counted loops system deeds
  /-- At the end the counts, the signals and the statistics agree. -/
  settled : system.main = .finished → system.Settled loops

namespace InOrder

variable {capacity loops : Nat} {system : System} {deeds : List (Runner × Deed)}
  {events : List Event}

/-- Whatever was counted suits an offer. -/
theorem suits (order : InOrder capacity loops system deeds events) {deed : Runner × Deed}
    (member : deed ∈ deeds) {answer : Answer} (counts : deed.2 = .counted answer) :
    answer.Suits (.offer true) := by
  refine (order.stories deed.1).suits ?_
  exact List.mem_map.mpr ⟨deed, List.mem_filter.mpr ⟨member, decide_eq_true rfl⟩, counts⟩

/-- No task stays with the pool without an answer. -/
theorem countP_leavesUnanswered (order : InOrder capacity loops system deeds events) :
    (dispatched events).countP Dispatcher.Event.leavesUnanswered = 0 := by
  refine List.countP_eq_zero.mpr fun event happened leaves => ?_
  cases event with
  | brokenOff call loop? => exact order.unbroken call loop? happened
  | _ => cases leaves

/-- All counts went to one of the three numbers. -/
theorem counts_split (order : InOrder capacity loops system deeds events) :
    done (Deed.counts fun _ => true) deeds =
      system.reserved + system.pooled + system.failed := by
  rw [order.counted.reserved, order.counted.pooled, order.counted.failed]
  refine Counting.countP_split _ _ _ _ deeds fun deed member => ?_
  cases kind : deed.2 with
  | counted answer =>
    have suits := order.suits member kind
    cases answer <;> first | rfl | cases suits
  | _ => rfl

/-- Whatever was declined was passed on or refused. -/
theorem declines_split (order : InOrder capacity loops system deeds events) :
    done (Deed.counts isDeclined) deeds = system.pooled + system.failed := by
  rw [order.counted.pooled, order.counted.failed]
  have split := Counting.countP_split (fun deed : Runner × Deed => deed.2.counts isDeclined)
    (fun deed => deed.2.counts isPassedOn) (fun deed => deed.2.counts isRefused)
    (fun _ => false) deeds fun deed member => by
      cases kind : deed.2 with
      | counted answer =>
        have suits := order.suits member kind
        cases answer <;> first | rfl | cases suits
      | _ => rfl
  simpa [done] using split

variable (ends : system.main = .finished)
include ends

/-- No turn is left half way. -/
theorem countIn_turns (order : InOrder capacity loops system deeds events)
    (between : Progress → Bool) : countIn between system.turns = 0 := by
  obtain ⟨moves, told, host⟩ := order.host
  exact countIn_eq_zero _ (order.seated.nobody host ends)

/-- Nobody waits for the dispatcher. -/
theorem uncalled (order : InOrder capacity loops system deeds events) (call : Nat) :
    system.host.dispatcher.calls.get? call = none := by
  obtain ⟨moves, told, host⟩ := order.host
  refine Option.eq_none_iff_forall_ne_some.mpr fun stage found => ?_
  rcases order.linked.callers call stage found with ⟨request, waits⟩ | ⟨runner, calls⟩
  · rw [ends] at waits
    cases waits
  · rw [order.seated.nobody host ends runner] at calls
    cases calls

/-- Every claim has led to a signal. -/
theorem claims_eq_signals (order : InOrder capacity loops system deeds events) :
    done Deed.claims deeds = done Deed.signals deeds ∧
      done (Deed.counts fun _ => true) deeds = done Deed.signals deeds := by
  have offered := order.flows.offered
  have counted := order.flows.counted
  have signalled := order.flows.signalled
  simp only [Passes, order.countIn_turns ends, Nat.add_zero] at offered counted signalled
  exact ⟨offered.trans (counted.trans signalled), signalled⟩

/-- All answers to offers were counted. -/
theorem answers_counted (order : InOrder capacity loops system deeds events)
    (kind : Answer → Bool)
    (others : ∀ answer, answer.Suits .start ∨ answer.Suits .stop → kind answer = false) :
    (replies events).countP (fun reply => kind reply.2) = done (Deed.counts kind) deeds := by
  have answered := order.answered kind others
  rwa [order.countIn_turns ends, Nat.add_zero] at answered

/-- A load run that has come to its end is settled. -/
theorem settled (order : InOrder capacity loops system deeds events) : system.Settled loops := by
  obtain ⟨moves, told, host⟩ := order.host
  obtain ⟨claims, counts⟩ := order.claims_eq_signals ends
  have census := host.dispatcher.census
  have stopped : system.host.dispatcher.roster.phase = .stopped := by
    refine order.wound.after ?_
    rw [ends]
    rfl
  have split := order.counts_split
  have claimed := order.counted.claimed
  have sent := order.counted.sent
  have seen : system.unseen = 0 := (order.seated.finished ends).2
  have counted : system.reserved + system.pooled + system.failed = system.seen := by omega
  have nobody : system.host.dispatcher.roster.live = 0 := census.deserted stopped
  have accounted := census.available_add_pending_le
  have uncounted : system.host.dispatcher.calls.total Dispatcher.Call.falling = 0 :=
    Register.total_of_absent _ (order.uncalled ends)
  have notMain (kind : Answer → Bool) (done : kind .done = false)
      (illegal : ∀ fault, kind (.illegal fault) = false) (answer : Answer)
      (suits : answer.Suits .start ∨ answer.Suits .stop) : kind answer = false := by
    cases answer with
    | done => exact done
    | illegal fault => exact illegal fault
    | accepted | declined | fallback | refused => rcases suits with suits | suits <;> cases suits
  refine
    { counted := counted
      seen := by omega
      within := by omega
      balanced := if_pos counted
      accepted := ?_
      declined := ?_
      stopped := stopped
      vacant := ⟨?_, ?_, census.starting_of_not_running (by simp [stopped])⟩
      unfailed := order.unfailed.uncounted }
  · calc system.host.dispatcher.tally.accepted
        = (dispatched events).countP Dispatcher.Event.accepts := order.tallied.accepted
      _ = (replies events).countP (fun reply => isAccepted reply.2) := countP_accepts _
      _ = done (Deed.counts isAccepted) deeds :=
          order.answers_counted ends _ (notMain _ rfl fun _ => rfl)
      _ = system.reserved := order.counted.reserved.symm
  · calc system.host.dispatcher.tally.declined
        = (dispatched events).countP Dispatcher.Event.declines + 0 + 0 := by
          rw [order.tallied.declined, order.countP_leavesUnanswered, uncounted]
      _ = (replies events).countP (fun reply => isDeclined reply.2) := countP_declines _
      _ = done (Deed.counts isDeclined) deeds :=
          order.answers_counted ends _ (notMain _ rfl fun _ => rfl)
      _ = system.pooled + system.failed := order.declines_split
  · show system.host.dispatcher.roster.available = 0
    omega
  · show system.host.dispatcher.roster.pending = 0
    omega

end InOrder

/-- The books of every load run balance, whatever its settings ask for. -/
theorem play_balances (settings : Settings) (moves : List Move) (system : System)
    (events : List Event) (run : (ofSettings settings).play moves = some (system, events)) :
    system.Balances settings.load.loops ((ofSettings settings).deeds moves) events := by
  let capacity := settings.reserved.capacity
  let loops := settings.load.loops
  have start : InOrder capacity loops (ofSettings settings) [] [] :=
    .fresh capacity settings.backing.threads settings.backing.queueCapacity loops
      settings.load.chains settings.reserved.idleTimeout
  have order : InOrder capacity loops system ((ofSettings settings).deeds moves) events :=
    play_induction (InOrder capacity loops) (fun _ _ _ _ _ order made => order.of_section made)
      [] [] start run
  exact ⟨order.stories, order.offers, order.counted, order.settled⟩

/-- One worker over a pool of two threads with room for one job, and three dispatches for two
chains. -/
def smallSettings : Settings where
  backing := ⟨2, 1⟩
  reserved := ⟨.fixed 1, none, 1⟩
  load := ⟨3, 2, false⟩
  logging := ⟨"info", .text, "reserved_dispatch"⟩

/-- The first turn of the main thread finds no worker, and by then the worker loop fills the
queue; its second turn goes to the worker. The main thread gives up without having seen a
signal and begins to stop. The turn of the worker is passed on to the pool, and the turn that
runs there finds the budget empty. -/
def threeWays : List Move :=
  [.host (.pool (.work 1)), .proceed, .host (.pool (.work 0)), .host (.dispatcher (.proceed 0)),
    .begin .main, .advance .main, .advance .main, .host (.dispatcher (.proceed 1)),
    .host (.pool (.proceed 0)), .host (.pool (.proceed 0)), .host (.pool (.proceed 0)),
    .host (.pool (.proceed 0)), .host (.dispatcher (.answer 1 none)),
    .host (.dispatcher (.proceed 1)), .host (.dispatcher (.proceed 1)),
    .host (.pool (.proceed 1)), .host (.pool (.proceed 1)), .host (.pool (.proceed 1)),
    .host (.pool (.proceed 1)), .host (.pool (.work 1)), .host (.pool (.work 1)),
    .host (.pool (.proceed 1)), .host (.dispatcher (.answer 1 (some (.queueFull 1)))),
    .advance .main, .host (.dispatcher (.launch 0)), .advance .main, .advance .main,
    .begin .main, .advance .main, .advance .main, .host (.dispatcher (.proceed 2)),
    .advance .main, .host (.dispatcher (.work 0)), .advance .main, .advance .main, .proceed,
    .giveUp, .proceed, .host (.dispatcher (.proceed 3)), .begin (.task 2), .advance (.task 2),
    .advance (.task 2), .host (.dispatcher (.proceed 4)), .host (.pool (.proceed 2)),
    .host (.pool (.proceed 2)), .host (.pool (.proceed 2)), .host (.pool (.proceed 2)),
    .host (.pool (.work 0)), .host (.dispatcher (.answer 4 none)), .advance (.task 2),
    .host (.pool (.work 0)), .begin (.task 4), .advance (.task 4), .advance (.task 2),
    .host (.pool (.finish 0 .returned)), .host (.dispatcher (.finish 0 .returned)),
    .host (.dispatcher (.work 0)), .host (.dispatcher (.work 0)),
    .host (.pool (.finish 1 .returned)), .host (.dispatcher (.proceed 3)),
    .host (.dispatcher (.proceed 3)), .proceed, .host (.pool (.proceed 3)),
    .host (.pool (.proceed 3)), .host (.pool (.work 0)), .host (.pool (.work 1)), .proceed]

set_option maxRecDepth 4000 in
/-- Every dispatch has gone another way, and the books balance. -/
theorem threeWays_balances :
    ∃ system events, (ofSettings smallSettings).play threeWays = some (system, events) ∧
      system.main = .finished ∧ system.reserved = 1 ∧ system.pooled = 1 ∧ system.failed = 1 ∧
      system.remaining = 0 ∧ .timedOut 0 3 ∈ events ∧
      system.Balances 3 ((ofSettings smallSettings).deeds threeWays) events :=
  ⟨_, _, rfl, rfl, rfl, rfl, rfl, rfl, by decide,
    play_balances smallSettings threeWays _ _ rfl⟩

end System

end Standby.LoadRun
