import Standby.Proofs.Dispatcher.Crew
import Standby.Proofs.Dispatcher.Handoff
import Standby.Proofs.Dispatcher.PlainOffer

/-!
# The route of a task that may be passed on

A task that is offered so that a declined one goes on to the executor has one of few routes.
Either a parked worker has it at once. Or the call asks the executor to take it, once, after it
has asked it to take one new worker loop at most, and answers what the executor then says about
the task. What the executor said about the loop before makes no difference to that.

In between anything else may happen: the executor may run the loop, or the task, before it
answers, and other calls come and go. So a route is told in the sections that the call makes
itself, cut out of the run. Of the executor it is assumed that it answers this call, and that
it has dropped the loop that it refuses.
-/

namespace Standby.Dispatcher

open Executor (Refusal)

/-- One section of a run. -/
structure Span where
  before : System
  move : Move
  after : System
  events : List Event

/-- What is done in a section, and what is told. -/
def Span.deed (span : Span) : Move × List Event := (span.move, span.events)

/-- The worker loop that the executor refuses in a section. -/
def Span.refused? (span : Span) : Option WorkerId :=
  match span.move with
  | .answer call (some _) =>
    match span.before.calls.get? call with
    | some (.submitting _ worker) => some worker
    | _ => none
  | _ => none

/-- The sections of a run that are made for one call. -/
def System.spans (call : Nat) : System → List Move → List Span
  | _, [] => []
  | system, move :: moves =>
    match system.step move with
    | none => []
    | some (next, events) =>
      if move.isFor call then ⟨system, move, next, events⟩ :: spans call next moves
      else spans call next moves

/-- The route of a task. -/
inductive Route where
  /-- A worker has it. -/
  | reserved (worker : WorkerId)
  /-- The executor was asked to take it, and perhaps a worker loop before. -/
  | passedOn (loop? : Option (WorkerId × Option Refusal)) (verdict : Option Refusal)
deriving DecidableEq, Repr

/-- What the executor's answer about a worker loop makes a call tell. -/
def Event.ofLoop (worker : WorkerId) : Option Refusal → Event
  | none => .submitted worker
  | some refusal => .spawnFailed worker refusal

/-- What the executor's answer about a task makes a call answer. -/
def Answer.ofVerdict (verdict : Option Refusal) : Answer :=
  (verdict.map Answer.refused).getD .fallback

/-- The answer tells the verdict. -/
theorem Answer.ofVerdict_inj {verdict other : Option Refusal} :
    ofVerdict verdict = ofVerdict other ↔ verdict = other := by
  cases verdict <;> cases other <;> simp [ofVerdict]

/-- What is done by the call, and told in its sections, on a route. -/
def Route.deeds (call : Nat) : Route → List (Move × List Event)
  | .reserved worker => [(.proceed call, [.claimed worker call, .returned call .accepted])]
  | .passedOn loop? verdict =>
    (match loop? with
      | none => []
      | some (worker, refusal) =>
        [(.proceed call, [.created worker]), (.answer call refusal, []),
          (.proceed call, [.ofLoop worker refusal])]) ++
      [(.proceed call, [.fellBack call]),
        (.answer call verdict, [.returned call (.ofVerdict verdict)])]

/-- What a call at this stage can still do and tell up to its end. -/
inductive Onward (call : Nat) : Call → List (Move × List Event) → Prop where
  | reserved (worker : WorkerId) :
    Onward call (.entering (.offer true))
      [(.proceed call, [.claimed worker call, .returned call .accepted])]
  | turnedDown (rest : List (Move × List Event)) (onward : Onward call .fallingBack rest) :
    Onward call (.entering (.offer true)) ((.proceed call, [.fellBack call]) :: rest)
  | created (worker : WorkerId) (rest : List (Move × List Event))
      (onward : Onward call (.submitting true worker) rest) :
    Onward call (.entering (.offer true)) ((.proceed call, [.created worker]) :: rest)
  | taken (worker : WorkerId) (rest : List (Move × List Event))
      (onward : Onward call (.countingSpawned true worker) rest) :
    Onward call (.submitting true worker) ((.answer call none, []) :: rest)
  | refused (worker : WorkerId) (refusal : Refusal) (rest : List (Move × List Event))
      (onward : Onward call (.countingRefused true worker refusal) rest) :
    Onward call (.submitting true worker) ((.answer call (some refusal), []) :: rest)
  | spawned (worker : WorkerId) (rest : List (Move × List Event))
      (onward : Onward call (.countingDeclined true) rest) :
    Onward call (.countingSpawned true worker) ((.proceed call, [.submitted worker]) :: rest)
  | spawnFailed (worker : WorkerId) (refusal : Refusal) (rest : List (Move × List Event))
      (onward : Onward call (.countingDeclined true) rest) :
    Onward call (.countingRefused true worker refusal)
      ((.proceed call, [.spawnFailed worker refusal]) :: rest)
  | declined (rest : List (Move × List Event)) (onward : Onward call .fallingBack rest) :
    Onward call (.countingDeclined true) ((.proceed call, [.fellBack call]) :: rest)
  | passedOn (verdict : Option Refusal) :
    Onward call .fallingBack [(.answer call verdict, [.returned call (.ofVerdict verdict)])]

namespace Onward

variable {call : Nat} {deeds rest : List (Move × List Event)}

/-- After a task was passed on only the executor's verdict is left. -/
theorem of_passed (onward : Onward call .fallingBack rest) :
    ∃ verdict, rest = [(.answer call verdict, [.returned call (.ofVerdict verdict)])] := by
  cases onward with
  | passedOn verdict => exact ⟨verdict, rfl⟩

/-- After its loop is counted a task is passed on. -/
theorem of_counted (onward : Onward call (.countingDeclined true) rest) :
    ∃ verdict, rest = [(.proceed call, [.fellBack call]),
      (.answer call verdict, [.returned call (.ofVerdict verdict)])] := by
  cases onward with
  | declined rest onward =>
    obtain ⟨verdict, rfl⟩ := of_passed onward
    exact ⟨verdict, rfl⟩

/-- From its beginning a call follows a route. -/
theorem exists_route (onward : Onward call (.entering (.offer true)) deeds) :
    ∃ route : Route, deeds = route.deeds call := by
  cases onward with
  | reserved worker => exact ⟨.reserved worker, rfl⟩
  | turnedDown rest onward =>
    obtain ⟨verdict, rfl⟩ := of_passed onward
    exact ⟨.passedOn none verdict, rfl⟩
  | created worker rest onward =>
    cases onward with
    | taken _ rest onward =>
      cases onward with
      | spawned _ rest onward =>
        obtain ⟨verdict, rfl⟩ := of_counted onward
        exact ⟨.passedOn (some (worker, none)) verdict, rfl⟩
    | refused _ refusal rest onward =>
      cases onward with
      | spawnFailed _ _ rest onward =>
        obtain ⟨verdict, rfl⟩ := of_counted onward
        exact ⟨.passedOn (some (worker, some refusal)) verdict, rfl⟩

/-- From every stage there is a way to the end. -/
theorem exists_deeds {stage : Call} (offers : stage.Serves (.offer true)) :
    ∃ deeds, Onward call stage deeds := by
  have passedOn : Onward call .fallingBack _ := .passedOn none
  have declined : Onward call (.countingDeclined true) _ := .declined _ passedOn
  cases stage with
  | entering request =>
    obtain rfl : request = .offer true := offers
    exact ⟨_, .turnedDown _ passedOn⟩
  | submitting fallsBack worker =>
    obtain rfl : fallsBack = true := offers
    exact ⟨_, .taken worker _ (.spawned worker _ declined)⟩
  | countingSpawned fallsBack worker =>
    obtain rfl : fallsBack = true := offers
    exact ⟨_, .spawned worker _ declined⟩
  | countingRefused fallsBack worker refusal =>
    obtain rfl : fallsBack = true := offers
    exact ⟨_, .spawnFailed worker refusal _ declined⟩
  | countingDeclined fallsBack =>
    obtain rfl : fallsBack = true := offers
    exact ⟨_, declined⟩
  | fallingBack => exact ⟨_, passedOn⟩
  | sleeping | woken | announcing => cases offers

end Onward

namespace System

variable {capacity : Nat} {system : System} {move : Move} {result : System × List Event}
variable {call : Nat} {stage : Call} {moves later : List Move}

/-- A section brings a call to its end, or to a stage from which it goes on. -/
theorem OfferSection.onward (made : OfferSection system call true stage move result)
    (found : system.calls.get? call = some stage) (returns : move ≠ .breakOff call) :
    result.1.calls.get? call = none ∧ Onward call stage [(move, result.2)] ∨
      ∃ later, result.1.calls.get? call = some later ∧ later.Serves (.offer true) ∧
        ∀ rest, Onward call later rest → Onward call stage ((move, result.2) :: rest) := by
  have put (next : System) (later : Call) (calls : next.calls = system.calls.put call later) :
      next.calls.get? call = some later := by
    simp [calls, Register.get?_put, found]
  have removed (next : System) (calls : next.calls = system.calls.remove call) :
      next.calls.get? call = none := by
    simp [calls, Register.get?_remove]
  cases made with
  | turnedDown reason => exact .inr ⟨.fallingBack, put _ _ rfl, rfl, .turnedDown⟩
  | claimed worker => exact .inl ⟨removed _ rfl, .reserved worker⟩
  | created => exact .inr ⟨_, put _ _ rfl, rfl, .created _⟩
  | taken worker => exact .inr ⟨_, put _ _ rfl, rfl, .taken worker⟩
  | refused worker refusal => exact .inr ⟨_, put _ _ rfl, rfl, .refused worker refusal⟩
  | spawned worker => exact .inr ⟨_, put _ _ rfl, rfl, .spawned worker⟩
  | spawnFailed worker refusal => exact .inr ⟨_, put _ _ rfl, rfl, .spawnFailed worker refusal⟩
  | declined => exact .inr ⟨.fallingBack, put _ _ rfl, rfl, .declined⟩
  | passedOn falls verdict => exact .inl ⟨removed _ rfl, .passedOn verdict⟩
  | brokenOff => exact absurd rfl returns

/-- The sections of a call in a run begin with the first move, if that is made for it. -/
theorem spans_cons (stepped : system.step move = some result) :
    system.spans call (move :: moves) =
      if move.isFor call then
        ⟨system, move, result.1, result.2⟩ :: result.1.spans call moves
      else result.1.spans call moves := by
  simp [spans, stepped]

/-- A call that has returned makes no more sections. -/
theorem spans_of_returned (order : InOrder capacity system) (given : call < system.calls.next)
    (returned : system.calls.get? call = none) (run : system.play later = some result) :
    system.spans call later = [] := by
  induction later generalizing system result with
  | nil => rfl
  | cons move moves inductionHypothesis =>
    obtain ⟨first, last, stepped, played, rfl⟩ := play_cons_eq_some.mp run
    have made : Section system move first := section_of_step order.parkedReady stepped
    obtain ⟨foreign, given, gone⟩ := returned_of_section made given returned
    have cut : system.spans call (move :: moves) = first.1.spans call moves := by
      simp [spans_cons stepped, foreign]
    exact cut.trans (inductionHypothesis (order.of_section made) given gone played)

/-- What a call does and tells in a run is the beginning of a way to its end, and all of it when
it has returned. Until then it goes on with its offer. -/
theorem onward_of_play (order : InOrder capacity system)
    (found : system.calls.get? call = some stage) (offers : stage.Serves (.offer true))
    (returns : .breakOff call ∉ later) (run : system.play later = some result) :
    ∃ deeds, Onward call stage deeds ∧ (system.spans call later).map Span.deed <+: deeds ∧
      (result.1.calls.get? call = none ∧ (system.spans call later).map Span.deed = deeds ∨
        ∃ stage, result.1.calls.get? call = some stage ∧ stage.Serves (.offer true)) := by
  induction later generalizing system stage result with
  | nil =>
    obtain rfl := Option.some.inj run
    obtain ⟨deeds, onward⟩ := Onward.exists_deeds offers
    exact ⟨deeds, onward, List.nil_prefix, .inr ⟨stage, found, offers⟩⟩
  | cons move moves inductionHypothesis =>
    obtain ⟨first, last, stepped, played, rfl⟩ := play_cons_eq_some.mp run
    have made : Section system move first := section_of_step order.parkedReady stepped
    have further : .breakOff call ∉ moves := fun member => returns (List.mem_cons_of_mem _ member)
    rcases offer_of_section made found offers with ⟨own, section_⟩ | ⟨foreign, stays⟩
    · have cut : system.spans call (move :: moves) =
          ⟨system, move, first.1, first.2⟩ :: first.1.spans call moves := by
        rw [spans_cons stepped, if_pos own]
      rw [cut]
      have answered : move ≠ .breakOff call := fun same => returns (same ▸ List.mem_cons_self)
      rcases section_.onward found answered with
        ⟨returned, onward⟩ | ⟨later, found, offers, goesOn⟩
      · have given : call < first.1.calls.next :=
          Nat.lt_of_lt_of_le (Register.lt_of_get? found) (next_le_of_section made)
        have gone := returned_of_play (order.of_section made) given returned played
        rw [spans_of_returned (order.of_section made) given returned played]
        exact ⟨_, onward, List.prefix_refl _, .inl ⟨gone, rfl⟩⟩
      · obtain ⟨deeds, onward, within, whole⟩ :=
          inductionHypothesis (order.of_section made) found offers further played
        exact ⟨_, goesOn deeds onward, List.cons_prefix_cons.mpr ⟨rfl, within⟩,
          whole.imp_left fun ended => ⟨ended.1, congrArg _ ended.2⟩⟩
    · have cut : system.spans call (move :: moves) = first.1.spans call moves := by
        simp [spans_cons stepped, foreign]
      rw [cut]
      obtain ⟨deeds, onward, within, whole⟩ :=
        inductionHypothesis (order.of_section made) stays offers further played
      exact ⟨deeds, onward, within, whole⟩

/-- A section that an offer has made in a run, which goes on from there. -/
structure CutFrom (capacity call : Nat) (span : Span) (last : System × List Event) : Prop where
  order : InOrder capacity span.before
  made : ∃ stage, span.before.calls.get? call = some stage ∧
    OfferSection span.before call true stage span.move (span.after, span.events)
  told : ∀ event ∈ span.events, event ∈ last.2
  rest : ∃ moves told, span.before.play moves = some (last.1, told)

/-- The sections that an offer makes in a run are cut from this run. -/
theorem cutFrom_of_play (order : InOrder capacity system)
    (found : system.calls.get? call = some stage) (offers : stage.Serves (.offer true))
    (run : system.play later = some result) :
    ∀ span ∈ system.spans call later, CutFrom capacity call span result := by
  induction later generalizing system stage result with
  | nil => simp [spans]
  | cons move moves inductionHypothesis =>
    obtain ⟨first, last, stepped, played, rfl⟩ := play_cons_eq_some.mp run
    have made : Section system move first := section_of_step order.parkedReady stepped
    have further (span : Span) (cut : CutFrom capacity call span last) :
        CutFrom capacity call span (last.1, first.2 ++ last.2) :=
      { cut with told := fun event held => List.mem_append_right _ (cut.told event held) }
    intro span member
    rcases offer_of_section made found offers with ⟨own, section_⟩ | ⟨foreign, stays⟩
    · rw [spans_cons stepped, if_pos own] at member
      rcases List.mem_cons.mp member with rfl | member
      · exact
          { order := order
            made := ⟨stage, found, section_⟩
            told := fun event held => List.mem_append_left _ held
            rest := ⟨move :: moves, _, run⟩ }
      · rcases section_.remains found with returned | ⟨later, found, offers⟩
        · have given : call < first.1.calls.next :=
            Nat.lt_of_lt_of_le (Register.lt_of_get? found) (next_le_of_section made)
          simp [spans_of_returned (order.of_section made) given returned played] at member
        · exact further span (inductionHypothesis (order.of_section made) found offers played
            span member)
    · simp only [spans_cons stepped, foreign, Bool.false_eq_true, if_false] at member
      exact further span (inductionHypothesis (order.of_section made) stays offers played
        span member)

/-- What a call is told in a run, it is told in a section of its own. -/
theorem span_of_told (order : InOrder capacity system) (run : system.play later = some result)
    {answer : Answer} (told : .returned call answer ∈ result.2) :
    ∃ span ∈ system.spans call later, .returned call answer ∈ span.events := by
  induction later generalizing system result with
  | nil =>
    obtain rfl := Option.some.inj run
    cases told
  | cons move moves inductionHypothesis =>
    obtain ⟨first, last, stepped, played, rfl⟩ := play_cons_eq_some.mp run
    have made : Section system move first := section_of_step order.parkedReady stepped
    rw [spans_cons stepped]
    rcases List.mem_append.mp told with now | later
    · rw [if_pos (isFor_of_returned made now)]
      exact ⟨_, List.mem_cons_self, now⟩
    · obtain ⟨span, member, told⟩ := inductionHypothesis (order.of_section made) played later
      refine ⟨span, ?_, told⟩
      split
      · exact List.mem_cons_of_mem _ member
      · exact member

/-- A call is told that its task was accepted, or what the executor says about it. -/
theorem OfferSection.told (made : OfferSection system call true stage move result)
    {answer : Answer} (told : .returned call answer ∈ result.2) :
    answer = .accepted ∨
      ∃ verdict, stage = .fallingBack ∧ move = .answer call verdict ∧
        answer = .ofVerdict verdict := by
  cases made with
  | claimed worker => simpa [handOver, reply] using told
  | passedOn falls verdict =>
    exact .inr ⟨verdict, rfl, rfl, by simpa [reply, Answer.ofVerdict] using told⟩
  | turnedDown | declined => simp [decline, giveBack] at told
  | _ => simp at told

/-- A worker that is given the task was the first of the parked ones. -/
theorem OfferSection.parked (made : OfferSection system call true stage move result)
    {worker : WorkerId} (claimed : .claimed worker call ∈ result.2) :
    system.roster.parked.head? = some worker := by
  cases made with
  | claimed other remaining running parked =>
    obtain rfl : worker = other := by simpa [handOver, reply] using claimed
    rw [parked, List.head?_cons]
  | turnedDown | declined => simp [decline, giveBack] at claimed
  | passedOn => simp [reply] at claimed
  | _ => simp at claimed

/-- Whatever the executor says about a task makes the call return with it. -/
theorem OfferSection.verdict {verdict : Option Refusal}
    (made : OfferSection system call true .fallingBack (.answer call verdict) result) :
    result = system.reply call (.ofVerdict verdict) := by
  cases made
  rfl

/-- A call that waits for the verdict about its task ends, and nothing else changes. -/
theorem OfferSection.settled (made : OfferSection system call true .fallingBack move result) :
    result.1 = { system with calls := system.calls.remove call } := by
  cases made <;> rfl

/-- That a loop was refused is counted, and nothing else. -/
theorem OfferSection.failed (made : OfferSection system call true stage move result)
    {worker : WorkerId} {refusal : Refusal} (told : .spawnFailed worker refusal ∈ result.2) :
    result.1 = (system.count .spawnFailures).setCall call (.countingDeclined true) := by
  cases made with
  | spawnFailed => rfl
  | turnedDown | declined => simp [decline, giveBack] at told
  | claimed => simp [handOver, reply] at told
  | passedOn => simp [reply] at told
  | _ => simp at told

/-- A loop that was dropped unrun has come to its end. -/
theorem discarded_of_play {number : WorkerId} (order : InOrder capacity system)
    (dropped : system.workers[number]?.map Worker.stage = some (.gone .discarded))
    (run : system.play moves = some result) :
    result.1.workers[number]?.map Worker.stage = some (.gone .discarded) := by
  let invariant (system : System) (_ : List Event) : Prop :=
    system.workers[number]?.map Worker.stage = some (.gone .discarded)
  refine (play_sections invariant [] moves ?_ order dropped run).2
  rintro move - system events result - gone made
  obtain ⟨⟨epoch, _⟩, found, rfl⟩ := Option.map_eq_some_iff.mp gone
  obtain ⟨after, stands, ⟨rfl | ⟨_, _, serving, _⟩, _⟩ | advance⟩ :=
    (crew_of_section made).worker found
  · simp [invariant, stands]
  · cases serving
  · generalize move.isWork = own at advance
    cases advance

/-- What happens to a task from its offer on is the history of one fate. -/
theorem history_of_offer {idleTimeout : Option Duration.Millis} {events : List Event}
    {fallsBack : Bool} (run : (fresh capacity idleTimeout).play moves = some (system, events))
    (offers : system.calls.get? call = some (.entering (.offer fallsBack)))
    (played : system.play later = some result) :
    ∃ fate : Fate, result.2.filter (·.concerns call) = fate.history call := by
  obtain ⟨before, kept⟩ := inCustody_of_play run call
  have nothing : events.filter (·.concerns call) = [] := by
    rw [kept.history, kept.call _ offers]
    rfl
  obtain ⟨fate, keeps⟩ := inCustody_of_play (play_append run played) call
  refine ⟨fate, ?_⟩
  have whole := keeps.history
  rwa [List.filter_append, nothing, List.nil_append] at whole

section History

variable {told : List Event} {fate : Fate}
variable (history : told.filter (·.concerns call) = fate.history call)
include history

/-- What is told of a task is in its history. -/
theorem told_iff_of_history (event : Event) (concerns : event.concerns call = true) :
    event ∈ told ↔ event ∈ fate.history call := by
  rw [← history, List.mem_filter]
  simp [concerns]

/-- A task is accepted when a worker is given it, and otherwise not. -/
theorem accepted_iff_claimed :
    .returned call .accepted ∈ told ↔ ∃ worker, .claimed worker call ∈ told := by
  have claimed (worker : WorkerId) :
      .claimed worker call ∈ told ↔ .claimed worker call ∈ fate.history call :=
    told_iff_of_history history _ (decide_eq_true rfl)
  rw [told_iff_of_history history (.returned call .accepted) (decide_eq_true rfl)]
  simp only [claimed]
  cases fate with
  | passed verdict => cases verdict <;> simp [Fate.history]
  | answered fault => cases fault <;> simp [Fate.history]
  | _ => simp [Fate.history]

/-- A task that is passed on is not accepted, and no worker begins it. -/
theorem withheld_of_passed (passed : .fellBack call ∈ told) :
    .returned call .accepted ∉ told ∧ ∀ worker, .began worker call ∉ told := by
  rw [told_iff_of_history history (.fellBack call) (decide_eq_true rfl)] at passed
  rw [told_iff_of_history history (.returned call .accepted) (decide_eq_true rfl)]
  have began (worker : WorkerId) :
      .began worker call ∈ told ↔ .began worker call ∈ fate.history call :=
    told_iff_of_history history _ (decide_eq_true rfl)
  simp only [began]
  cases fate with
  | passed verdict => cases verdict <;> simp [Fate.history]
  | passing => simp [Fate.history]
  | _ => simp [Fate.history] at passed

/-- Before its call answers a verdict, a task is passed on, once. -/
theorem passed_of_verdict {verdict : Option Refusal}
    (answered : .returned call (.ofVerdict verdict) ∈ told) : told.count (.fellBack call) = 1 := by
  have counted : (fate.history call).count (.fellBack call) = told.count (.fellBack call) := by
    rw [← history]
    exact List.count_filter (by simp [Event.concerns])
  rw [told_iff_of_history history (.returned call _) (decide_eq_true rfl)] at answered
  rw [← counted]
  cases fate with
  | passed given => cases given <;> simp [Fate.history]
  | answered fault =>
    cases fault <;> cases verdict <;> simp [Fate.history, Answer.ofVerdict] at answered
  | _ => cases verdict <;> simp [Fate.history, Answer.ofVerdict] at answered

end History

/-- The executor answers whatever the call submits, and it has dropped the worker loop that it
refuses. -/
structure Heeded (system : System) (call : Nat) (later : List Move) : Prop where
  returns : .breakOff call ∉ later
  drops : ∀ span ∈ system.spans call later, ∀ worker ∈ span.refused?,
    span.before.workers[worker]?.map Worker.stage = some (.gone .discarded)

/-- A task that may be passed on takes one route. -/
structure RoutedOnce (system : System) (call : Nat) (later : List Move) (last : System)
    (told : List Event) : Prop where
  /-- What the call does and tells is the beginning of a route, and the whole of it when the call
  has returned. -/
  route : ∃ route : Route, (system.spans call later).map Span.deed <+: route.deeds call ∧
    (last.calls.get? call = none → (system.spans call later).map Span.deed = route.deeds call)
  /-- Until it returns the call can go on, if the executor takes what it is given. -/
  goesOn : last.calls.get? call ≠ none →
    ∃ move ∈ [Move.proceed call, .answer call none], ∃ next, last.step move = some next
  /-- The task is accepted exactly when a worker has it, and that worker was parked. -/
  reserved : .returned call .accepted ∈ told ↔ ∃ worker, .claimed worker call ∈ told
  parked : ∀ span ∈ system.spans call later, ∀ worker, .claimed worker call ∈ span.events →
    span.before.roster.parked.head? = some worker
  /-- Then the task is not submitted. -/
  unsubmitted : .returned call .accepted ∈ told → .fellBack call ∉ told
  /-- Otherwise it is submitted once. -/
  submitted : ∀ answer, .returned call answer ∈ told → answer ≠ .accepted →
    told.count (.fellBack call) = 1
  /-- Then the answer is what the executor says about the task, and no worker runs it. -/
  verdict : ∀ verdict, .returned call (.ofVerdict verdict) ∈ told ↔
    ∃ span ∈ system.spans call later, span.before.calls.get? call = some .fallingBack ∧
      span.move = .answer call verdict
  unrun : .fellBack call ∈ told → ∀ worker, .began worker call ∉ told
  /-- Whatever the executor says about the task, it changes nothing but that the call returns. -/
  settled : ∀ span ∈ system.spans call later, span.before.calls.get? call = some .fallingBack →
    span.after = { span.before with calls := span.before.calls.remove call }
  /-- A plain offer in its place, in the same run without this answer, leaves the same roster,
  workers and tally, and the same dispatcher when the call has returned. -/
  plain : ∃ shorter told twin,
    (system.setCall call (.entering (.offer false))).play shorter = some (twin, told) ∧
      (shorter = later ∨ ∃ before verdict after,
        later = before ++ .answer call verdict :: after ∧ shorter = before ++ after) ∧
      twin.roster = last.roster ∧ twin.workers = last.workers ∧ twin.tally = last.tally ∧
      (last.calls.get? call = none → twin = last)
  /-- A loop that the executor refuses was dropped for good. -/
  dropped : ∀ span ∈ system.spans call later, ∀ worker refusal,
    span.before.calls.get? call = some (.submitting true worker) →
      span.move = .answer call (some refusal) →
        last.workers[worker]?.map Worker.stage = some (.gone .discarded)
  /-- So it holds no start slot, which only queued loops do. -/
  slots : last.roster.starting = last.workers.countP fun worker =>
    worker.stage = .queued ∧ worker.epoch = last.roster.epoch
  /-- Apart from that the refusal of a loop is only counted. -/
  failed : ∀ span ∈ system.spans call later, ∀ worker refusal,
    .spawnFailed worker refusal ∈ span.events →
      span.after = (span.before.count .spawnFailures).setCall call (.countingDeclined true)

/-- After every run, whatever follows, a task that may be passed on takes one route if the
executor heeds its call. -/
theorem play_routedOnce (capacity : Nat) (idleTimeout : Option Duration.Millis)
    (moves : List Move) (system : System) (events : List Event)
    (run : (fresh capacity idleTimeout).play moves = some (system, events)) (call : Nat)
    (offers : system.calls.get? call = some (.entering (.offer true))) (later : List Move)
    (last : System) (told : List Event) (played : system.play later = some (last, told))
    (heeded : system.Heeded call later) : system.RoutedOnce call later last told := by
  have order : InOrder capacity system := inOrder_of_play run
  have ordered : InOrder capacity last := inOrder_of_play (play_append run played)
  have cut := cutFrom_of_play order offers rfl played
  obtain ⟨fate, history⟩ := history_of_offer run offers played
  obtain ⟨deeds, onward, within, ended⟩ := onward_of_play order offers rfl heeded.returns played
  have section_of {span : Span} {stage : Call}
      (found : span.before.calls.get? call = some stage)
      (cut : CutFrom capacity call span (last, told)) :
      OfferSection span.before call true stage span.move (span.after, span.events) := by
    obtain ⟨held, stands, made⟩ := cut.made
    obtain rfl := Option.some.inj (found.symm.trans stands)
    exact made
  constructor
  case route =>
    obtain ⟨route, rfl⟩ := onward.exists_route
    refine ⟨route, within, fun gone => ?_⟩
    rcases ended with ⟨_, whole⟩ | ⟨stage, found, _⟩
    · exact whole
    · cases gone.symm.trans found
  case goesOn =>
    intro present
    rcases ended with ⟨gone, _⟩ | ⟨stage, found, serves⟩
    · exact absurd gone present
    · exact goesOn_of_offer found serves
  case reserved => exact accepted_iff_claimed history
  case parked =>
    intro span member worker taken
    obtain ⟨stage, found, made⟩ := (cut span member).made
    exact made.parked taken
  case unsubmitted => exact fun accepted passed => (withheld_of_passed history passed).1 accepted
  case submitted =>
    intro answer answered unaccepted
    obtain ⟨span, member, told_⟩ := span_of_told order played answered
    obtain ⟨stage, found, made⟩ := (cut span member).made
    obtain rfl | ⟨verdict, -, -, rfl⟩ := made.told told_
    · exact absurd rfl unaccepted
    · exact passed_of_verdict history ((cut span member).told _ told_)
  case verdict =>
    intro verdict
    constructor
    · intro answered
      obtain ⟨span, member, told_⟩ := span_of_told order played answered
      obtain ⟨stage, found, made⟩ := (cut span member).made
      rcases made.told told_ with accepted | ⟨given, rfl, moved, same⟩
      · cases verdict <;> cases accepted
      · obtain rfl := Answer.ofVerdict_inj.mp same
        exact ⟨span, member, found, moved⟩
    · rintro ⟨span, member, found, moved⟩
      have made := section_of found (cut span member)
      rw [moved] at made
      refine (cut span member).told _ ?_
      rw [(Prod.mk.inj made.verdict).2]
      exact List.mem_singleton_self _
  case unrun => exact fun passed => (withheld_of_passed history passed).2
  case settled => exact fun span member found => (section_of found (cut span member)).settled
  case plain =>
    have plainly : Plainly call system.calls
        (system.calls.put call (.entering (.offer false))) :=
      { given := rfl
        own := by rw [(Register.replaced_put offers _).own, offers]; rfl
        others := (Register.replaced_put offers _).others }
    obtain ⟨shorter, said, calls, run, finally_, cut⟩ :=
      plain_of_play order offers rfl plainly heeded.returns played
    refine ⟨shorter, said, _, run, cut, rfl, rfl, rfl, fun gone => ?_⟩
    rw [finally_.eq_of_returned gone]
    rfl
  case dropped =>
    intro span member worker refusal found moved
    have refused : worker ∈ span.refused? := by simp [Span.refused?, moved, found]
    obtain ⟨rest, _, played⟩ := (cut span member).rest
    exact discarded_of_play (cut span member).order
      (heeded.drops span member worker refused) played
  case slots => exact ordered.census.starting
  case failed =>
    intro span member worker refusal failed
    obtain ⟨stage, -, made⟩ := (cut span member).made
    exact made.failed failed

/-- A running dispatcher with room for one worker loop, and a task that may be passed on. -/
def firstTask : List Move := [.invoke .start, .proceed 0, .invoke (.offer true)]

/-- The executor drops the loop of this task. Before it says so another call creates a loop,
which the executor runs at once. Then it refuses the task as well. -/
def refusedTwice : List Move :=
  [.proceed 1, .discard 0, .invoke (.offer true), .proceed 2, .launch 1,
    .answer 1 (some (.queueFull 1)), .answer 2 none, .proceed 1, .proceed 1,
    .answer 1 (some .closed)]

/-- The task of this run was submitted once and refused, and the answer says why. -/
theorem refusedTwice_routedOnce :
    ∃ system events last told, (fresh 1 none).play firstTask = some (system, events) ∧
      system.calls.get? 1 = some (.entering (.offer true)) ∧
      system.play refusedTwice = some (last, told) ∧
      (system.spans 1 refusedTwice).map Span.deed =
        (Route.passedOn (some (0, some (.queueFull 1))) (some .closed)).deeds 1 ∧
      last.roster.parked = [1] ∧ last.tally.spawnFailures = 1 ∧ system.Heeded 1 refusedTwice ∧
      system.RoutedOnce 1 refusedTwice last told :=
  ⟨_, _, _, _, rfl, rfl, rfl, rfl, rfl, rfl, ⟨by decide, by decide⟩,
    play_routedOnce 1 none firstTask _ _ rfl 1 rfl refusedTwice _ _ rfl ⟨by decide, by decide⟩⟩

end System

end Standby.Dispatcher
