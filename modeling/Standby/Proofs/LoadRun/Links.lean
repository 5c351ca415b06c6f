import Standby.Proofs.LoadRun.Host
import Standby.Proofs.LoadRun.Turns

/-!
# Who waits for whom in a load run

Every call of the dispatcher was made by the main thread or by exactly one turn, and whoever
made it waits for its answer. So an answer is heard by one of them and by nobody else, and
suits what was asked.
-/

namespace Standby.Dispatcher

/-- A call has one request only. -/
theorem Call.Serves.unique {stage : Call} {request other : Request}
    (serves : stage.Serves request) (also : stage.Serves other) : request = other := by
  cases stage with
  | entering own => exact Eq.trans (Eq.symm serves) also
  | submitting own | countingSpawned own | countingRefused own | countingDeclined own =>
    cases request <;> cases other <;> simp_all [Call.Serves]
  | fallingBack | sleeping | woken | announcing =>
    cases request <;> cases other <;> simp_all [Call.Serves]

end Standby.Dispatcher

namespace Standby.LoadRun

open Dispatcher (Follows)

/-- The call of the dispatcher that the main thread waits for, and what it asks. -/
def Main.call? : Main → Option (Nat × Dispatcher.Request)
  | .callingStart call => some (call, .start)
  | .callingStop call => some (call, .stop)
  | _ => none

/-- The turn neither waits for an answer nor has one. -/
def Progress.isQuiet : Progress → Bool
  | .calling _ | .answered _ => false
  | _ => true

namespace System

variable {system next : System} {capacity : Nat} {moves : List (Pool.Move Hosted.Job)}
  {told : List Pool.Event}

/-- The dispatcher holds a call with this request. -/
def Holds (system : System) (call : Nat) (request : Dispatcher.Request) : Prop :=
  ∃ stage, system.host.dispatcher.calls.get? call = some stage ∧ stage.Serves request

/-- Whoever waits for the dispatcher has made a call, and all calls were made by somebody
who waits. -/
structure Linked (system : System) : Prop where
  distinct : Distinct system.turns
  turns : ∀ runner call, system.progress? runner = some (.calling call) →
    system.Holds call (.offer true)
  alone : ∀ runner other call, system.progress? runner = some (.calling call) →
    system.progress? other = some (.calling call) → runner = other
  main : ∀ call request, system.main.call? = some (call, request) → system.Holds call request
  callers : ∀ call stage, system.host.dispatcher.calls.get? call = some stage →
    (∃ request, system.main.call? = some (call, request)) ∨
      ∃ runner, system.progress? runner = some (.calling call)
  answered : ∀ runner answer, system.progress? runner = some (.answered answer) →
    answer.Suits (.offer true)

/-- Who hears what the dispatcher and the pool answer. -/
inductive Heard (system : System) (host : Hosted.System) :
    List (Nat × Dispatcher.Answer) → System → Prop where
  /-- The dispatcher answers nobody. The main thread may hear from the pool. -/
  | nothing (main : Main)
      (calls : ∀ call,
        Follows (system.host.dispatcher.calls.get? call) (host.dispatcher.calls.get? call))
      (turned : main = system.main ∨
        (∃ call, system.main = .callingClose call) ∧ main = .joining) :
    Heard system host [] { system with host := host, main := main }
  /-- A turn hears what has become of its offer. -/
  | turn (runner : Runner) (call : Nat) (answer : Dispatcher.Answer)
      (found : system.progress? runner = some (.calling call))
      (gone : host.dispatcher.calls.get? call = none)
      (others : ∀ other, other ≠ call →
        Follows (system.host.dispatcher.calls.get? other) (host.dispatcher.calls.get? other))
      (suits : answer.Suits (.offer true)) :
    Heard system host [(call, answer)]
      { system with host := host, turns := setIn system.turns runner (.answered answer) }
  /-- The main thread hears that the dispatcher was started or stopped. -/
  | main (call : Nat) (stage : Dispatcher.Call) (request : Dispatcher.Request)
      (answer : Dispatcher.Answer) (main : Main)
      (waits : system.main.call? = some (call, request))
      (turned : (request = .start ∧ main = .seeding system.chains) ∨
        (request = .stop ∧ main = .closing))
      (found : system.host.dispatcher.calls.get? call = some stage)
      (gone : host.dispatcher.calls.get? call = none)
      (others : ∀ other, other ≠ call →
        Follows (system.host.dispatcher.calls.get? other) (host.dispatcher.calls.get? other))
      (suits : answer.Suits request) :
    Heard system host [(call, answer)] { system with host := host, main := main }

/-- A call that goes on keeps its request. -/
theorem holds_of_follows {call : Nat} {request : Dispatcher.Request}
    (holds : system.Holds call request)
    (follows : Follows (system.host.dispatcher.calls.get? call)
      (next.host.dispatcher.calls.get? call)) : next.Holds call request := by
  obtain ⟨stage, found, serves⟩ := holds
  obtain ⟨later, stands⟩ : ∃ later, next.host.dispatcher.calls.get? call = later := ⟨_, rfl⟩
  rw [found, stands] at follows
  cases follows with
  | goesOn _ after still => exact ⟨after, stands, still request serves⟩

/-- A call that goes on was there before. -/
theorem found_of_follows {call : Nat} {later : Dispatcher.Call}
    (found : next.host.dispatcher.calls.get? call = some later)
    (follows : Follows (system.host.dispatcher.calls.get? call)
      (next.host.dispatcher.calls.get? call)) :
    ∃ stage, system.host.dispatcher.calls.get? call = some stage := by
  obtain ⟨held, stands⟩ : ∃ held, system.host.dispatcher.calls.get? call = held := ⟨_, rfl⟩
  rw [found, stands] at follows
  cases follows with
  | goesOn stage => exact ⟨stage, stands⟩

/-- Nobody waits for a call that has not been made. -/
theorem not_holds_next (system : System) (request : Dispatcher.Request) :
    ¬ system.Holds system.host.dispatcher.calls.next request := by
  rintro ⟨stage, found, -⟩
  rw [Register.get?_of_le _ (Nat.le_refl _)] at found
  cases found

/-- A new call has the request with which it was made. -/
theorem holds_invoked (system : System) (request : Dispatcher.Request) :
    (system.invoked request).Holds system.host.dispatcher.calls.next request :=
  ⟨.entering request, by simp [invoked, Register.get?_add], rfl⟩

/-- A new call leaves the others alone. -/
theorem holds_of_invoked {call : Nat} {request : Dispatcher.Request}
    (asked : Dispatcher.Request) (holds : system.Holds call request) :
    (system.invoked asked).Holds call request := by
  obtain ⟨stage, found, serves⟩ := holds
  have earlier : call ≠ system.host.dispatcher.calls.next := by
    rintro rfl
    exact not_holds_next system request ⟨stage, found, serves⟩
  exact ⟨stage, by simp [invoked, Register.get?_add, earlier, found], serves⟩

namespace Linked

/-- Nobody waits for a new dispatcher. -/
theorem fresh (dispatcher : Dispatcher.System) (pool : Pool.System Hosted.Job)
    (loops chains : Nat) (silent : dispatcher.calls = .empty) :
    (System.fresh (.fresh dispatcher pool) loops chains).Linked where
  distinct := List.nodup_nil
  turns _ _ calls := by cases calls
  alone _ _ _ calls := by cases calls
  main _ _ waits := by cases waits
  callers call stage found := by
    simp [System.fresh, Hosted.System.fresh, silent] at found
  answered _ _ hears := by cases hears

/-- The main thread and a turn do not wait for the same call. -/
theorem main_ne_turn (linked : system.Linked) {call other : Nat} {request : Dispatcher.Request}
    (waits : system.main.call? = some (call, request)) {runner : Runner}
    (calls : system.progress? runner = some (.calling other)) : other ≠ call := by
  rintro rfl
  obtain ⟨stage, found, serves⟩ := linked.main other request waits
  obtain ⟨also, stands, offers⟩ := linked.turns runner other calls
  obtain rfl : stage = also := Option.some.inj (found.symm.trans stands)
  obtain rfl := serves.unique offers
  cases main : system.main <;> simp_all [Main.call?]

/-- An answer is heard by whoever waits for it. -/
theorem heard (linked : system.Linked) {host : Hosted.System}
    {replies : List (Nat × Dispatcher.Answer)} (noted : Noted system host replies next) :
    Heard system host replies next := by
  cases noted with
  | silent main calls turned => exact .nothing main calls turned
  | answered call stage answer found gone others suits =>
    rcases linked.callers call stage found with ⟨request, waits⟩ | ⟨runner, calls⟩
    · obtain ⟨_, stands, serves⟩ := linked.main call request waits
      obtain rfl := Option.some.inj (stands.symm.trans found)
      have nobody (runner : Runner) : progressIn system.turns runner ≠ some (.calling call) :=
        fun calls => linked.main_ne_turn waits calls rfl
      rw [noteAnswer]
      dsimp only
      rw [map_unanswered linked.distinct nobody]
      cases main : system.main with
      | callingStart own =>
        obtain ⟨rfl, rfl⟩ : own = call ∧ .start = request := by simpa [main, Main.call?] using waits
        rw [if_pos rfl]
        exact .main own _ .start answer _ waits (.inl ⟨rfl, rfl⟩) found gone others
          (suits _ serves)
      | callingStop own =>
        obtain ⟨rfl, rfl⟩ : own = call ∧ .stop = request := by simpa [main, Main.call?] using waits
        rw [if_neg nofun, if_pos rfl]
        exact .main own _ .stop answer _ waits (.inr ⟨rfl, rfl⟩) found gone others
          (suits _ serves)
      | _ => simp [main, Main.call?] at waits
    · obtain ⟨_, stands, serves⟩ := linked.turns runner call calls
      obtain rfl := Option.some.inj (stands.symm.trans found)
      have alone (other : Runner) (also : progressIn system.turns other = some (.calling call)) :
          other = runner := linked.alone other runner call also calls
      have away (request : Dispatcher.Request) : system.main.call? ≠ some (call, request) :=
        fun waits => linked.main_ne_turn waits calls rfl
      have starts : system.main ≠ .callingStart call := fun main => away .start (by rw [main]; rfl)
      have stops : system.main ≠ .callingStop call := fun main => away .stop (by rw [main]; rfl)
      rw [noteAnswer]
      dsimp only
      rw [map_answered linked.distinct calls alone, if_neg starts, if_neg stops]
      exact .turn runner call answer calls gone others (suits _ serves)

/-- The links stay when nobody comes to wait or ceases to. -/
theorem keep (linked : system.Linked) (distinct : Distinct next.turns)
    (calls : next.host.dispatcher.calls = system.host.dispatcher.calls)
    (main : next.main.call? = system.main.call?)
    (waiting : ∀ runner call, next.progress? runner = some (.calling call) ↔
      system.progress? runner = some (.calling call))
    (hearing : ∀ runner answer, next.progress? runner = some (.answered answer) →
      system.progress? runner = some (.answered answer)) : next.Linked where
  distinct := distinct
  turns runner call waits := by
    rw [Holds, calls]
    exact linked.turns runner call ((waiting runner call).mp waits)
  alone runner other call waits also :=
    linked.alone runner other call ((waiting runner call).mp waits) ((waiting other call).mp also)
  main call request waits := by
    rw [Holds, calls]
    exact linked.main call request (main ▸ waits)
  callers call stage found := by
    rw [main]
    rcases linked.callers call stage (calls ▸ found) with waits | ⟨runner, waits⟩
    · exact .inl waits
    · exact .inr ⟨runner, (waiting runner call).mpr waits⟩
  answered runner answer hears := linked.answered runner answer (hearing runner answer hears)

/-- The links stay when a turn goes on that does not wait, and will not. -/
theorem keep_turn (linked : system.Linked) {runner : Runner} {progress later : Progress}
    (found : system.progress? runner = some progress)
    (idle : ∀ call, progress ≠ .calling call) (quiet : later.isQuiet = true)
    (turns : next.turns = setIn system.turns runner later)
    (calls : next.host.dispatcher.calls = system.host.dispatcher.calls)
    (main : next.main.call? = system.main.call?) : next.Linked := by
  have moved (other : Runner) : next.progress? other =
      if other = runner then some later else system.progress? other :=
    (congrArg (progressIn · other) turns).trans (progressIn_setIn found other)
  refine linked.keep (turns ▸ distinct_setIn linked.distinct) calls main
    (fun other call => ?_) fun other answer hears => ?_
  · rw [moved]
    split
    · rename_i same
      subst same
      rw [found]
      constructor
      · intro waits
        rw [Option.some.inj waits] at quiet
        cases quiet
      · intro waits
        exact absurd (Option.some.inj waits) (idle call)
    · exact Iff.rfl
  · rw [moved] at hears
    split at hears
    · rw [Option.some.inj hears] at quiet
      cases quiet
    · exact hears

/-- The links stay when a turn is done with that does not wait. -/
theorem keep_drop (linked : system.Linked) {runner : Runner} {progress : Progress}
    (found : system.progress? runner = some progress)
    (idle : ∀ call, progress ≠ .calling call)
    (turns : next.turns = dropIn system.turns runner)
    (calls : next.host.dispatcher.calls = system.host.dispatcher.calls)
    (main : next.main.call? = system.main.call?) : next.Linked := by
  have moved (other : Runner) : next.progress? other =
      if other = runner then none else system.progress? other :=
    (congrArg (progressIn · other) turns).trans (progressIn_dropIn _ runner other)
  refine linked.keep (turns ▸ distinct_dropIn linked.distinct) calls main
    (fun other call => ?_) fun other answer hears => ?_
  · rw [moved]
    split
    · rename_i same
      subst same
      rw [found]
      exact ⟨nofun, fun waits => absurd (Option.some.inj waits) (idle call)⟩
    · exact Iff.rfl
  · rw [moved] at hears
    split at hears
    · cases hears
    · exact hears

/-- The links stay when only the main thread goes on and does not come to wait. -/
theorem keep_main (linked : system.Linked) (turns : next.turns = system.turns)
    (calls : next.host.dispatcher.calls = system.host.dispatcher.calls)
    (main : next.main.call? = system.main.call?) : next.Linked := by
  have still (other : Runner) : next.progress? other = system.progress? other :=
    congrArg (progressIn · other) turns
  refine linked.keep (turns ▸ linked.distinct) calls main (fun other call => ?_)
    fun other answer hears => ?_
  · rw [still]
  · rwa [still] at hears

/-- The main thread calls the dispatcher. -/
theorem of_main (linked : system.Linked) (idle : system.main.call? = none)
    (request : Dispatcher.Request) {main : Main}
    (waits : main.call? = some (system.host.dispatcher.calls.next, request)) :
    Linked { system.invoked request with main := main } where
  distinct := linked.distinct
  turns runner call calls := holds_of_invoked request (linked.turns runner call calls)
  alone := linked.alone
  main call asked also := by
    obtain ⟨rfl, rfl⟩ : _ = call ∧ request = asked := by
      simpa using Option.some.inj (waits.symm.trans also)
    exact holds_invoked system request
  callers call stage found := by
    simp only [invoked, Register.get?_add] at found
    split at found
    · rename_i same
      exact .inl ⟨request, same ▸ waits⟩
    · rcases linked.callers call stage found with ⟨_, before⟩ | turn
      · rw [idle] at before
        cases before
      · exact .inr turn
  answered := linked.answered

/-- A turn calls the dispatcher with its offer. -/
theorem of_offer (linked : system.Linked) {runner : Runner}
    (found : system.progress? runner = some .offering) :
    ((system.invoked (.offer true)).setProgress runner
      (.calling system.host.dispatcher.calls.next)).Linked := by
  have moved (other : Runner) :
      ((system.invoked (.offer true)).setProgress runner
        (.calling system.host.dispatcher.calls.next)).progress? other =
        if other = runner then some (.calling system.host.dispatcher.calls.next)
        else system.progress? other := progressIn_setIn found other
  have fresh (other : Runner) :
      system.progress? other ≠ some (.calling system.host.dispatcher.calls.next) :=
    fun calls => not_holds_next system _ (linked.turns other _ calls)
  refine
    { distinct := distinct_setIn linked.distinct
      turns := fun other call calls => ?_
      alone := fun first second call calls also => ?_
      main := fun call request waits => holds_of_invoked _ (linked.main call request waits)
      callers := fun call stage held => ?_
      answered := fun other answer hears => ?_ }
  · rw [moved] at calls
    split at calls
    · cases calls
      exact holds_invoked system (.offer true)
    · exact holds_of_invoked (.offer true) (linked.turns other call calls)
  · rw [moved] at calls also
    split at calls <;> split at also
    · simp_all
    · cases calls
      exact absurd also (fresh second)
    · cases also
      exact absurd calls (fresh first)
    · exact linked.alone first second call calls also
  · simp only [invoked, setProgress, Register.get?_add] at held
    split at held
    · rename_i same
      exact .inr ⟨runner, by rw [moved, if_pos rfl, same]⟩
    · rcases linked.callers call stage held with main | ⟨other, calls⟩
      · exact .inl main
      · refine .inr ⟨other, ?_⟩
        rw [moved, if_neg]
        · exact calls
        · rintro rfl
          cases found.symm.trans calls
  · rw [moved] at hears
    split at hears
    · cases hears
    · exact linked.answered other answer hears

/-- Where nobody is answered everybody waits on. -/
theorem of_silence (linked : system.Linked) {host : Hosted.System} {main : Main}
    (calls : ∀ call,
      Follows (system.host.dispatcher.calls.get? call) (host.dispatcher.calls.get? call))
    (waits : main.call? = system.main.call?) :
    Linked { system with host := host, main := main } where
  distinct := linked.distinct
  turns runner call waiting := holds_of_follows (linked.turns runner call waiting) (calls call)
  alone := linked.alone
  main call request waiting :=
    holds_of_follows (linked.main call request (waits ▸ waiting)) (calls call)
  callers call stage found := by
    obtain ⟨before, held⟩ := found_of_follows found (calls call)
    rw [waits]
    exact linked.callers call before held
  answered := linked.answered

/-- The turn that is answered ceases to wait. -/
theorem of_turn (linked : system.Linked) {host : Hosted.System} {runner : Runner} {call : Nat}
    {answer : Dispatcher.Answer} (found : system.progress? runner = some (.calling call))
    (gone : host.dispatcher.calls.get? call = none)
    (others : ∀ other, other ≠ call →
      Follows (system.host.dispatcher.calls.get? other) (host.dispatcher.calls.get? other))
    (suits : answer.Suits (.offer true)) :
    Linked { system with host := host, turns := setIn system.turns runner (.answered answer) } := by
  have moved (other : Runner) :
      progressIn (setIn system.turns runner (.answered answer)) other =
        if other = runner then some (.answered answer) else system.progress? other :=
    progressIn_setIn found other
  refine
    { distinct := distinct_setIn linked.distinct
      turns := fun other own calls => ?_
      alone := fun first second own calls also => ?_
      main := fun own request waits => ?_
      callers := fun own stage held => ?_
      answered := fun other own hears => ?_ }
  · rw [progress?, ← progressIn, moved] at calls
    split at calls
    · cases calls
    · rename_i different
      have away : own ≠ call := by
        rintro rfl
        exact different (linked.alone other runner own calls found)
      exact holds_of_follows (linked.turns other own calls) (others own away)
  · rw [progress?, ← progressIn, moved] at calls also
    split at calls <;> split at also
    · cases calls
    · cases calls
    · cases also
    · exact linked.alone first second own calls also
  · have away : own ≠ call := Ne.symm (linked.main_ne_turn waits found)
    exact holds_of_follows (linked.main own request waits) (others own away)
  · have away : own ≠ call := by
      rintro rfl
      cases gone.symm.trans held
    obtain ⟨before, stands⟩ := found_of_follows held (others own away)
    rcases linked.callers own before stands with main | ⟨other, calls⟩
    · exact .inl main
    · refine .inr ⟨other, ?_⟩
      rw [progress?, ← progressIn, moved, if_neg]
      · exact calls
      · rintro rfl
        exact away (Progress.calling.inj (Option.some.inj (calls.symm.trans found)))
  · rw [progress?, ← progressIn, moved] at hears
    split at hears
    · cases hears
      exact suits
    · exact linked.answered other own hears

/-- The main thread ceases to wait when it is answered. -/
theorem of_reply (linked : system.Linked) {host : Hosted.System} {main : Main} {call : Nat}
    {request : Dispatcher.Request} (waits : system.main.call? = some (call, request))
    (silent : main.call? = none) (gone : host.dispatcher.calls.get? call = none)
    (others : ∀ other, other ≠ call →
      Follows (system.host.dispatcher.calls.get? other) (host.dispatcher.calls.get? other)) :
    Linked { system with host := host, main := main } where
  distinct := linked.distinct
  turns runner own calls :=
    holds_of_follows (linked.turns runner own calls)
      (others own (linked.main_ne_turn waits calls))
  alone := linked.alone
  main own asked also := by
    rw [show Main.call? _ = none from silent] at also
    cases also
  callers own later held := by
    have away : own ≠ call := by
      rintro rfl
      cases gone.symm.trans held
    obtain ⟨before, stands⟩ := found_of_follows held (others own away)
    rcases linked.callers own before stands with ⟨asked, also⟩ | turn
    · exact absurd (congrArg Prod.fst (Option.some.inj (also.symm.trans waits))) away
    · exact .inr turn
  answered := linked.answered

/-- Whoever hears an answer ceases to wait. -/
theorem of_heard (linked : system.Linked) {host : Hosted.System}
    {replies : List (Nat × Dispatcher.Answer)} (heard : Heard system host replies next) :
    next.Linked := by
  cases heard with
  | nothing main calls turned =>
    refine linked.of_silence calls ?_
    rcases turned with rfl | ⟨⟨call, closes⟩, rfl⟩
    · rfl
    · rw [closes]
      rfl
  | turn runner call answer found gone others suits =>
    exact linked.of_turn found gone others suits
  | main call stage request answer main waits turned found gone others suits =>
    have silent : main.call? = none := by
      rcases turned with ⟨-, rfl⟩ | ⟨-, rfl⟩ <;> rfl
    exact linked.of_reply waits silent gone others

end Linked

/-- What a turn of a task knows it still knows after an answer that is not for it. -/
theorem progress?_of_heard {host : Hosted.System} {replies : List (Nat × Dispatcher.Answer)}
    (heard : Heard system host replies next) {runner : Runner} {progress : Progress}
    (found : system.progress? runner = some progress) (idle : ∀ call, progress ≠ .calling call) :
    next.progress? runner = some progress := by
  cases heard with
  | nothing | main => exact found
  | turn other call answer calls =>
    have different : runner ≠ other := by
      rintro rfl
      exact idle call (Option.some.inj (found.symm.trans calls))
    exact (progressIn_setIn_of_ne different).trans found

/-- A move of the dispatcher or the pool that begins no call is heard by those who wait. -/
theorem heard_of_step (linked : system.Linked)
    (order : Hosted.System.InOrder capacity moves system.host told) {move : Hosted.Move}
    {host : Hosted.System} {events : List Hosted.Event}
    (made : system.host.step move = some (host, events))
    (begun : ∀ request, move ≠ .dispatcher (.invoke request)) :
    Heard system host ((hosted events).filterMap Dispatcher.Event.reply?)
      (system.noting host events) :=
  linked.heard (noted_of_step order made begun)

/-- A move that does not call begins no call. -/
theorem Plain.begins_nothing {move : Hosted.Move} (plain : system.Plain move)
    (request : Dispatcher.Request) : move ≠ .dispatcher (.invoke request) := by
  rintro rfl
  exact plain

/-- The end of a task begins no call. -/
theorem Ends.begins_nothing {move : Hosted.Move} {task : Dispatcher.Task}
    (ends : system.Ends move task) (request : Dispatcher.Request) :
    move ≠ .dispatcher (.invoke request) := by
  rintro rfl
  cases ends

/-- Every section keeps the links. -/
theorem Linked.of_section (linked : system.Linked)
    (order : Hosted.System.InOrder capacity moves system.host told) {move : Move}
    {result : System × List Event} (made : Section system move result) : result.1.Linked := by
  cases made with
  | began runner idle due =>
    have moved (other : Runner) : progressIn (⟨runner, .claiming⟩ :: system.turns) other =
        if runner = other then some .claiming else system.progress? other :=
      progressIn_cons _ _ other
    refine linked.keep (distinct_cons linked.distinct idle) rfl rfl (fun other call => ?_)
      fun other answer hears => ?_
    · rw [progress?, ← progressIn, moved]
      split
      · rename_i same
        subst same
        rw [idle]
        simp
      · exact Iff.rfl
    · rw [progress?, ← progressIn, moved] at hears
      split at hears
      · cases hears
      · exact hears
  | exhausted runner found empty => exact linked.keep_turn found (by simp) rfl rfl rfl rfl
  | claimed runner found left => exact linked.keep_turn found (by simp) rfl rfl rfl rfl
  | offered runner found held => exact linked.of_offer found
  | counted runner answer found =>
    cases answer <;> exact linked.keep_turn found (by simp) rfl rfl rfl rfl
  | signalled runner found => exact linked.keep_turn found (by simp) rfl rfl rfl rfl
  | chained chains found seeding =>
    exact linked.keep_drop found (by simp) rfl rfl (by rw [seeding]; rfl)
  | hosted own host events plain stepped =>
    exact linked.of_heard (heard_of_step linked order stepped plain.begins_nothing)
  | finished own task host events ends ended stepped =>
    have heard := heard_of_step linked order stepped ends.begins_nothing
    have spent : system.progress? (.task task) = some .spent := by simpa [isOver] using ended
    exact (linked.of_heard heard).keep_drop (progress?_of_heard heard spent (by simp)) (by simp)
      rfl rfl rfl
  | starting main held => exact linked.of_main (by rw [main]; rfl) .start rfl
  | stopping main held => exact linked.of_main (by rw [main]; rfl) .stop rfl
  | seeded main | closing main | joined main | gaveUp main =>
    exact linked.keep_main rfl rfl (by rw [main]; rfl)
  | sawAll main => exact linked.keep_main rfl rfl (by rw [main]; rfl)
  | watched => exact linked.keep_main rfl rfl rfl

end System

end Standby.LoadRun
