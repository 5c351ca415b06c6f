import Standby.Proofs.LoadRun.Length
import Standby.Proofs.LoadRun.Progress
import Standby.Proofs.Settings.Reading

/-!
# Chains that are conserved

In every load run that settings ask for, each chain that was begun is with one live step, or has
ended with a failed dispatch or an empty budget. So when no step is live and the budget is not
empty, all chains have ended with failed dispatches. Before that, and before all dispatches are
counted, the run goes on without waiting for a clock; and since no run has more moves than its
settings allow, it does not go on in vain.
-/

namespace Standby.LoadRun

namespace System

variable {capacity loops chains threads : Nat} {made : List Move} {system next : System}
  {deeds : List (Runner × Deed)} {events : List Event} {move : Move}
  {result : System × List Event}

/-- The number of chains stays. -/
theorem chains_of_section {moves : List (Pool.Move Hosted.Job)} {told : List Pool.Event}
    (linked : system.Linked) (order : Hosted.System.InOrder capacity moves system.host told)
    (made : Section system move result) : result.1.chains = system.chains := by
  have unheard {next : System} {host : Hosted.System} {answers : List (Nat × Dispatcher.Answer)}
      (heard : Heard system host answers next) : next.chains = system.chains := by
    cases heard <;> rfl
  cases made with
  | counted runner answer => cases answer <;> rfl
  | hosted own host happened plain stepped =>
    exact unheard (heard_of_step linked order stepped plain.begins_nothing)
  | finished own task host happened ends ended stepped =>
    have same := unheard (heard_of_step linked order stepped ends.begins_nothing)
    exact same
  | _ => rfl

/-- Everything that is known of the chains after the given moves, deeds and events. -/
structure Traced (capacity loops chains threads : Nat) (made : List Move) (system : System)
    (deeds : List (Runner × Deed)) (events : List Event) : Prop where
  order : InOrder capacity loops system deeds events
  tracked : system.host.Tracked
  sought : system.host.Sought
  sound : system.host.Sound
  timed : system.host.dispatcher.Timed
  staff : system.host.pool.threads.length = threads
  chains : system.chains = chains
  chained : Chained (seeds made) (events.countP Event.isExhausted) system
  paid : Paid threads made system deeds events

namespace Traced

/-- A load run is traced from its beginning on. -/
theorem fresh (capacity threads queueCapacity loops chains : Nat)
    (idleTimeout : Option Duration.Millis) : Traced capacity loops chains threads []
      (.fresh (.fresh (.fresh capacity idleTimeout) (.fresh threads queueCapacity)) loops chains)
      [] [] where
  order := .fresh capacity threads queueCapacity loops chains idleTimeout
  tracked := .fresh capacity threads queueCapacity idleTimeout
  sought := .fresh capacity threads queueCapacity idleTimeout
  sound := .fresh (.fresh capacity idleTimeout) threads queueCapacity
  timed := nofun
  staff := List.length_replicate
  chains := rfl
  chained := .fresh capacity threads queueCapacity loops chains idleTimeout
  paid := .fresh capacity threads queueCapacity loops chains idleTimeout

/-- Every section leaves a load run traced. -/
theorem of_section (traced : Traced capacity loops chains threads made system deeds events)
    (section_made : Section system move result) :
    Traced capacity loops chains threads (made ++ [move]) result.1
      (deeds ++ (system.deed? move).toList) (events ++ result.2) := by
  obtain ⟨moves, told, host⟩ := traced.order.host
  have linked := traced.order.linked
  have hosts (kept : Hosted.System → Prop) (before : kept system.host)
      (steps : ∀ own after happened, Hosted.System.Loyal own → system.host.TaskReturns own →
        system.host.step own = some (after, happened) → kept after) : kept result.1.host := by
    rcases loyal_of_section section_made with same | ⟨own, happened, loyal, returns, stepped⟩
    · rwa [same]
    · exact steps own _ happened loyal returns stepped
  exact
    { order := traced.order.of_section section_made
      tracked := hosts _ traced.tracked fun own after happened loyal _ stepped =>
        traced.tracked.of_recorded host.dispatcher
          (Hosted.System.recorded_of_step traced.tracked.poolHeld stepped) loyal
      sought := hosts _ traced.sought fun own after happened _ _ stepped =>
        traced.sought.of_recorded traced.tracked.filed host
          (Hosted.System.recorded_of_step traced.tracked.poolHeld stepped)
      sound := hosts _ traced.sound fun own after happened _ returns stepped =>
        traced.sound.of_section traced.tracked.filed traced.order.unfailed
          (Hosted.System.section_of_step stepped) returns
      timed := by
        rcases dispatcher_of_section section_made with ⟨same, -⟩ | ⟨own, -, stepped⟩
        · rw [same]
          exact traced.timed
        · exact Dispatcher.System.timed_of_crew traced.timed (Dispatcher.System.crew_of_section
            (Dispatcher.System.section_of_step host.dispatcher.parkedReady stepped))
      staff := hosts (·.pool.threads.length = threads) traced.staff
        fun own after happened _ _ stepped => Eq.trans (Hosted.System.length_threads_of_section
          (Hosted.System.section_of_step stepped)) traced.staff
      chains := (chains_of_section linked host section_made).trans traced.chains
      chained := by
        rw [seeds, List.count_append, List.countP_append]
        exact traced.chained.of_section linked host traced.tracked section_made
      paid := traced.paid.of_section linked host section_made }

end Traced

/-- The chains of a load run are conserved, and it does not stall. -/
structure ConservesChains (settings : Settings) (made : List Move) (system : System)
    (events : List Event) : Prop where
  /-- No step is counted twice. -/
  distinct : system.live.Nodup
  /-- Every chain that was begun has a live step, or has ended with a failed dispatch or by an
  empty budget. -/
  conserved : system.live.length + system.failed + events.countP Event.isExhausted = seeds made
  /-- When all chains were begun, no step is live and something is left of the budget, every chain
  has ended with a failed dispatch. -/
  ended : seeds made = settings.load.chains → system.live = [] → 0 < system.remaining →
    system.failed = settings.load.chains
  /-- As long as fewer dispatches than chains have failed, the run goes on without waiting for a
  clock until all dispatches are counted. -/
  goesOn : system.failed < settings.load.chains → system.counted < settings.load.loops →
    ∃ move, move.isPrompt = true ∧ system.Can move
  /-- It does not go on forever. -/
  short : made.length ≤ 123 * settings.load.loops + 3 * settings.load.chains +
    2 * settings.backing.threads + 62

/-- The chains of every load run are conserved, and it does not stall. -/
theorem play_conservesChains (environment : Settings.Environment) (processors : Nat)
    (present : 0 < processors) (settings : Settings)
    (accepted : Settings.read environment processors = .ok settings) (made : List Move)
    (system : System) (events : List Event)
    (run : (ofSettings settings).play made = some (system, events)) :
    system.ConservesChains settings made events := by
  let capacity := settings.reserved.capacity
  let loops := settings.load.loops
  let chains := settings.load.chains
  let threads := settings.backing.threads
  have start : Traced capacity loops chains threads [] (ofSettings settings) [] [] :=
    .fresh capacity threads settings.backing.queueCapacity loops chains
      settings.reserved.idleTimeout
  have traced : Traced capacity loops chains threads made system
      ((ofSettings settings).deeds made) events :=
    play_history (Traced capacity loops chains threads)
      (fun _ _ _ _ _ _ traced section_made => traced.of_section section_made) [] [] [] start run
  have sound := Settings.sound_of_read present accepted
  have enough : capacity < system.host.pool.threads.length := by
    have positive := sound.threads
    rw [traced.staff]
    rcases sound.capacity with none | fewer
    · exact Nat.lt_of_le_of_lt (Nat.le_of_eq none) positive
    · exact fewer
  have order := traced.order
  have short := length_le traced.paid order traced.tracked.housed traced.sound traced.chained
  rw [traced.chains] at short
  have conserved :=
    length_live traced.chained order.linked order.seated traced.tracked.housed traced.sound
  refine
    { distinct := nodup_live traced.tracked.housed
      conserved := conserved
      ended := fun begun dead left => ?_
      goesOn := fun few more => exists_prompt order traced.chained traced.tracked traced.sought
        traced.timed traced.sound enough (traced.chains ▸ few) more
      short := short }
  have unspent : events.countP Event.isExhausted = 0 :=
    Nat.eq_zero_of_not_pos fun some => Nat.ne_of_gt left (traced.chained.spent some)
  rw [dead, unspent, begun] at conserved
  simpa using conserved

/-- Settings for three dispatches over two chains, with one worker over two threads. -/
def modest : Settings.Environment :=
  ⟨[("BACKING_THREADS", "2".toUTF8), ("BACKING_QUEUE_CAPACITY", "1".toUTF8),
    ("RESERVED_THREADS", "1".toUTF8), ("RESERVED_IDLE_TIMEOUT", "off".toUTF8),
    ("STRESS_LOOPS", "3".toUTF8), ("STRESS_CHAINS", "2".toUTF8)]⟩

set_option maxRecDepth 4000 in
/-- One chain has ended with a failed dispatch. The pool has taken the next task of the other, whose
turn does not know so yet and has its chain no more. -/
theorem threeWays_conservesChains :
    ∃ settings system events, 0 < 4 ∧ Settings.read modest 4 = .ok settings ∧
      (ofSettings settings).play (threeWays.take 47) = some (system, events) ∧
      system.live = [.task 4] ∧ system.progress? (.task 2) = some (.calling 4) ∧
      system.failed = 1 ∧ system.counted = 2 ∧
      system.ConservesChains settings (threeWays.take 47) events :=
  ⟨{ smallSettings with logging := ⟨"reserved_dispatch=info", .text, "reserved_dispatch"⟩ }, _, _,
    by decide, by decide +kernel, rfl, by decide, by decide, rfl, rfl,
    play_conservesChains modest 4 (by decide) _ (by decide +kernel) (threeWays.take 47) _ _ rfl⟩

end System

end Standby.LoadRun
