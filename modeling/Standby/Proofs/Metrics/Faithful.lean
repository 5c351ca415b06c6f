import Standby.Proofs.Decimal.Whole
import Standby.Proofs.Metrics.Exposition
import Standby.Proofs.Metrics.Observation

/-!
# Faithful metrics

What the metrics of a dispatcher show follows from its own observations alone: a counter the
highest total that was ever observed, a gauge the last level. So late, repeated and reordered
observations do no harm, and the exposition has one sample for each metric of each observed
dispatcher. All of this takes for granted that each dispatcher gets a series of its own when it
is observed for the first time.
-/

namespace Standby

open Dispatcher

namespace Metric

/-- Every metric is among them. -/
theorem mem_all (metric : Metric) : metric ∈ all := by
  cases metric with
  | gauge level => cases level <;> decide
  | counter count => cases count <;> decide

/-- No two metrics have one name. -/
theorem names_nodup : (all.map name).Nodup := by decide +kernel

end Metric

namespace Metrics

/-- What a metric of a dispatcher shows, if the dispatcher has a series. -/
def shown? (metrics : Metrics) (dispatcher : String) (metric : Metric) : Option Int :=
  (metrics.find? dispatcher).map (·.value metric)

/-- The totals of a count that were seen of one dispatcher, the first first. -/
def totalsOf (observations : List Observation) (dispatcher : String) (count : Count) : List Nat :=
  (seenOf dispatcher observations).map (·.tally.get count)

/-- The numbers of an observation are words of 64 bits. -/
structure Observation.InWords (seen : Observation) : Prop where
  levels : ∀ level, seen.snapshot.level level < Nat.pow 2 64
  totals : ∀ count, seen.snapshot.tally.get count < Nat.pow 2 64

/-- The metrics tell what was observed of some dispatchers. -/
structure Faithful (dispatchers : List String) (observations : List Observation) : Prop where
  /-- A counter shows the highest total that was observed. -/
  counters : ∀ dispatcher ∈ dispatchers, ∀ count,
    (observed observations).shown? dispatcher (.counter count) =
      (totalsOf observations dispatcher count).max?.map Int.ofNat
  /-- A gauge shows the level that was observed last, read as a signed word of 64 bits. -/
  gauges : ∀ dispatcher ∈ dispatchers, ∀ level,
    (observed observations).shown? dispatcher (.gauge level) =
      (seenOf dispatcher observations).getLast?.map fun snapshot =>
        (BitVec.ofNat 64 (snapshot.level level)).toInt
  /-- Every counter is advanced to a word of 64 bits, from where it stood or from zero. -/
  noOverflow : ∀ earlier seen later, observations = earlier ++ seen :: later → ∀ count,
    (Series.advance (((observed earlier).find? seen.dispatcher).getD
      (.fresh seen.dispatcher)).totals seen.snapshot.tally).get count < Nat.pow 2 64
  /-- No counter goes back, in whatever order the snapshots were taken. -/
  neverBack : ∀ earlier later, observations = earlier ++ later → ∀ dispatcher ∈ dispatchers,
    ∀ count before, (observed earlier).shown? dispatcher (.counter count) = some before →
      ∃ after, (observed observations).shown? dispatcher (.counter count) = some after ∧
        before ≤ after
  /-- What is observed twice in a row is observed once. -/
  repeated : ∀ earlier seen later, observations = earlier ++ seen :: later →
    observed (earlier ++ seen :: seen :: later) = observed observations
  /-- Observations of two dispatchers can change places. -/
  exchanged : ∀ earlier one other later, observations = earlier ++ one :: other :: later →
    one.dispatcher ≠ other.dispatcher →
    observed (earlier ++ other :: one :: later) = observed observations
  /-- The series of a dispatcher is what its own observations leave. -/
  own : ∀ dispatcher ∈ dispatchers, (observed observations).find? dispatcher =
    (observed (observations.filter (·.dispatcher = dispatcher))).find? dispatcher
  /-- The exposition has a sample for each metric of each observed dispatcher, with the number
  nearest to what the metric shows, and no other sample. -/
  exported : ∀ sample, sample ∈ readSamples (observed observations).exposition ↔
    ∃ metric, ∃ dispatcher ∈ names observations, ∃ value,
      (observed observations).shown? dispatcher metric = some value ∧
        sample = ⟨metric.name, dispatcher, (Decimal.Binary.ofInt value).sample⟩
  /-- No metric of a dispatcher has two samples. -/
  once : ((readSamples (observed observations).exposition).map fun sample =>
    (sample.metric, sample.dispatcher)).Nodup
  /-- Up to 2 to the power of 53 a sample has the very number that the metric shows. -/
  precise : ∀ metric, ∀ dispatcher ∈ names observations, ∀ value,
    (observed observations).shown? dispatcher metric = some value →
    value.natAbs ≤ Nat.pow 2 53 →
    ⟨metric.name, dispatcher, toString value⟩ ∈ readSamples (observed observations).exposition

section Summary

variable {observations : List Observation} {dispatcher : String}

/-- What was observed first is among what was observed. -/
theorem names_subset_append (earlier later : List Observation) :
    names earlier ⊆ names (earlier ++ later) := by
  simp [names]

/-- A dispatcher was observed when something was seen of it. -/
theorem seenOf_eq_nil : seenOf dispatcher observations = [] ↔ dispatcher ∉ names observations := by
  simp [seenOf, names]

/-- A signed word is read as usual. -/
theorem toInt_word (word : Nat) : (BitVec.ofNat 64 word).toInt = signedWord word := by
  rw [BitVec.toInt_ofNat', signedWord, wordSize, Nat.pow_eq]

/-- A counter of the summary is the highest of its totals. -/
theorem totals_summary (seen : dispatcher ∈ names observations) (count : Count) :
    (totalsOf observations dispatcher count).max? =
      some ((summary dispatcher observations).totals.get count) := by
  have folded (snapshots : List Snapshot) (series : Series) :
      (snapshots.foldl Series.observe series).totals.get count =
        (snapshots.map (·.tally.get count)).foldl max (series.totals.get count) := by
    induction snapshots generalizing series with
    | nil => rfl
    | cons first rest inductionHypothesis =>
      rw [List.foldl_cons, inductionHypothesis, Series.totals_observe, List.map_cons,
        List.foldl_cons]
  obtain ⟨first, rest, same⟩ := List.exists_cons_of_ne_nil (mt seenOf_eq_nil.mp (not_not.mpr seen))
  rw [totalsOf, summary, folded, same, List.map_cons, List.max?_cons', List.foldl_cons]
  simp [Series.fresh]

/-- A gauge of the summary is the level that was seen last. -/
theorem gauge_summary (seen : dispatcher ∈ names observations) (level : Dispatcher.Level) :
    ((seenOf dispatcher observations).getLast?.map fun snapshot =>
      (BitVec.ofNat 64 (snapshot.level level)).toInt) =
        some ((summary dispatcher observations).gauge level) := by
  rcases List.eq_nil_or_concat (seenOf dispatcher observations) with none | ⟨rest, last, same⟩
  · exact absurd seen (seenOf_eq_nil.mp none)
  · rw [summary, same, List.concat_eq_append, List.foldl_concat, Series.gauge_observe,
      List.getLast?_concat, Option.map_some, toInt_word]

/-- A counter of the summary never goes back. -/
theorem totals_le_append (earlier later : List Observation) (dispatcher : String) (count : Count) :
    (summary dispatcher earlier).totals.get count ≤
      (summary dispatcher (earlier ++ later)).totals.get count := by
  induction later using List.reverseRecOn with
  | nil => rw [List.append_nil]
  | append_singleton later seen inductionHypothesis =>
    refine le_trans inductionHypothesis ?_
    rw [← List.append_assoc, summary_concat]
    split
    · rw [Series.totals_observe]
      exact le_max_left _ _
    · exact le_refl _

/-- The counters of a summary are words if the observed totals are. -/
theorem totals_lt (inWords : ∀ seen ∈ observations, seen.InWords) (dispatcher : String)
    (count : Count) : (summary dispatcher observations).totals.get count < Nat.pow 2 64 := by
  induction observations using List.reverseRecOn with
  | nil => simp [summary, seenOf, Series.fresh]
  | append_singleton earlier seen inductionHypothesis =>
    have before := inductionHypothesis fun seen member =>
      inWords seen (List.mem_append_left _ member)
    rw [summary_concat]
    split
    · rw [Series.totals_observe]
      exact max_lt before ((inWords seen (by simp)).totals count)
    · exact before

end Summary

section Observed

variable {dispatchers : List String} (apart : Apart dispatchers)
  {observations : List Observation} (among : names observations ⊆ dispatchers)
include apart among

/-- A dispatcher has its summary if it was observed, and else nothing. -/
theorem find?_eq {dispatcher : String} (member : dispatcher ∈ dispatchers) :
    (observed observations).find? dispatcher =
      if dispatcher ∈ names observations then some (summary dispatcher observations) else none := by
  split
  · rename_i seen
    exact find?_observed apart among seen
  · rename_i unseen
    exact find?_unseen apart among member unseen

/-- What is shown of a dispatcher that was observed is its summary. -/
theorem shown?_observed {dispatcher : String} (seen : dispatcher ∈ names observations)
    (metric : Metric) : (observed observations).shown? dispatcher metric =
      some ((summary dispatcher observations).value metric) := by
  rw [shown?, find?_observed apart among seen]
  rfl

/-- Of a dispatcher that was not observed nothing is shown. -/
theorem shown?_unseen {dispatcher : String} (member : dispatcher ∈ dispatchers)
    (unseen : dispatcher ∉ names observations) (metric : Metric) :
    (observed observations).shown? dispatcher metric = none := by
  rw [shown?, find?_unseen apart among member unseen]
  rfl

/-- Observations that leave every dispatcher the same summary leave the same metrics. -/
theorem observed_of_perm {others : List Observation} (same : names others ⊆ names observations)
    (also : names observations ⊆ names others)
    (alike : ∀ dispatcher, summary dispatcher others = summary dispatcher observations) :
    observed others = observed observations :=
  observed_congr apart (fun _ member => among (same member)) among
    (fun _ => ⟨fun member => same member, fun member => also member⟩) alike

/-- The samples of the exposition are those of the summaries. -/
theorem mem_readSamples (sample : Sample) :
    sample ∈ readSamples (observed observations).exposition ↔
      ∃ metric, ∃ dispatcher ∈ names observations,
        sample = sampleOf metric (summary dispatcher observations) := by
  rw [readSamples_exposition]
  simp only [List.mem_flatMap, List.mem_map]
  constructor
  · rintro ⟨metric, -, series, held, rfl⟩
    obtain ⟨seen, same⟩ := (mem_observed_iff apart among series).mp held
    exact ⟨metric, series.dispatcher, seen, by rw [← same]⟩
  · rintro ⟨metric, dispatcher, seen, rfl⟩
    refine ⟨metric, metric.mem_all, _, ?_, rfl⟩
    rw [mem_observed_iff apart among, dispatcher_summary]
    exact ⟨seen, rfl⟩

/-- The series that an observation is taken into is the summary, also when it is made for it. -/
theorem getD_find? {dispatcher : String} (member : dispatcher ∈ dispatchers) :
    ((observed observations).find? dispatcher).getD (.fresh dispatcher) =
      summary dispatcher observations := by
  rw [find?_eq apart among member]
  split
  · rfl
  · rename_i unseen
    exact (summary_of_unseen unseen).symm

/-- The own observations of a dispatcher leave the same series as all together. -/
theorem find?_own {dispatcher : String} (member : dispatcher ∈ dispatchers) :
    (observed observations).find? dispatcher =
      (observed (observations.filter (·.dispatcher = dispatcher))).find? dispatcher := by
  have filtered : summary dispatcher (observations.filter (·.dispatcher = dispatcher)) =
      summary dispatcher observations := by
    simp [summary, seenOf, List.filter_filter]
  have listed : dispatcher ∈ names (observations.filter (·.dispatcher = dispatcher)) ↔
      dispatcher ∈ names observations := by
    simp [names]
  have amongOwn : names (observations.filter (·.dispatcher = dispatcher)) ⊆ dispatchers :=
    fun _ named => among ((List.filter_sublist.map _).subset named)
  rw [find?_eq apart among member, find?_eq apart amongOwn member, filtered]
  simp only [listed]

end Observed

section Order

variable {dispatchers : List String} (apart : Apart dispatchers)
  {earlier later : List Observation}
include apart

/-- Taking the same observation again changes nothing. -/
theorem observed_repeat {seen : Observation}
    (among : names (earlier ++ seen :: later) ⊆ dispatchers) :
    observed (earlier ++ seen :: seen :: later) = observed (earlier ++ seen :: later) := by
  refine observed_of_perm apart among (by simp [names]) (by simp [names]) fun dispatcher => ?_
  by_cases own : seen.dispatcher = dispatcher <;>
    simp [summary, seenOf, own, Series.observe_observe]

/-- Observations of two dispatchers commute. -/
theorem observed_exchange {one other : Observation}
    (among : names (earlier ++ one :: other :: later) ⊆ dispatchers)
    (different : one.dispatcher ≠ other.dispatcher) :
    observed (earlier ++ other :: one :: later) = observed (earlier ++ one :: other :: later) := by
  have same : (names (earlier ++ other :: one :: later)).Perm
      (names (earlier ++ one :: other :: later)) :=
    ((List.Perm.swap one other later).append_left earlier).map _
  refine observed_of_perm apart among same.subset same.symm.subset fun dispatcher => ?_
  rcases eq_or_ne one.dispatcher dispatcher with rfl | foreign
  · simp [summary, seenOf, Ne.symm different]
  · simp [summary, seenOf, List.filter_cons, foreign]

/-- No counter overflows when it is advanced. -/
theorem advance_lt {seen : Observation} (among : names (earlier ++ seen :: later) ⊆ dispatchers)
    (inWords : ∀ taken ∈ earlier ++ seen :: later, taken.InWords) (count : Count) :
    (Series.advance (((observed earlier).find? seen.dispatcher).getD
      (.fresh seen.dispatcher)).totals seen.snapshot.tally).get count < Nat.pow 2 64 := by
  have amongEarlier := List.Subset.trans (names_subset_append earlier (seen :: later)) among
  have held := totals_lt (fun taken member => inWords taken (List.mem_append_left _ member))
    seen.dispatcher count
  have added := (inWords seen (by simp)).totals count
  rw [getD_find? apart amongEarlier (among (by simp [names])), Series.advance, Tally.get_of]
  omega

/-- A counter never goes back. -/
theorem shown?_le_append (among : names (earlier ++ later) ⊆ dispatchers) {dispatcher : String}
    (member : dispatcher ∈ dispatchers) (count : Count) {before : Int}
    (shown : (observed earlier).shown? dispatcher (.counter count) = some before) :
    ∃ after, (observed (earlier ++ later)).shown? dispatcher (.counter count) = some after ∧
      before ≤ after := by
  have amongEarlier := List.Subset.trans (names_subset_append earlier later) among
  by_cases seen : dispatcher ∈ names earlier
  · rw [shown?_observed apart amongEarlier seen, Option.some.injEq] at shown
    refine ⟨_, shown?_observed apart among (names_subset_append _ _ seen) _, ?_⟩
    rw [← shown]
    exact Int.ofNat_le.mpr (totals_le_append earlier later dispatcher count)
  · rw [shown?_unseen apart amongEarlier member seen] at shown
    cases shown

end Order

/-- A metric of a series has one sample. -/
theorem nodup_readSamples (observations : List Observation) :
    ((readSamples (observed observations).exposition).map fun sample =>
      (sample.metric, sample.dispatcher)).Nodup := by
  have keys : (readSamples (observed observations).exposition).map
      (fun sample => (sample.metric, sample.dispatcher)) =
        (Metric.all.map Metric.name) ×ˢ (observed observations).map (·.dispatcher) := by
    rw [readSamples_exposition, List.map_flatMap]
    simp only [SProd.sprod, List.product, List.flatMap_map, List.map_map]
    rfl
  rw [keys]
  refine Metric.names_nodup.product ?_
  exact List.pairwise_map.mpr ((sorted_observed observations).imp ne_of_lt)

/-- As long as each of some dispatchers gets a series of its own when it is first observed, the
metrics tell what was observed of them. -/
theorem observed_faithful (dispatchers : List String) (observations : List Observation)
    (creates : CreatesSeries dispatchers) (among : names observations ⊆ dispatchers)
    (inWords : ∀ seen ∈ observations, seen.InWords) : Faithful dispatchers observations := by
  have apart : Apart dispatchers := (createsSeries_iff dispatchers).mp creates
  constructor
  case counters =>
    intro dispatcher member count
    by_cases seen : dispatcher ∈ names observations
    · rw [shown?_observed apart among seen, totals_summary seen]
      rfl
    · rw [shown?_unseen apart among member seen, totalsOf, seenOf_eq_nil.mpr seen]
      rfl
  case gauges =>
    intro dispatcher member level
    by_cases seen : dispatcher ∈ names observations
    · rw [shown?_observed apart among seen, gauge_summary seen]
      rfl
    · rw [shown?_unseen apart among member seen, seenOf_eq_nil.mpr seen]
      rfl
  case noOverflow =>
    rintro earlier seen later rfl count
    exact advance_lt apart among inWords count
  case neverBack =>
    rintro earlier later rfl dispatcher member count before shown
    exact shown?_le_append apart among member count shown
  case repeated =>
    rintro earlier seen later rfl
    exact observed_repeat apart among
  case exchanged =>
    rintro earlier one other later rfl different
    exact observed_exchange apart among different
  case own => exact fun dispatcher member => find?_own apart among member
  case exported =>
    intro sample
    rw [mem_readSamples apart among]
    constructor
    · rintro ⟨metric, dispatcher, seen, rfl⟩
      refine ⟨metric, dispatcher, seen, _, shown?_observed apart among seen metric, ?_⟩
      rw [sampleOf, dispatcher_summary]
    · rintro ⟨metric, dispatcher, seen, value, shown, rfl⟩
      rw [shown?_observed apart among seen, Option.some.injEq] at shown
      refine ⟨metric, dispatcher, seen, ?_⟩
      rw [sampleOf, dispatcher_summary, shown]
  case once => exact nodup_readSamples observations
  case precise =>
    intro metric dispatcher seen value shown small
    rw [shown?_observed apart among seen, Option.some.injEq] at shown
    rw [mem_readSamples apart among]
    refine ⟨metric, dispatcher, seen, ?_⟩
    rw [sampleOf, dispatcher_summary, shown, Decimal.sample_ofInt small]

/-- Two dispatchers are observed in turns. One snapshot comes too late, one comes from a
dispatcher that was started anew, and some numbers need all bits of a word. -/
def interleaved : List Observation :=
  [⟨"io", ⟨.running, 2, 1, 1, 0, ⟨3, 0, 2, 0, 0, 1⟩⟩⟩,
    ⟨"cpu \"hot\"", ⟨.running, 18446744073709551615, 9, 0, 1, ⟨5, 1, 0, 0, 0, 0⟩⟩⟩,
    ⟨"io", ⟨.running, 2, 2, 0, 0, ⟨18446744073709551615, 1, 2, 0, 0, 0⟩⟩⟩,
    ⟨"io", ⟨.stopped, 2, 0, 0, 0, ⟨1, 0, 0, 0, 0, 0⟩⟩⟩]

/-- Both dispatchers have series of their own. -/
theorem interleaved_faithful :
    CreatesSeries ["cpu \"hot\"", "io"] ∧ names interleaved ⊆ ["cpu \"hot\"", "io"] ∧
      (∀ seen ∈ interleaved, seen.InWords) ∧ Faithful ["cpu \"hot\"", "io"] interleaved := by
  have creates : CreatesSeries ["cpu \"hot\"", "io"] := by
    refine (createsSeries_iff _).mpr ?_
    unfold Apart
    decide +kernel
  have among : names interleaved ⊆ ["cpu \"hot\"", "io"] := by decide
  have inWords : ∀ seen ∈ interleaved, seen.InWords := by
    simp only [interleaved, List.forall_mem_cons]
    refine ⟨⟨?_, ?_⟩, ⟨?_, ?_⟩, ⟨?_, ?_⟩, ⟨?_, ?_⟩, by simp⟩ <;> intro number <;>
      cases number <;> decide
  exact ⟨creates, among, inWords, observed_faithful _ interleaved creates among inWords⟩

end Metrics

end Standby
