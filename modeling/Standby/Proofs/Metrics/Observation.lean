import Mathlib.Data.List.Induction
import Mathlib.Data.List.Sort
import Mathlib.Data.String.Basic
import Standby.Metrics

/-!
# Observations of dispatchers

The metrics after any observations, taken one after the other. As long as the observed
dispatchers have fingerprints of their own, each has a series of its own, which is what its
own observations alone would have left. So the metrics are known from the observations of
each dispatcher in their order, whatever else was observed in between.
-/

namespace Standby

open Dispatcher

namespace Series

/-- An observation does not change whose values a series holds. -/
@[simp] theorem dispatcher_observe (series : Series) (snapshot : Snapshot) :
    (series.observe snapshot).dispatcher = series.dispatcher := by
  cases series
  rfl

/-- A counter shows the greater of what it showed and what is observed. -/
theorem totals_observe (series : Series) (snapshot : Snapshot) (count : Count) :
    (series.observe snapshot).totals.get count =
      max (series.totals.get count) (snapshot.tally.get count) := by
  simp only [observe, advance, Tally.get_of]
  omega

/-- The gauges of a series, whatever reads the observed numbers. It is left open here because
a word of 64 bits is too large to be computed with. -/
theorem gauge_read (series : Series) (snapshot : Snapshot) (read : Nat → Int) (totals : Tally)
    (level : Dispatcher.Level) :
    gauge ⟨series.dispatcher, read snapshot.capacity, read snapshot.available,
      read snapshot.pending, read snapshot.starting, totals⟩ level =
        read (snapshot.level level) := by
  cases level <;> rfl

/-- A gauge shows what is observed. -/
theorem gauge_observe (series : Series) (snapshot : Snapshot) (level : Dispatcher.Level) :
    (series.observe snapshot).gauge level = signedWord (snapshot.level level) := by
  rw [observe]
  exact gauge_read series snapshot signedWord _ level

/-- A series is known by its dispatcher and its values. -/
theorem ext_values {left right : Series} (dispatcher : left.dispatcher = right.dispatcher)
    (gauges : ∀ level, left.gauge level = right.gauge level)
    (totals : ∀ count, left.totals.get count = right.totals.get count) : left = right := by
  cases left
  cases right
  simp only [Series.mk.injEq]
  exact ⟨dispatcher, gauges .capacity, gauges .available, gauges .pending, gauges .starting,
    Tally.ext totals⟩

/-- What is observed twice in a row is observed once. -/
theorem observe_observe (series : Series) (snapshot : Snapshot) :
    (series.observe snapshot).observe snapshot = series.observe snapshot := by
  refine ext_values (by simp) (fun level => ?_) fun count => ?_
  · rw [gauge_observe, gauge_observe]
  · rw [totals_observe, totals_observe, Nat.max_assoc, Nat.max_self]

/-- Every series holds the values of its own dispatcher. -/
theorem holds_self (series : Series) : series.holds series.dispatcher = true := beq_self_eq_true _

end Series

namespace Metrics

/-- What was seen of a dispatcher with a name. -/
structure Observation where
  dispatcher : String
  snapshot : Snapshot
deriving DecidableEq, Repr

/-- The names of the observed dispatchers. -/
def names (observations : List Observation) : List String := observations.map (·.dispatcher)

/-- The metrics after some observations. -/
def observed (observations : List Observation) : Metrics :=
  observations.foldl (fun metrics seen => observe seen.dispatcher seen.snapshot metrics) []

/-- What was seen of one dispatcher, the first first. -/
def seenOf (dispatcher : String) (observations : List Observation) : List Snapshot :=
  (observations.filter (·.dispatcher = dispatcher)).map (·.snapshot)

/-- The series that the observations of one dispatcher leave by themselves. -/
def summary (dispatcher : String) (observations : List Observation) : Series :=
  (seenOf dispatcher observations).foldl Series.observe (.fresh dispatcher)

/-- Dispatchers with different names have different fingerprints. -/
def Apart (dispatchers : List String) : Prop :=
  ∀ one ∈ dispatchers, ∀ other ∈ dispatchers, fingerprint one = fingerprint other → one = other

section Insert

variable {metrics : Metrics} {added series : Series}

/-- Inserting a series adds it and nothing else. -/
theorem mem_insert_iff : series ∈ insert added metrics ↔ series = added ∨ series ∈ metrics := by
  induction metrics with
  | nil => simp [insert]
  | cons first rest inductionHypothesis =>
    unfold insert
    split
    · exact List.mem_cons
    · simp only [List.mem_cons, inductionHypothesis]
      tauto

/-- A series is put behind those of dispatchers with earlier names. -/
theorem sorted_insert (sorted : metrics.Pairwise (·.dispatcher < ·.dispatcher))
    (new : ∀ series ∈ metrics, series.dispatcher ≠ added.dispatcher) :
    (insert added metrics).Pairwise (·.dispatcher < ·.dispatcher) := by
  induction sorted with
  | nil => simp [insert]
  | @cons first rest before sorted inductionHypothesis =>
    unfold insert
    split
    · rename_i earlier
      refine .cons (fun series held => ?_) (.cons before sorted)
      rcases List.mem_cons.mp held with rfl | later
      · exact earlier
      · exact lt_trans earlier (before series later)
    · rename_i notEarlier
      have earlier : first.dispatcher < added.dispatcher :=
        lt_of_le_of_ne (not_lt.mp notEarlier) (new first List.mem_cons_self)
      refine .cons (fun series held => ?_)
        (inductionHypothesis fun series held => new series (List.mem_cons_of_mem first held))
      rcases mem_insert_iff.mp held with rfl | later
      · exact earlier
      · exact before series later

end Insert

section Observed

variable {observations : List Observation}

/-- A further observation is made after the others. -/
theorem observed_concat (observations : List Observation) (seen : Observation) :
    observed (observations ++ [seen]) =
      observe seen.dispatcher seen.snapshot (observed observations) := by
  simp [observed]

/-- The series stand in the order of the dispatchers' names. -/
theorem sorted_observed (observations : List Observation) :
    (observed observations).Pairwise (·.dispatcher < ·.dispatcher) := by
  induction observations using List.reverseRecOn with
  | nil => exact .nil
  | append_singleton earlier seen inductionHypothesis =>
    rw [observed_concat, observe]
    split
    · refine List.pairwise_map.mpr (inductionHypothesis.imp fun {first second} before => ?_)
      split <;> split <;> simpa using before
    · rename_i unheld
      refine sorted_insert inductionHypothesis fun series held same => unheld ?_
      refine List.any_eq_true.mpr ⟨series, held, ?_⟩
      have named : series.dispatcher = seen.dispatcher := same
      rw [← named]
      exact series.holds_self

/-- Only what was observed has a series. -/
theorem observed_of_mem {series : Series} (held : series ∈ observed observations) :
    series.dispatcher ∈ names observations := by
  induction observations using List.reverseRecOn generalizing series with
  | nil => cases held
  | append_singleton earlier seen inductionHypothesis =>
    have named : names (earlier ++ [seen]) = names earlier ++ [seen.dispatcher] := by simp [names]
    rw [named, List.mem_append, List.mem_singleton]
    rw [observed_concat, observe] at held
    split at held
    · obtain ⟨before, present, rfl⟩ := List.mem_map.mp held
      refine .inl ?_
      split <;> simpa using inductionHypothesis present
    · rcases mem_insert_iff.mp held with rfl | present
      · exact .inr rfl
      · exact .inl (inductionHypothesis present)

/-- An observation concerns the summary of its own dispatcher. -/
theorem summary_concat (dispatcher : String) (observations : List Observation)
    (seen : Observation) : summary dispatcher (observations ++ [seen]) =
      if seen.dispatcher = dispatcher then (summary dispatcher observations).observe seen.snapshot
      else summary dispatcher observations := by
  by_cases own : seen.dispatcher = dispatcher <;> simp [summary, seenOf, own]

/-- What was not observed has an empty summary. -/
theorem summary_of_unseen {dispatcher : String} (unseen : dispatcher ∉ names observations) :
    summary dispatcher observations = .fresh dispatcher := by
  have nothing : seenOf dispatcher observations = [] := by
    refine List.map_eq_nil_iff.mpr (List.filter_eq_nil_iff.mpr fun seen held => ?_)
    simp only [decide_eq_true_eq]
    rintro rfl
    exact unseen (List.mem_map_of_mem held)
  rw [summary, nothing]
  rfl

/-- A summary goes by the name of its dispatcher. -/
theorem dispatcher_summary (dispatcher : String) (observations : List Observation) :
    (summary dispatcher observations).dispatcher = dispatcher := by
  induction observations using List.reverseRecOn with
  | nil => rfl
  | append_singleton earlier seen inductionHypothesis =>
    rw [summary_concat]
    split <;> simpa using inductionHypothesis

/-- Among dispatchers that are apart, a series holds the values of the one that it names. -/
theorem holds_iff {dispatchers : List String} (apart : Apart dispatchers) {series : Series}
    {dispatcher : String} (one : series.dispatcher ∈ dispatchers)
    (other : dispatcher ∈ dispatchers) :
    series.holds dispatcher = true ↔ series.dispatcher = dispatcher := by
  constructor
  · intro holds
    exact apart _ one _ other (eq_of_beq holds)
  · rintro rfl
    exact series.holds_self

section Apart

variable {dispatchers : List String} (apart : Apart dispatchers)
include apart

/-- The metrics hold the summaries of the observed dispatchers, and nothing else. -/
theorem mem_observed_iff (among : names observations ⊆ dispatchers) (series : Series) :
    series ∈ observed observations ↔
      series.dispatcher ∈ names observations ∧ series = summary series.dispatcher observations := by
  induction observations using List.reverseRecOn generalizing series with
  | nil => simp [observed, names]
  | append_singleton earlier seen inductionHypothesis =>
    have named : names (earlier ++ [seen]) = names earlier ++ [seen.dispatcher] := by simp [names]
    rw [named, List.append_subset] at among
    have own : seen.dispatcher ∈ dispatchers := among.2 (List.mem_singleton_self _)
    have before := inductionHypothesis among.1
    have holds {series : Series} (held : series ∈ observed earlier) :
        series.holds seen.dispatcher = true ↔ series.dispatcher = seen.dispatcher :=
      holds_iff apart (among.1 ((before series).mp held).1) own
    rw [observed_concat, observe, named, List.mem_append, List.mem_singleton, summary_concat]
    by_cases known : seen.dispatcher ∈ names earlier
    · have present : summary seen.dispatcher earlier ∈ observed earlier := by
        rw [before, dispatcher_summary]
        exact ⟨known, rfl⟩
      have found : (observed earlier).any (·.holds seen.dispatcher) = true :=
        List.any_eq_true.mpr ⟨_, present, (holds present).mpr (dispatcher_summary _ _)⟩
      rw [if_pos found, List.mem_map]
      constructor
      · rintro ⟨held, member, rfl⟩
        obtain ⟨listed, same⟩ := (before held).mp member
        by_cases concerned : held.dispatcher = seen.dispatcher
        · rw [if_pos ((holds member).mpr concerned), Series.dispatcher_observe,
            if_pos concerned.symm, ← same]
          exact ⟨.inl listed, rfl⟩
        · rw [if_neg (mt (holds member).mp concerned), if_neg (Ne.symm concerned)]
          exact ⟨.inl listed, same⟩
      · rintro ⟨listed, same⟩
        by_cases concerned : seen.dispatcher = series.dispatcher
        · rw [if_pos concerned, ← concerned] at same
          exact ⟨_, present, by rw [if_pos ((holds present).mpr (dispatcher_summary _ _)), same]⟩
        · rw [if_neg concerned] at same
          have member : series ∈ observed earlier :=
            (before series).mpr ⟨listed.resolve_right (Ne.symm concerned), same⟩
          exact ⟨series, member, if_neg (mt (holds member).mp (Ne.symm concerned))⟩
    · have unfound : ¬ (observed earlier).any (·.holds seen.dispatcher) = true := by
        intro found
        obtain ⟨held, member, owns⟩ := List.any_eq_true.mp found
        exact known ((holds member).mp owns ▸ ((before held).mp member).1)
      rw [if_neg unfound, mem_insert_iff, before]
      by_cases concerned : seen.dispatcher = series.dispatcher
      · simp [← concerned, known, summary_of_unseen known]
      · have other : series ≠ (Series.fresh seen.dispatcher).observe seen.snapshot := by
          rintro rfl
          exact concerned
            (Series.dispatcher_observe (.fresh seen.dispatcher) seen.snapshot).symm
        simp [concerned, Ne.symm concerned, other]

variable (among : names observations ⊆ dispatchers)
include among

/-- An observed dispatcher is found with its summary. -/
theorem find?_observed {dispatcher : String} (seen : dispatcher ∈ names observations) :
    (observed observations).find? dispatcher = some (summary dispatcher observations) := by
  have member := mem_observed_iff apart among
  cases found : (observed observations).find? dispatcher with
  | none =>
    have present : summary dispatcher observations ∈ observed observations := by
      rw [member, dispatcher_summary]
      exact ⟨seen, rfl⟩
    have own : (summary dispatcher observations).holds dispatcher = true := by
      rw [holds_iff apart (by rw [dispatcher_summary]; exact among seen) (among seen),
        dispatcher_summary]
    exact absurd own (List.find?_eq_none.mp found _ present)
  | some series =>
    obtain ⟨listed, same⟩ := (member series).mp (List.mem_of_find?_eq_some found)
    have owns : series.holds dispatcher = true := by
      unfold find? at found
      simpa using List.find?_some found
    have own : series.dispatcher = dispatcher :=
      (holds_iff apart (among listed) (among seen)).mp owns
    rw [own] at same
    rw [same]

/-- A dispatcher that was not observed has no series. -/
theorem find?_unseen {dispatcher : String} (one : dispatcher ∈ dispatchers)
    (unseen : dispatcher ∉ names observations) :
    (observed observations).find? dispatcher = none := by
  refine List.find?_eq_none.mpr fun series held holds => unseen ?_
  have listed : series.dispatcher ∈ names observations := observed_of_mem held
  rwa [← (holds_iff apart (among listed) one).mp holds]

/-- The metrics depend only on what was seen of each dispatcher. -/
theorem observed_congr {others : List Observation} (also : names others ⊆ dispatchers)
    (same : ∀ dispatcher, dispatcher ∈ names observations ↔ dispatcher ∈ names others)
    (alike : ∀ dispatcher, summary dispatcher observations = summary dispatcher others) :
    observed observations = observed others := by
  have distinct (observations : List Observation) : (observed observations).Nodup :=
    (sorted_observed observations).imp fun {one other} before same =>
      absurd (congrArg Series.dispatcher same) (ne_of_lt before)
  have members : (observed observations).Perm (observed others) := by
    refine (List.perm_ext_iff_of_nodup (distinct _) (distinct _)).mpr fun series => ?_
    rw [mem_observed_iff apart among, mem_observed_iff apart also, same, alike]
  refine members.eq_of_pairwise (fun one other _ _ before after => ?_) (sorted_observed _)
    (sorted_observed _)
  exact absurd before (lt_asymm after)

end Apart

/-- A dispatcher gets a series of its own when it is observed for the first time, however the
others were observed before. -/
def CreatesSeries (dispatchers : List String) : Prop :=
  ∀ observations, names observations ⊆ dispatchers → ∀ dispatcher ∈ dispatchers,
    dispatcher ∉ names observations → (observed observations).find? dispatcher = none

/-- Dispatchers get series of their own exactly when their fingerprints tell them apart. -/
theorem createsSeries_iff (dispatchers : List String) :
    CreatesSeries dispatchers ↔ Apart dispatchers := by
  constructor
  · intro creates one member other also same
    by_contra different
    let snapshot : Snapshot := ⟨.stopped, 0, 0, 0, 0, .zero⟩
    have unfound := creates [⟨one, snapshot⟩] (by simpa [names] using member) other also
      (by simpa [names] using Ne.symm different)
    simp [observed, observe, insert, find?, Series.holds] at unfound
    exact unfound same
  · intro apart observations among dispatcher member unseen
    exact find?_unseen apart among member unseen

/-- Two names that are not told apart. -/
example : fingerprint "8yn0iYCKYHlIj4-BwPqk" = fingerprint "GReLUrM4wMqfg9yzV3KQ" := by
  decide +kernel

end Observed

end Metrics

end Standby
