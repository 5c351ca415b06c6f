import Standby.Proofs.Counting
import Standby.Proofs.LoadRun.Section

/-!
# The turns of a load run

How the turns are found and counted when one of them goes on, begins or is done with. No
runner takes two turns at once, so a change of the turn of one runner changes every count
by what this turn counts.
-/

namespace Standby.LoadRun

/-- The progress of the turn that a runner takes. -/
def progressIn (turns : List Turn) (runner : Runner) : Option Progress :=
  (turns.find? (·.runner = runner)).map (·.progress)

/-- Nobody takes two turns at once. -/
def Distinct (turns : List Turn) : Prop := (turns.map Turn.runner).Nodup

/-- The turn of one runner goes on. -/
def setIn (turns : List Turn) (runner : Runner) (later : Progress) : List Turn :=
  turns.map fun turn => if turn.runner = runner then { turn with progress := later } else turn

/-- The turn of one runner is done with. -/
def dropIn (turns : List Turn) (runner : Runner) : List Turn :=
  turns.filter (·.runner != runner)

section Turns

variable {turns : List Turn} {runner other : Runner} {progress later : Progress}

/-- The first turn is found first. -/
theorem progressIn_cons (turn : Turn) (turns : List Turn) (runner : Runner) :
    progressIn (turn :: turns) runner =
      if turn.runner = runner then some turn.progress else progressIn turns runner := by
  by_cases here : turn.runner = runner <;> simp [progressIn, here]

/-- Runners without a turn are not among those that take one. -/
theorem progressIn_eq_none_iff : progressIn turns runner = none ↔
    runner ∉ turns.map Turn.runner := by
  simp [progressIn, List.find?_eq_none]

/-- The turn of another runner than the first is among the rest. -/
theorem runner_ne_of_mem {first turn : Turn} (fresh : first.runner ∉ turns.map Turn.runner)
    (member : turn ∈ turns) : first.runner ≠ turn.runner := fun same =>
  fresh (same ▸ List.mem_map_of_mem member)

/-- A turn is found under its runner. -/
theorem progressIn_of_mem (distinct : Distinct turns) {turn : Turn} (member : turn ∈ turns) :
    progressIn turns turn.runner = some turn.progress := by
  induction turns with
  | nil => cases member
  | cons first rest inductionHypothesis =>
    obtain ⟨fresh, others⟩ := List.nodup_cons.mp distinct
    rw [progressIn_cons]
    rcases List.mem_cons.mp member with rfl | later
    · rw [if_pos rfl]
    · rw [if_neg (runner_ne_of_mem fresh later)]
      exact inductionHypothesis others later

/-- The runners stay when a turn goes on. -/
theorem map_runner_setIn (turns : List Turn) (runner : Runner) (later : Progress) :
    (setIn turns runner later).map Turn.runner = turns.map Turn.runner := by
  rw [setIn, List.map_map]
  refine List.map_congr_left fun turn _ => ?_
  dsimp only [Function.comp_apply]
  split <;> rfl

/-- A turn that goes on is nobody else's. -/
theorem distinct_setIn (distinct : Distinct turns) : Distinct (setIn turns runner later) := by
  rw [Distinct, map_runner_setIn]
  exact distinct

/-- A turn that ends leaves the others distinct. -/
theorem distinct_dropIn (distinct : Distinct turns) : Distinct (dropIn turns runner) :=
  distinct.sublist (List.filter_sublist.map _)

/-- A runner without a turn can begin one. -/
theorem distinct_cons (distinct : Distinct turns) (idle : progressIn turns runner = none) :
    Distinct (⟨runner, progress⟩ :: turns) :=
  List.nodup_cons.mpr ⟨progressIn_eq_none_iff.mp idle, distinct⟩

/-- The other turns stay where they are. -/
theorem progressIn_setIn_of_ne (different : other ≠ runner) :
    progressIn (setIn turns runner later) other = progressIn turns other := by
  induction turns with
  | nil => rfl
  | cons first rest inductionHypothesis =>
    rw [setIn, List.map_cons, progressIn_cons, progressIn_cons]
    by_cases here : first.runner = runner
    · rw [if_pos here, if_neg (here ▸ different.symm), if_neg (here ▸ different.symm)]
      exact inductionHypothesis
    · rw [if_neg here]
      split
      · rfl
      · exact inductionHypothesis

/-- The turn that goes on is where it has gone to. -/
theorem progressIn_setIn_self (found : progressIn turns runner = some progress) :
    progressIn (setIn turns runner later) runner = some later := by
  induction turns with
  | nil => cases found
  | cons first rest inductionHypothesis =>
    rw [progressIn_cons] at found
    rw [setIn, List.map_cons, progressIn_cons]
    by_cases here : first.runner = runner
    · rw [if_pos here, if_pos here]
    · rw [if_neg here, if_neg here]
      exact inductionHypothesis (by rwa [if_neg here] at found)

/-- Where the turns are when one of them goes on. -/
theorem progressIn_setIn (found : progressIn turns runner = some progress) (other : Runner) :
    progressIn (setIn turns runner later) other =
      if other = runner then some later else progressIn turns other := by
  split
  · rename_i same
    rw [same, progressIn_setIn_self found]
  · rename_i different
    exact progressIn_setIn_of_ne different

/-- A turn that is done with is found no more. -/
theorem progressIn_dropIn (turns : List Turn) (runner other : Runner) :
    progressIn (dropIn turns runner) other =
      if other = runner then none else progressIn turns other := by
  induction turns with
  | nil => simp [dropIn, progressIn]
  | cons first rest inductionHypothesis =>
    by_cases here : first.runner = runner
    · have dropped : (first.runner != runner) = false := by simp [here]
      rw [dropIn, List.filter_cons, if_neg (by simp [dropped]), progressIn_cons, here]
      rw [dropIn] at inductionHypothesis
      rw [inductionHypothesis]
      by_cases same : other = runner
      · rw [if_pos same, if_pos same]
      · rw [if_neg same, if_neg same, if_neg (Ne.symm same)]
    · have kept : (first.runner != runner) = true := by simpa using here
      rw [dropIn, List.filter_cons, if_pos kept, progressIn_cons, progressIn_cons]
      by_cases same : first.runner = other
      · rw [if_pos same, if_pos same, if_neg (same ▸ here)]
      · rw [if_neg same, if_neg same]
        exact inductionHypothesis

/-- The number of turns at such a progress. -/
def countIn (p : Progress → Bool) (turns : List Turn) : Nat :=
  turns.countP fun turn => p turn.progress

/-- A further turn counts for itself. -/
theorem countIn_cons (p : Progress → Bool) (turn : Turn) (turns : List Turn) :
    countIn p (turn :: turns) = countIn p turns + (p turn.progress).toNat :=
  Counting.countP_cons _ turn turns

/-- Nobody is counted where nobody takes a turn. -/
theorem countIn_eq_zero (p : Progress → Bool) (nobody : ∀ runner, progressIn turns runner = none) :
    countIn p turns = 0 := by
  cases turns with
  | nil => rfl
  | cons first rest =>
    have absent := nobody first.runner
    simp [progressIn_cons] at absent

/-- A runner without a turn has nothing to go on with. -/
theorem setIn_of_absent (absent : runner ∉ turns.map Turn.runner) :
    setIn turns runner later = turns := by
  refine (List.map_congr_left fun turn member => ?_).trans (List.map_id turns)
  exact if_neg fun (same : turn.runner = runner) =>
    absent (same ▸ List.mem_map_of_mem member)

/-- Nothing ends for a runner without a turn. -/
theorem dropIn_of_absent (absent : runner ∉ turns.map Turn.runner) :
    dropIn turns runner = turns :=
  List.filter_eq_self.mpr fun turn member => by
    simpa using fun (same : turn.runner = runner) =>
      absent (same ▸ List.mem_map_of_mem member)

/-- A runner that goes on to where it is stays there. -/
theorem setIn_self (distinct : Distinct turns) (found : progressIn turns runner = some progress) :
    setIn turns runner progress = turns := by
  refine (List.map_congr_left fun turn member => ?_).trans (List.map_id turns)
  split
  · rename_i here
    have stands := progressIn_of_mem distinct member
    rw [here, found] at stands
    rw [Option.some.inj stands, id]
  · rfl

/-- What is counted may change with the turn that goes on, as long as the others count as
before. -/
theorem countIn_setIn_of_agree (distinct : Distinct turns) {p q : Progress → Bool}
    (found : progressIn turns runner = some progress) (later : Progress)
    (agree : ∀ other held, other ≠ runner → progressIn turns other = some held →
      p held = q held) :
    countIn p (setIn turns runner later) + (q progress).toNat =
      countIn q turns + (p later).toNat := by
  induction turns with
  | nil => cases found
  | cons first rest inductionHypothesis =>
    obtain ⟨fresh, others⟩ := List.nodup_cons.mp distinct
    have agreeLater {other : Runner} {held : Progress} (apart : other ≠ runner)
        (stands : progressIn rest other = some held) : p held = q held := by
      refine agree other held apart ?_
      rwa [progressIn_cons, if_neg]
      rintro rfl
      rw [progressIn_eq_none_iff.mpr fresh] at stands
      cases stands
    rw [progressIn_cons] at found
    rw [setIn, List.map_cons, countIn_cons, countIn_cons, ← setIn]
    by_cases here : first.runner = runner
    · -- Nobody else has this runner, so the rest stays as it is.
      rw [if_pos here] at found ⊢
      have same : countIn p rest = countIn q rest :=
        List.countP_congr fun turn member => by
          rw [agreeLater (fun same => runner_ne_of_mem fresh member (here.trans same.symm))
            (progressIn_of_mem others member)]
      rw [setIn_of_absent (here ▸ fresh), Option.some.inj found, same]
      dsimp only
      omega
    · rw [if_neg here] at found ⊢
      have head : p first.progress = q first.progress :=
        agree first.runner first.progress here (by rw [progressIn_cons, if_pos rfl])
      have later := inductionHypothesis others found fun other held => agreeLater
      rw [head]
      omega

/-- When a turn goes on, it counts for what it has gone to. -/
theorem countIn_setIn (distinct : Distinct turns) (p : Progress → Bool)
    (found : progressIn turns runner = some progress) (later : Progress) :
    countIn p (setIn turns runner later) + (p progress).toNat =
      countIn p turns + (p later).toNat :=
  countIn_setIn_of_agree distinct found later fun _ _ _ _ => rfl

/-- When a turn is done with, it counts no more. -/
theorem countIn_dropIn (distinct : Distinct turns) (p : Progress → Bool)
    (found : progressIn turns runner = some progress) :
    countIn p (dropIn turns runner) + (p progress).toNat = countIn p turns := by
  induction turns with
  | nil => cases found
  | cons first rest inductionHypothesis =>
    obtain ⟨fresh, others⟩ := List.nodup_cons.mp distinct
    rw [progressIn_cons] at found
    by_cases here : first.runner = runner
    · have dropped : (first.runner != runner) = false := by simp [here]
      rw [if_pos here] at found
      rw [dropIn, List.filter_cons, if_neg (by simp [dropped]), ← dropIn,
        dropIn_of_absent (here ▸ fresh), countIn_cons, Option.some.inj found]
    · have kept : (first.runner != runner) = true := by simpa using here
      rw [if_neg here] at found
      rw [dropIn, List.filter_cons, if_pos kept, ← dropIn, countIn_cons, countIn_cons]
      have later := inductionHypothesis others found
      omega

/-- When a call is answered, the turn that made it goes on. -/
theorem map_answered (distinct : Distinct turns) {call : Nat} {runner : Runner}
    (found : progressIn turns runner = some (.calling call))
    (alone : ∀ other, progressIn turns other = some (.calling call) → other = runner)
    (later : Progress) :
    (turns.map fun turn =>
      if turn.progress = .calling call then { turn with progress := later } else turn) =
      setIn turns runner later := by
  refine List.map_congr_left fun turn member => ?_
  have stands := progressIn_of_mem distinct member
  by_cases calls : turn.progress = .calling call
  · rw [if_pos calls, if_pos (alone _ (by rw [stands, calls]))]
  · rw [if_neg calls, if_neg]
    rintro rfl
    exact calls (Option.some.inj (stands.symm.trans found))

/-- When a call is answered that no turn has made, the turns stay. -/
theorem map_unanswered (distinct : Distinct turns) {call : Nat}
    (nobody : ∀ runner, progressIn turns runner ≠ some (.calling call)) (later : Progress) :
    (turns.map fun turn =>
      if turn.progress = .calling call then { turn with progress := later } else turn) =
      turns := by
  refine (List.map_congr_left fun turn member => ?_).trans (List.map_id turns)
  refine if_neg fun calls => nobody turn.runner ?_
  rw [progressIn_of_mem distinct member, calls]

end Turns

end Standby.LoadRun
