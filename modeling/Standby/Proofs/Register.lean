import Standby.Proofs.Counting
import Standby.Register

/-!
# The entries of a register

Which entries a register holds, and what they weigh together. An entry is found under
its number exactly when it is held, and since no number is given out twice, a change
under one number changes the weight by the difference that this entry makes.
-/

namespace Standby.Register

variable {α : Type} {register : Register α} {number : Nat} {value : α}

/-- Where numbers descend, each entry is found under its own. -/
theorem lookup_eq_some_of_mem {entries : List (Nat × α)}
    (descending : entries.Pairwise fun earlier later => later.1 < earlier.1)
    (held : (number, value) ∈ entries) : entries.lookup number = some value := by
  induction descending with
  | nil => cases held
  | @cons first rest below _ inductionHypothesis =>
    rcases List.mem_cons.mp held with rfl | later
    · simp
    · have different : (number == first.1) = false := by
        simpa using Nat.ne_of_lt (below _ later)
      rw [List.lookup_cons, different]
      exact inductionHypothesis later

/-- An entry is found under its number exactly when the register holds it. -/
theorem get?_eq_some_iff :
    register.get? number = some value ↔ (number, value) ∈ register.entries := by
  constructor
  · intro found
    obtain ⟨before, after, same, _⟩ := List.lookup_eq_some_iff.mp found
    simp [same]
  · exact lookup_eq_some_of_mem register.descending

/-- A number under which something is found was given out. -/
theorem lt_of_get? (found : register.get? number = some value) : number < register.next :=
  register.given _ (get?_eq_some_iff.mp found)

/-- A value is held under some number. -/
theorem mem_values_iff : value ∈ register.values ↔ ∃ number, register.get? number = some value := by
  simp [values, get?_eq_some_iff]

/-- A register in which nothing is found is empty. -/
theorem isEmpty_iff : register.isEmpty = true ↔ ∀ number, register.get? number = none := by
  constructor
  · intro empty number
    simp [get?, List.isEmpty_iff.mp empty]
  · intro absent
    refine List.isEmpty_iff.mpr (List.eq_nil_iff_forall_not_mem.mpr fun entry held => ?_)
    have found : register.get? entry.1 = some entry.2 := get?_eq_some_iff.mpr held
    simp [absent entry.1] at found

/-- What all entries weigh together. -/
def total (weight : α → Nat) (register : Register α) : Nat :=
  Counting.total weight register.values

/-- An empty register weighs nothing. -/
theorem total_empty (weight : α → Nat) : (empty : Register α).total weight = 0 := rfl

/-- A register in which nothing with a weight is found weighs nothing. -/
theorem total_eq_zero {weight : α → Nat}
    (none : ∀ number value, register.get? number = some value → weight value = 0) :
    register.total weight = 0 :=
  Counting.total_eq_zero fun value held => by
    obtain ⟨number, found⟩ := mem_values_iff.mp held
    exact none number value found

/-- A register in which nothing is found weighs nothing. -/
theorem total_of_absent (weight : α → Nat) (absent : ∀ number, register.get? number = none) :
    register.total weight = 0 :=
  total_eq_zero fun number value found => by simp [absent number] at found

/-- A further entry adds its weight. -/
theorem total_add (weight : α → Nat) (register : Register α) (value : α) :
    (register.add value).total weight = register.total weight + weight value :=
  Nat.add_comm _ _

/-- What the entries of a list weigh when the one under a number is changed. -/
theorem total_change (weight : α → Nat) {entries : List (Nat × α)} {old : α}
    (descending : entries.Pairwise fun earlier later => later.1 < earlier.1)
    (found : entries.lookup number = some old) (change : Nat → α → α)
    (others : ∀ other held, other ≠ number → change other held = held) :
    Counting.total weight (entries.map fun entry => change entry.1 entry.2) + weight old =
      Counting.total weight (entries.map (·.2)) + weight (change number old) := by
  induction descending with
  | nil => cases found
  | @cons first rest below _ inductionHypothesis =>
    obtain ⟨given, held⟩ := first
    by_cases here : number = given
    · subst here
      obtain rfl : held = old := by simpa using found
      -- The numbers below are smaller, so nothing there is changed.
      have untouched : (rest.map fun entry => change entry.1 entry.2) = rest.map (·.2) :=
        List.map_congr_left fun entry member => others _ _ (Nat.ne_of_lt (below entry member))
      simp only [List.map_cons, Counting.total, untouched]
      omega
    · have different : (number == given) = false := by simpa using here
      have later := inductionHypothesis (by simpa [List.lookup_cons, different] using found)
      simp only [List.map_cons, Counting.total, others given held (Ne.symm here)]
      omega

/-- Changes that add to every weight add as much to the total. -/
theorem total_map_add (weight more : α → Nat) (register : Register α) {change : Nat → α → α}
    (adds : ∀ number value, weight (change number value) = weight value + more value) :
    (register.map change).total weight = register.total weight + register.total more := by
  have added (entries : List (Nat × α)) :
      Counting.total weight (entries.map fun entry => change entry.1 entry.2) =
        Counting.total weight (entries.map (·.2)) + Counting.total more (entries.map (·.2)) := by
    induction entries with
    | nil => rfl
    | cons first rest inductionHypothesis =>
      simp only [List.map_cons, Counting.total, adds, inductionHypothesis]
      omega
  simpa [total, values, map, Function.comp_def] using added register.entries

/-- Changes that keep every weight keep the total. -/
theorem total_map (weight : α → Nat) (register : Register α) {change : Nat → α → α}
    (same : ∀ number value, weight (change number value) = weight value) :
    (register.map change).total weight = register.total weight := by
  rw [total_map_add weight (fun _ => 0) register same, total_eq_zero fun _ _ _ => rfl,
    Nat.add_zero]

/-- Replacing an entry changes the weight by the difference of the two. -/
theorem total_put (weight : α → Nat) {old : α} (found : register.get? number = some old) :
    (register.put number value).total weight + weight old =
      register.total weight + weight value := by
  have changed := total_change weight register.descending found
    (fun other held => if other = number then value else held) fun _ _ different =>
      if_neg different
  simpa [total, values, put, map, Function.comp_def] using changed

/-- Without the entry under a number the others weigh what is left. -/
theorem total_filter (weight : α → Nat) {entries : List (Nat × α)} {old : α}
    (descending : entries.Pairwise fun earlier later => later.1 < earlier.1)
    (found : entries.lookup number = some old) :
    Counting.total weight ((entries.filter fun entry => entry.1 != number).map (·.2)) +
      weight old = Counting.total weight (entries.map (·.2)) := by
  induction descending with
  | nil => cases found
  | @cons first rest below _ inductionHypothesis =>
    obtain ⟨given, held⟩ := first
    by_cases here : number = given
    · subst here
      obtain rfl : held = old := by simpa using found
      have untouched : (rest.filter fun entry => entry.1 != number) = rest :=
        List.filter_eq_self.mpr fun entry member => by
          simpa using Nat.ne_of_lt (below entry member)
      simp only [List.filter_cons, bne_self_eq_false, Bool.false_eq_true, if_false, untouched,
        List.map_cons, Counting.total]
      omega
    · have different : (number == given) = false := by simpa using here
      have kept : (given != number) = true := by simpa using Ne.symm here
      have later := inductionHypothesis (by simpa [List.lookup_cons, different] using found)
      simp only [List.filter_cons, kept, if_true, List.map_cons, Counting.total]
      omega

/-- Removing an entry takes its weight away. -/
theorem total_remove (weight : α → Nat) {old : α} (found : register.get? number = some old) :
    (register.remove number).total weight + weight old = register.total weight :=
  total_filter weight register.descending found

/-- If only one entry has a weight, all weigh as much as this one at most. -/
theorem total_le_of_alone {weight : α → Nat} {bound : Nat}
    (le : ∀ number value, register.get? number = some value → weight value ≤ bound)
    (alone : ∀ number other value held, register.get? number = some value →
      register.get? other = some held → 0 < weight value → 0 < weight held → number = other) :
    register.total weight ≤ bound := by
  by_cases somebody : ∃ number value, register.get? number = some value ∧ 0 < weight value
  · obtain ⟨number, value, found, weighs⟩ := somebody
    have rest : (register.remove number).total weight = 0 := by
      refine total_eq_zero fun other held stands => ?_
      rw [get?_remove] at stands
      split at stands
      · cases stands
      · rename_i different
        by_contra some
        exact different (alone number other value held found stands weighs
          (Nat.pos_of_ne_zero some)).symm
    have removed := total_remove weight found
    have small := le number value found
    omega
  · rw [total_eq_zero fun number value found => Nat.eq_zero_of_not_pos fun weighs =>
      somebody ⟨number, value, found, weighs⟩]
    exact Nat.zero_le bound

/-- Registers in which the same is found have the same entries, since the order of the entries is
that of their numbers. -/
theorem entries_congr {other : Register α}
    (same : ∀ number, register.get? number = other.get? number) :
    register.entries = other.entries := by
  have distinct (register : Register α) : register.entries.Nodup :=
    register.descending.imp fun {first second} below equal =>
      Nat.ne_of_gt below (congrArg Prod.fst equal)
  have permuted : register.entries.Perm other.entries := by
    refine (List.perm_ext_iff_of_nodup (distinct register) (distinct other)).mpr fun entry => ?_
    rw [← get?_eq_some_iff, ← get?_eq_some_iff, same]
  exact permuted.eq_of_pairwise (fun _ _ _ _ below above => absurd below (Nat.lt_asymm above))
    register.descending other.descending

/-- A register is known by the next number and by what is found in it. -/
theorem ext_get? {other : Register α} (next : register.next = other.next)
    (same : ∀ number, register.get? number = other.get? number) : register = other := by
  have entries := entries_congr same
  cases register
  cases other
  cases next
  cases entries
  rfl

/-- Registers in which the same is found weigh the same. -/
theorem total_congr (weight : α → Nat) {other : Register α}
    (same : ∀ number, register.get? number = other.get? number) :
    register.total weight = other.total weight := by
  unfold total values
  rw [entries_congr same]

/-- One entry gives way to another or is removed, and all others stay. -/
structure Replaced (register next : Register α) (number : Nat) (before : α) (after? : Option α) :
    Prop where
  found : register.get? number = some before
  given : next.next = register.next
  own : next.get? number = after?
  others : ∀ other, other ≠ number → next.get? other = register.get? other
  weigh : ∀ weight : α → Nat,
    next.total weight + weight before = register.total weight + (after?.map weight).getD 0

/-- An entry that is put in place of another replaces it. -/
theorem replaced_put {before : α} (found : register.get? number = some before) (after : α) :
    Replaced register (register.put number after) number before (some after) where
  found := found
  given := rfl
  own := by simp [get?_put, found]
  others other different := by simp [get?_put, different]
  weigh weight := total_put weight found

/-- An entry that is removed gives way to none. -/
theorem replaced_remove {before : α} (found : register.get? number = some before) :
    Replaced register (register.remove number) number before none where
  found := found
  given := rfl
  own := by simp [get?_remove]
  others other different := by simp [get?_remove, different]
  weigh weight := total_remove weight found

end Standby.Register
