import Mathlib.Data.List.Nodup
import Mathlib.Data.List.Perm.Basic
import Mathlib.Data.List.Perm.Subperm

/-!
# Counting in lists that change

How the number of entries with a property changes when one entry changes, and how
it is found from the positions of the entries. The properties are Boolean, and one
entry counts as `Bool.toNat` says.
-/

namespace Standby.Counting

variable {α : Type}

/-- What an entry counts, by cases. -/
theorem toNat_eq_ite (counts : Bool) : counts.toNat = if counts then 1 else 0 := by
  cases counts <;> rfl

/-- A first entry counts for itself, and the others as before. -/
theorem countP_cons (p : α → Bool) (first : α) (rest : List α) :
    (first :: rest).countP p = rest.countP p + (p first).toNat := by
  cases counts : p first <;> simp [counts]

/-- A new entry stands behind all others. -/
theorem getElem?_concat (entries : List α) (last : α) (position : Nat) :
    (entries ++ [last])[position]? =
      if position = entries.length then some last else entries[position]? := by
  rcases Nat.lt_trichotomy position entries.length with before | rfl | beyond
  · rw [List.getElem?_append_left before, if_neg (Nat.ne_of_lt before)]
  · rw [List.getElem?_concat_length, if_pos rfl]
  · have short : (entries ++ [last]).length ≤ position := by
      rw [List.length_append]
      exact beyond
    rw [if_neg (Nat.ne_of_gt beyond), List.getElem?_eq_none short,
      List.getElem?_eq_none (Nat.le_of_lt beyond)]

/-- What holds of all entries still does when it holds of the one that has changed. -/
theorem forall_modify {P : α → Prop} {change : α → α} {entries : List α} {position : Nat}
    {entry : α} (found : entries[position]? = some entry) (all : ∀ held ∈ entries, P held)
    (changed : P (change entry)) : ∀ held ∈ entries.modify position change, P held := by
  intro held member
  obtain ⟨other, stands⟩ := List.mem_iff_getElem?.mp member
  by_cases same : position = other
  · subst same
    obtain rfl : change entry = held := by simpa [found] using stands
    exact changed
  · rw [List.getElem?_modify_ne _ _ same] at stands
    exact all held (List.mem_of_getElem? stands)

/-- The sum of the weights of all entries. -/
def total (weight : α → Nat) : List α → Nat
  | [] => 0
  | first :: rest => weight first + total weight rest

/-- Changing one entry changes the total by the difference of its weights. -/
theorem total_modify (weight : α → Nat) (change : α → α) (entries : List α) (position : Nat)
    (entry : α) (found : entries[position]? = some entry) :
    total weight (entries.modify position change) + weight entry =
      total weight entries + weight (change entry) := by
  induction entries generalizing position with
  | nil => simp at found
  | cons first rest inductionHypothesis =>
    cases position with
    | zero =>
      obtain rfl : first = entry := by simpa using found
      simp only [List.modify_zero_cons, total]
      omega
    | succ position =>
      have later := inductionHypothesis position (by simpa using found)
      simp only [List.modify_succ_cons, total]
      omega

/-- Where every weight is the sum of two others, so is the total. -/
theorem total_split {weight first second : α → Nat} {entries : List α}
    (split : ∀ entry ∈ entries, weight entry = first entry + second entry) :
    total weight entries = total first entries + total second entries := by
  induction entries with
  | nil => rfl
  | cons entry rest inductionHypothesis =>
    have head := split entry List.mem_cons_self
    have tail := inductionHypothesis fun entry member =>
      split entry (List.mem_cons_of_mem _ member)
    simp only [total]
    omega

/-- To count entries is to weigh them by what they count. -/
theorem total_toNat (p : α → Bool) (entries : List α) :
    total (fun entry => (p entry).toNat) entries = entries.countP p := by
  induction entries with
  | nil => rfl
  | cons first rest inductionHypothesis =>
    rw [total, inductionHypothesis, countP_cons, Nat.add_comm]

/-- Changing one entry changes the count by what this entry counts. -/
theorem countP_modify (p : α → Bool) (change : α → α) (entries : List α) (position : Nat)
    (entry : α) (found : entries[position]? = some entry) :
    (entries.modify position change).countP p + (p entry).toNat =
      entries.countP p + (p (change entry)).toNat := by
  rw [← total_toNat, ← total_toNat]
  exact total_modify (fun entry => (p entry).toNat) change entries position entry found

/-- Replacing one entry changes the count by what the two entries count. -/
theorem countP_set (p : α → Bool) (entries : List α) (position : Nat) (entry next : α)
    (found : entries[position]? = some entry) :
    (entries.set position next).countP p + (p entry).toNat =
      entries.countP p + (p next).toNat := by
  rw [List.set_eq_modify]
  exact countP_modify p (fun _ => next) entries position entry found

/-- A count stays when every entry counts as before, whatever became of it. -/
theorem countP_mapIdx (p q : α → Bool) (change : Nat → α → α) (entries : List α)
    (same : ∀ position entry, entries[position]? = some entry →
      p (change position entry) = q entry) :
    (entries.mapIdx change).countP p = entries.countP q := by
  induction entries generalizing change with
  | nil => rfl
  | cons first rest inductionHypothesis =>
    have head : p (change 0 first) = q first := same 0 first rfl
    have tail : (rest.mapIdx fun position => change (position + 1)).countP p = rest.countP q :=
      inductionHypothesis (fun position => change (position + 1)) fun position entry found =>
        same (position + 1) entry (by simpa using found)
    simp only [List.mapIdx_cons, List.countP_cons, head, tail]

/-- Entries may be counted by their positions. -/
theorem countP_range (p : α → Bool) (q : Nat → Bool) (entries : List α)
    (same : ∀ position entry, entries[position]? = some entry → q position = p entry) :
    (List.range entries.length).countP q = entries.countP p := by
  induction entries generalizing q with
  | nil => rfl
  | cons first rest inductionHypothesis =>
    have head : q 0 = p first := same 0 first rfl
    have tail : (List.range rest.length).countP (q ∘ Nat.succ) = rest.countP p :=
      inductionHypothesis (q ∘ Nat.succ) fun position entry found =>
        same (position + 1) entry (by simpa using found)
    rw [List.length_cons, List.range_succ_eq_map, List.countP_cons, List.countP_map,
      List.countP_cons, head, tail]

/-- A list of positions without repetition that names exactly the entries with a
property is as long as there are such entries. -/
theorem length_of_positions (p : α → Bool) (entries : List α) (positions : List Nat)
    (distinct : positions.Nodup)
    (named : ∀ position, position ∈ positions ↔
      ∃ entry, entries[position]? = some entry ∧ p entry = true) :
    positions.length = entries.countP p := by
  let q (position : Nat) : Bool := decide (position ∈ positions)
  have counted : (List.range entries.length).countP q = entries.countP p := by
    apply countP_range p q entries
    intro position entry found
    rw [Bool.eq_iff_iff, decide_eq_true_iff, named]
    simp [found]
  have permuted : ((List.range entries.length).filter q).Perm positions := by
    refine (List.perm_ext_iff_of_nodup (List.nodup_range.filter q) distinct).mpr
      fun position => ?_
    simp only [List.mem_filter, List.mem_range, q, decide_eq_true_iff, and_iff_right_iff_imp]
    intro listed
    obtain ⟨entry, found, _⟩ := (named position).mp listed
    exact (List.getElem?_eq_some_iff.mp found).1
  rw [← counted, List.countP_eq_length_filter, permuted.length_eq]

/-- Entries that name different positions are not more than the entries found there. -/
theorem countP_le_of_named {β : Type} (p : α → Bool) (q : β → Bool) (name? : α → Option Nat)
    (entries : List α) (targets : List β)
    (once : ∀ position, entries.countP (fun entry => name? entry == some position) ≤ 1)
    (named : ∀ entry ∈ entries, p entry = true → ∃ position target,
      name? entry = some position ∧ targets[position]? = some target ∧ q target = true) :
    entries.countP p ≤ targets.countP q := by
  let names : List Nat := (entries.filter p).filterMap name?
  let positions : List Nat :=
    (List.range targets.length).filter fun position => targets[position]?.any q
  have all : names.length = entries.countP p := by
    rw [List.countP_eq_length_filter, List.length_filterMap_eq_countP, List.countP_eq_length]
    intro entry member
    obtain ⟨inside, counts⟩ := List.mem_filter.mp member
    obtain ⟨position, _, same, _⟩ := named entry inside counts
    simp [same]
  have distinct : names.Nodup := by
    refine List.nodup_iff_count_le_one.mpr fun position => ?_
    calc names.count position
        = (entries.filter p).countP (fun entry => name? entry == some position) := by
          rw [List.count, List.countP_filterMap]
          refine List.countP_congr fun entry _ => ?_
          cases same : name? entry <;> simp
      _ ≤ entries.countP (fun entry => name? entry == some position) :=
          List.filter_sublist.countP_le
      _ ≤ 1 := once position
  have inside : names ⊆ positions := by
    intro position listed
    obtain ⟨entry, member, same⟩ := List.mem_filterMap.mp listed
    obtain ⟨held, counts⟩ := List.mem_filter.mp member
    obtain ⟨found, target, named, stands, satisfied⟩ := named entry held counts
    obtain rfl : found = position := Option.some.inj (named.symm.trans same)
    exact List.mem_filter.mpr ⟨List.mem_range.mpr (List.getElem?_eq_some_iff.mp stands).1,
      by simp [stands, satisfied]⟩
  calc entries.countP p = names.length := all.symm
    _ ≤ positions.length := (distinct.subperm inside).length_le
    _ = targets.countP q := by
        rw [← List.countP_eq_length_filter]
        exact countP_range q _ targets fun position target found => by simp [found]

/-- Replacing one entry changes the total by the difference of the two weights. -/
theorem total_set (weight : α → Nat) (entries : List α) (position : Nat) (entry next : α)
    (found : entries[position]? = some entry) :
    total weight (entries.set position next) + weight entry =
      total weight entries + weight next := by
  rw [List.set_eq_modify]
  exact total_modify weight (fun _ => next) entries position entry found

/-- A further entry adds its weight. -/
theorem total_concat (weight : α → Nat) (entries : List α) (last : α) :
    total weight (entries ++ [last]) = total weight entries + weight last := by
  induction entries with
  | nil => simp [total]
  | cons first rest inductionHypothesis =>
    simp only [List.cons_append, total, inductionHypothesis]
    omega

/-- A total stays when every entry weighs as before, whatever became of it. -/
theorem total_mapIdx (weight : α → Nat) (change : Nat → α → α) (entries : List α)
    (same : ∀ position entry, entries[position]? = some entry →
      weight (change position entry) = weight entry) :
    total weight (entries.mapIdx change) = total weight entries := by
  induction entries generalizing change with
  | nil => rfl
  | cons first rest inductionHypothesis =>
    have head : weight (change 0 first) = weight first := same 0 first rfl
    have tail : total weight (rest.mapIdx fun position => change (position + 1)) =
        total weight rest :=
      inductionHypothesis (fun position => change (position + 1)) fun position entry found =>
        same (position + 1) entry (by simpa using found)
    simp only [List.mapIdx_cons, total, head, tail]

/-- Entries that weigh nothing weigh nothing together. -/
theorem total_eq_zero {weight : α → Nat} {entries : List α}
    (none : ∀ entry ∈ entries, weight entry = 0) : total weight entries = 0 := by
  induction entries with
  | nil => rfl
  | cons first rest inductionHypothesis =>
    have tail : total weight rest = 0 :=
      inductionHypothesis fun entry member => none entry (List.mem_cons_of_mem first member)
    rw [total, none first List.mem_cons_self, tail]

/-- A property that every entry has in exactly one of two ways is counted by counting both. -/
theorem countP_add (p q r : α → Bool) (entries : List α)
    (split : ∀ entry ∈ entries, (p entry).toNat = (q entry).toNat + (r entry).toNat) :
    entries.countP p = entries.countP q + entries.countP r := by
  simp only [← total_toNat]
  exact total_split split

/-- A property that every entry has in exactly one of three ways is counted by
counting all three. -/
theorem countP_split (p q r s : α → Bool) (entries : List α)
    (split : ∀ entry ∈ entries,
      (p entry).toNat = (q entry).toNat + (r entry).toNat + (s entry).toNat) :
    entries.countP p = entries.countP q + entries.countP r + entries.countP s := by
  simp only [← total_toNat]
  rw [total_split split, total_split fun _ _ => rfl]

/-- Entries that have exactly one of four properties each are counted by counting all four. -/
theorem length_split (p q r s : α → Bool) (entries : List α)
    (split : ∀ entry, (p entry).toNat + (q entry).toNat + (r entry).toNat + (s entry).toNat = 1) :
    entries.length =
      entries.countP p + entries.countP q + entries.countP r + entries.countP s := by
  induction entries with
  | nil => rfl
  | cons first rest inductionHypothesis =>
    have head := split first
    simp only [countP_cons, List.length_cons]
    omega

end Standby.Counting
