/-!
# Registers

Entries under numbers that are given out once, in order, and never again. A
register holds only the entries that still matter; what was removed leaves no
trace but a gap in the numbers. The main statements say which entry is found
under a number after each change.
-/

namespace Standby

namespace Entries

variable {κ α : Type} [BEq κ] [LawfulBEq κ]

/-- An entry that is changed, given its key, is found under this key as before. -/
theorem lookup_map (entries : List (κ × α)) (change : κ → α → α) (sought : κ) :
    (entries.map fun entry => (entry.1, change entry.1 entry.2)).lookup sought =
      (entries.lookup sought).map (change sought) := by
  induction entries with
  | nil => rfl
  | cons first rest inductionHypothesis =>
    obtain ⟨key, value⟩ := first
    cases same : sought == key with
    | true => simp [eq_of_beq same]
    | false => simp only [List.map_cons, List.lookup_cons, same, inductionHypothesis]

/-- Among the entries of chosen keys the chosen keys are found as before. -/
theorem lookup_filter (chosen : κ → Bool) (entries : List (κ × α)) (sought : κ) :
    (entries.filter fun entry => chosen entry.1).lookup sought =
      if chosen sought then entries.lookup sought else none := by
  induction entries with
  | nil => simp
  | cons first rest inductionHypothesis =>
    obtain ⟨key, value⟩ := first
    cases same : sought == key with
    | true =>
      obtain rfl := eq_of_beq same
      cases kept : chosen sought <;> simp [kept, inductionHypothesis]
    | false =>
      cases kept : chosen key <;>
        simp only [List.filter_cons, kept, Bool.false_eq_true, if_false, if_true,
          List.lookup_cons, same, inductionHypothesis]

end Entries

/-- Numbered entries, the latest first. -/
structure Register (α : Type) where
  /-- The number of the next entry. -/
  next : Nat
  entries : List (Nat × α)
  /-- Every number was given out before, and only once. -/
  descending : entries.Pairwise (fun earlier later => later.1 < earlier.1)
  given : ∀ entry ∈ entries, entry.1 < next

namespace Register

variable {α : Type}

/-- No entries yet. -/
def empty : Register α := ⟨0, [], .nil, by simp⟩

/-- Add an entry under the next number. -/
def add (register : Register α) (value : α) : Register α where
  next := register.next + 1
  entries := (register.next, value) :: register.entries
  descending := .cons (fun entry member => register.given entry member) register.descending
  given := by
    intro entry member
    cases member with
    | head => exact Nat.lt_succ_self _
    | tail _ earlier => exact Nat.lt_succ_of_lt (register.given entry earlier)

/-- The entry under a number. -/
def get? (register : Register α) (number : Nat) : Option α := register.entries.lookup number

/-- Change every entry, given its number. -/
def map (register : Register α) (change : Nat → α → α) : Register α where
  next := register.next
  entries := register.entries.map fun entry => (entry.1, change entry.1 entry.2)
  descending := by
    rw [List.pairwise_map]
    exact register.descending
  given := by
    intro entry member
    obtain ⟨earlier, held, rfl⟩ := List.mem_map.mp member
    exact register.given earlier held

/-- Replace the entry under a number, if there is one. -/
def put (register : Register α) (number : Nat) (value : α) : Register α :=
  register.map fun other held => if other = number then value else held

/-- Remove the entry under a number. -/
def remove (register : Register α) (number : Nat) : Register α where
  next := register.next
  entries := register.entries.filter fun entry => entry.1 != number
  descending := register.descending.filter _
  given := fun entry member => register.given entry (List.mem_filter.mp member).1

/-- The entries without their numbers. -/
def values (register : Register α) : List α := register.entries.map (·.2)

/-- There are no entries. -/
def isEmpty (register : Register α) : Bool := register.entries.isEmpty

/-- Numbers that were not given out hold nothing. -/
theorem get?_of_le (register : Register α) {number : Nat} (later : register.next ≤ number) :
    register.get? number = none :=
  List.lookup_eq_none_iff.mpr fun entry member => bne_iff_ne.mpr
    (Nat.ne_of_gt (Nat.lt_of_lt_of_le (register.given entry member) later))

/-- Nothing is found in an empty register. -/
@[simp] theorem get?_empty (number : Nat) : (empty : Register α).get? number = none := rfl

/-- The new entry stands under the next number, and the others stay. -/
theorem get?_add (register : Register α) (value : α) (number : Nat) :
    (register.add value).get? number =
      if number = register.next then some value else register.get? number := by
  by_cases same : number = register.next
  · simp [get?, add, same]
  · have different : (number == register.next) = false := by simpa using same
    simp [get?, add, List.lookup_cons, different, same]

/-- A changed entry is found under its number. -/
@[simp] theorem get?_map (register : Register α) (change : Nat → α → α) (number : Nat) :
    (register.map change).get? number = (register.get? number).map (change number) :=
  Entries.lookup_map _ _ _

/-- A replacement stands where something stood before. -/
theorem get?_put (register : Register α) (number other : Nat) (value : α) :
    (register.put number value).get? other =
      if other = number then (register.get? number).map (fun _ => value)
      else register.get? other := by
  by_cases same : other = number
  · simp [put, same]
  · simp [put, same]

/-- A removed entry is gone, and the others stay. -/
theorem get?_remove (register : Register α) (number other : Nat) :
    (register.remove number).get? other =
      if other = number then none else register.get? other := by
  refine (Entries.lookup_filter (· != number) register.entries other).trans ?_
  by_cases same : other = number <;> simp [get?, same]

end Register

end Standby
