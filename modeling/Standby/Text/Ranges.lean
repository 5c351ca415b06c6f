/-!
# Sets of characters as ranges

Properties of characters are given by the standard as closed ranges of code
points. A set is the list of its ranges; membership asks each range in turn, so
it does not depend on the order of the list.
-/

namespace Standby.Text

/-- A set of characters, as a list of closed ranges of code points. -/
abbrev Ranges := List (Nat × Nat)

/-- A character belongs to the set when one of the ranges holds its code point. -/
def Ranges.contains (ranges : Ranges) (character : Char) : Bool :=
  ranges.any fun range =>
    Nat.ble range.1 character.toNat && Nat.ble character.toNat range.2

/-- Membership is a property of the ranges, not of their order or number. -/
theorem Ranges.contains_iff (ranges : Ranges) (character : Char) :
    ranges.contains character = true ↔
      ∃ range ∈ ranges, range.1 ≤ character.toNat ∧ character.toNat ≤ range.2 := by
  simp [Ranges.contains]

end Standby.Text
