/-!
# Height of a pattern

A pattern is a tree. Letters and places in the text have no height, and what holds
something is higher by one than the highest part that it holds. Parts side by side
are held together unless there is only one of them.
-/

namespace Standby.Log.Pattern

/-- The height of parts side by side. -/
def sideBySide : List Nat → Nat
  | [] => 0
  | [height] => height
  | heights => heights.foldl max 0 + 1

/-- The greatest height that a pattern may have. -/
def greatestHeight : Nat := 250

end Standby.Log.Pattern
