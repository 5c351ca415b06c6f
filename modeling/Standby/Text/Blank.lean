import Standby.Text.Ranges

/-!
# White space

The characters with the Unicode property White_Space, and the trimming that
removes them from both ends of a text. Zero-width characters and the byte-order
mark are not white space. Trimming twice is trimming once.
-/

namespace Standby.Text

/-- The code points of the property White_Space. -/
def blankRanges : Ranges :=
  [(0x9, 0xD), (0x20, 0x20), (0x85, 0x85), (0xA0, 0xA0), (0x1680, 0x1680),
   (0x2000, 0x200A), (0x2028, 0x2029), (0x202F, 0x202F), (0x205F, 0x205F),
   (0x3000, 0x3000)]

/-- White space in the sense of the Unicode property. -/
def isBlank (character : Char) : Bool := blankRanges.contains character

/-- Drop the characters of a class from both ends of a text. -/
def trimBy (drops : Char → Bool) (text : List Char) : List Char :=
  ((text.dropWhile drops).reverse.dropWhile drops).reverse

/-- Drop white space from both ends of a text. -/
def trim (text : List Char) : List Char := trimBy isBlank text

/-- What starts with no member of the class is kept whole by dropping from the
front. -/
theorem dropWhile_eq_self {drops : Char → Bool} {text : List Char}
    (kept : ∀ first ∈ text.head?, drops first = false) : text.dropWhile drops = text := by
  cases text with
  | nil => rfl
  | cons first rest => simp [kept first (by simp)]

/-- The remainder of dropping from the front starts with no member of the class. -/
theorem head?_dropWhile_eq_false {drops : Char → Bool} (text : List Char) :
    ∀ first ∈ (text.dropWhile drops).head?, drops first = false := by
  induction text with
  | nil => simp
  | cons first rest inductionHypothesis =>
    by_cases dropped : drops first
    · simpa [dropped] using inductionHypothesis
    · simp [dropped]

end Standby.Text
