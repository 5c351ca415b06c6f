import Standby.Text.Blank

/-!
# Modes of a pattern

A pattern is read in one of several ways, which flags within it change. In the
spaced mode, blanks and comments may stand between the parts of a pattern and are
passed over. Passing over them twice is passing over them once.
-/

namespace Standby.Log.Pattern

open Text (isBlank)

/-- How a pattern is read from some place on. -/
structure Modes where
  /-- Letters are in any case. -/
  caseless : Bool
  unicode : Bool
  /-- Blanks and comments are passed over. -/
  spaced : Bool
deriving DecidableEq, Repr

/-- The text after blanks and comments; a comment ends with its line. -/
def skipBlanks (inComment : Bool) : List Char → List Char
  | [] => []
  | character :: rest =>
    if inComment then skipBlanks (character != '\n') rest
    else if character == '#' then skipBlanks true rest
    else if isBlank character then skipBlanks false rest
    else character :: rest

namespace Modes

/-- The modes at the start of a pattern. -/
def initial : Modes := ⟨false, true, false⟩

/-- Turn the mode of a flag on or off; some flags change only what is matched. -/
def set? (modes : Modes) (flag : Char) (value : Bool) : Option Modes :=
  match flag with
  | 'i' => some { modes with caseless := value }
  | 'u' => some { modes with unicode := value }
  | 'x' => some { modes with spaced := value }
  | 'm' | 's' | 'U' | 'R' => some modes
  | _ => none

/-- Pass over what the modes do not read. -/
def skip (modes : Modes) (text : List Char) : List Char :=
  if modes.spaced then skipBlanks false text else text

/-- The character that tells whether a dash before the text stands for a range: the
next one, or in the spaced mode the first one that is no blank. A comment is then
looked into; only the mark that it begins with is passed over. -/
def peek? (modes : Modes) (text : List Char) : Option Char :=
  if modes.spaced then
    match text.dropWhile isBlank with
    | '#' :: rest => (rest.dropWhile isBlank).head?
    | rest => rest.head?
  else text.head?

/-- Letters can be asked for without a table of cases. -/
def letters (modes : Modes) : Bool := !(modes.caseless && modes.unicode)

/-- Read flags up to the mark that ends them, with those before, the last one
first. After a dash flags turn modes off. None comes twice, a dash is followed by a
flag, and there are some unless they are those of a group. -/
def flags? (modes : Modes) (before : List Char) : List Char → Option (Modes × List Char)
  | [] => none
  | character :: rest =>
    let dangling := before.head? == some '-'
    if character == ':' then
      if dangling then none else some (modes, character :: rest)
    else if character == ')' then
      if dangling || before.isEmpty then none else some (modes, character :: rest)
    else if before.contains character then none
    else if character == '-' then modes.flags? (character :: before) rest
    else do (← modes.set? character (!before.contains '-')).flags? (character :: before) rest

end Modes

/-- Nothing is left to pass over after passing over it. -/
theorem skipBlanks_skipBlanks (inComment : Bool) (text : List Char) :
    skipBlanks false (skipBlanks inComment text) = skipBlanks inComment text := by
  induction text generalizing inComment with
  | nil => rfl
  | cons character rest inductionHypothesis =>
    by_cases commented : inComment
    · simp [skipBlanks, commented, inductionHypothesis]
    · by_cases marked : character = '#'
      · simp [skipBlanks, commented, marked, inductionHypothesis]
      · by_cases blank : isBlank character
        · simp [skipBlanks, commented, marked, blank, inductionHypothesis]
        · simp [skipBlanks, commented, marked, blank]

/-- Passing over what the modes do not read is done once and for all. -/
theorem Modes.skip_skip (modes : Modes) (text : List Char) :
    modes.skip (modes.skip text) = modes.skip text := by
  by_cases spaced : modes.spaced
  · simp [skip, spaced, skipBlanks_skipBlanks]
  · simp [skip, spaced]

end Standby.Log.Pattern
