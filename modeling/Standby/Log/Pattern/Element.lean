import Standby.Log.Pattern.Modes

/-!
# Elements of a pattern

What an escape stands for: a letter, a class by its letter, or a place in the text.
Patterns are matched without the tables of Unicode. What needs one is refused
unless Unicode is turned off: classes by a letter, the borders of words, and
letters in any case. With Unicode off, a pattern must still ask for whole
characters only.
-/

namespace Standby.Log.Pattern

/-- What an escape stands for. -/
inductive Element where
  /-- A character by its code. It stands for a byte if two hexadecimal digits gave
  the code. -/
  | letter (code : Nat) (byte : Bool)
  /-- A class by its letter. -/
  | shorthand (negated : Bool)
  /-- The start or the end of the text. -/
  | edge
  /-- A border of a word, or its absence. -/
  | border
deriving DecidableEq, Repr

/-- The value of a hexadecimal digit. -/
def hexDigit? (character : Char) : Option Nat :=
  if character.isDigit then some (character.toNat - '0'.toNat)
  else if 'a' ≤ character && character ≤ 'f' then some (character.toNat - 'a'.toNat + 10)
  else if 'A' ≤ character && character ≤ 'F' then some (character.toNat - 'A'.toNat + 10)
  else none

/-- What a backslash and one character stand for. Letters and digits that mean
nothing are refused, and so is all that is not ASCII. -/
def Element.ofEscaped? (character : Char) : Option Element :=
  match character with
  | 'd' | 's' | 'w' => some (.shorthand false)
  | 'D' | 'S' | 'W' => some (.shorthand true)
  | 'a' => some (.letter 0x07 false)
  | 't' => some (.letter 0x09 false)
  | 'n' => some (.letter 0x0A false)
  | 'v' => some (.letter 0x0B false)
  | 'f' => some (.letter 0x0C false)
  | 'r' => some (.letter 0x0D false)
  | 'A' | 'z' => some .edge
  | 'b' | 'B' | '<' | '>' => some .border
  | _ =>
    if character.toNat < 0x80 && !character.isAlphanum then
      some (.letter character.toNat false)
    else none

namespace Modes

/-- Read so many hexadecimal digits after those of a given value. They must give
the code of a character. -/
def code? (modes : Modes) (value : Nat) : Nat → List Char → Option (Nat × List Char)
  | 0, text => if value.isValidChar then some (value, text) else none
  | count + 1, text =>
    match modes.skip text with
    | [] => none
    | digit :: rest => do modes.code? (16 * value + (← hexDigit? digit)) count rest

/-- Read what stands after a backslash. -/
def escaped? (modes : Modes) : List Char → Option (Element × List Char)
  | [] => none
  | 'x' :: rest => do
    let (code, rest) ← modes.code? 0 2 rest
    return (.letter code true, rest)
  | 'u' :: rest => do
    let (code, rest) ← modes.code? 0 4 rest
    return (.letter code false, rest)
  | 'U' :: rest => do
    let (code, rest) ← modes.code? 0 8 rest
    return (.letter code false, rest)
  | character :: rest => do return (← Element.ofEscaped? character, rest)

/-- A class by its letter can be asked for. -/
def acceptsShorthand (modes : Modes) (negated : Bool) : Bool := !modes.unicode && !negated

/-- An element can be asked for outside of bracketed classes. -/
def accepts (modes : Modes) : Element → Bool
  | .letter code byte => modes.letters && (modes.unicode || !byte || code < 0x80)
  | .shorthand negated => modes.acceptsShorthand negated
  | .edge => true
  | .border => !modes.unicode

/-- An element can be asked for in a bracketed class. -/
def acceptsItem (modes : Modes) : Element → Bool
  | .letter code _ => modes.letters && (modes.unicode || code < 0x80)
  | .shorthand negated => modes.acceptsShorthand negated
  | .edge | .border => false

end Modes

end Standby.Log.Pattern
