import Standby.Log.Pattern.Element
import Standby.Log.Pattern.Height

/-!
# Bracketed classes

A class in brackets holds letters, ranges of letters, classes by a letter or by a
name, and further classes in brackets. Operators of two like characters divide it.
Reading a class tells its height and the text after it.

Dashes that begin a class stand for themselves, and so does a closing bracket at
its very beginning.
-/

namespace Standby.Log.Pattern

/-- The names of the classes of ASCII characters. -/
def classNames : List String :=
  ["alnum", "alpha", "ascii", "blank", "cntrl", "digit", "graph", "lower", "print", "punct",
    "space", "upper", "word", "xdigit"]

/-- Read a class by its name after the opening bracket; tells whether it is
negated. -/
def namedClass? (text : List Char) : Option (Bool × List Char) :=
  let named (negated : Bool) (text : List Char) : Option (Bool × List Char) :=
    match text.dropWhile (· != ':') with
    | ':' :: ']' :: rest =>
      if classNames.contains (String.ofList (text.takeWhile (· != ':'))) then
        some (negated, rest)
      else none
    | _ => none
  match text with
  | ':' :: '^' :: rest => named true rest
  | ':' :: rest => named false rest
  | _ => none

/-- The operators on classes are two of these characters. -/
def isOperator (character : Char) : Bool :=
  character == '-' || character == '&' || character == '~'

/-- What was read of a bracketed class. -/
structure Bracket where
  /-- There is nothing in it but dashes that begin it. -/
  fresh : Bool
  /-- The height of what stands before its last operator. -/
  left : Option Nat
  /-- The heights of the items since. -/
  items : List Nat
deriving DecidableEq, Repr

namespace Bracket

/-- A class that was opened. -/
def opened : Bracket := ⟨true, none, []⟩

/-- The height of what is in the class. -/
def height (bracket : Bracket) : Nat :=
  let right := sideBySide bracket.items
  match bracket.left with
  | some left => max left right + 1
  | none => right

/-- The class with a further item of the given height. -/
def put (bracket : Bracket) (height : Nat) : Bracket :=
  { bracket with fresh := false, items := height :: bracket.items }

/-- The class with a further dash that begins it. -/
def putDash (bracket : Bracket) : Bracket := { bracket with items := 0 :: bracket.items }

/-- The class with an operator after all that it holds. -/
def operate (bracket : Bracket) : Bracket := ⟨false, some bracket.height, []⟩

end Bracket

namespace Modes

/-- Read an opening bracket's caret, which negates the class. Without Unicode a
class cannot be negated, for it would hold bytes that are no characters. -/
def caret? (modes : Modes) (text : List Char) : Option (List Char) :=
  match modes.skip text with
  | '^' :: rest => if modes.unicode then some rest else none
  | rest => some rest

/-- Read an item of a class, and tell the code of the letter if it is one. -/
def item? (modes : Modes) (text : List Char) : Option (Option Nat × List Char) := do
  let (element, rest) ←
    match text with
    | [] => none
    | '\\' :: rest => modes.escaped? rest
    | character :: rest => some (Element.letter character.toNat false, rest)
  if modes.acceptsItem element then
    match element with
    | .letter code _ => some (some code, rest)
    | _ => some (none, rest)
  else none

/-- Read an item or a range of letters. A dash before the closing bracket or
before another dash stands for no range. -/
def itemOrRange? (modes : Modes) (text : List Char) : Option (List Char) := do
  let (low?, rest) ← modes.item? text
  match modes.skip rest with
  | '-' :: after =>
    if modes.peek? after == some ']' || modes.peek? after == some '-' then some ('-' :: after)
    else do
      let (high?, rest) ← modes.item? (modes.skip after)
      let low ← low?
      let high ← high?
      if low ≤ high then some rest else none
  | rest => some rest

/-- Read a class to its end, with the classes around it, the innermost first. The
first number bounds the steps. -/
def bracket? (modes : Modes) : Nat → Bracket → List Bracket → List Char →
    Option (Nat × List Char)
  | 0, _, _, _ => none
  | fuel + 1, bracket, outer, text =>
    match modes.skip text with
    | [] => none
    | '[' :: rest =>
      match namedClass? rest with
      | some (negated, rest) =>
        if modes.letters && (modes.unicode || !negated) then
          modes.bracket? fuel (bracket.put 0) outer rest
        else none
      | none => do modes.bracket? fuel .opened (bracket :: outer) (← modes.caret? rest)
    | ']' :: rest =>
      if bracket.fresh && bracket.items.isEmpty then
        if modes.letters then modes.bracket? fuel (bracket.put 0) outer rest else none
      else
        match outer with
        | [] => some (bracket.height + 1, rest)
        | around :: outer => modes.bracket? fuel (around.put (bracket.height + 1)) outer rest
    | character :: rest =>
      if bracket.fresh && character == '-' then
        if modes.letters then modes.bracket? fuel bracket.putDash outer rest else none
      else if isOperator character && rest.head? == some character then
        modes.bracket? fuel bracket.operate outer (rest.drop 1)
      else do modes.bracket? fuel (bracket.put 0) outer (← modes.itemOrRange? (character :: rest))

/-- Read a bracketed class after its opening bracket. -/
def class? (modes : Modes) (text : List Char) : Option (Nat × List Char) := do
  modes.bracket? (text.length + 1) .opened [] (← modes.caret? text)

end Modes

end Standby.Log.Pattern
