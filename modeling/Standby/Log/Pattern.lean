import Standby.Log.Pattern.Bracket
import Standby.Text.NumberTable

/-!
# Patterns

A condition of a log filter may hold a regular expression for the value of a
field. This module tells which texts are patterns. It does not match them, for a
condition on a value concerns no event of this program.

A pattern is read from left to right, with the levels that are open: one for the
whole, and one for each group that has not ended. A level keeps the height of what
it holds, for a pattern that is too high is refused.

A brace after which a number of repetitions would stand is refused. A condition
ends at its first closing brace, so none is ever complete.
-/

namespace Standby.Log

open Text (isAlphabetic isAlphanumeric)

namespace Pattern

/-- A part of a pattern. -/
structure Piece where
  height : Nat
  /-- It can be repeated. -/
  repeatable : Bool
deriving DecidableEq, Repr

/-- What was read of a pattern or of a group. -/
structure Level where
  /-- The heights of the alternatives that are complete. -/
  alternatives : List Nat
  /-- The pieces of the last alternative, the last one first. -/
  pieces : List Piece
deriving DecidableEq, Repr

namespace Level

/-- A level of which nothing was read. -/
def empty : Level := ⟨[], []⟩

/-- The height of the last alternative. -/
def alternative (level : Level) : Nat := sideBySide (level.pieces.map Piece.height)

/-- The height of the level. -/
def height (level : Level) : Nat := sideBySide (level.alternative :: level.alternatives)

/-- The level with a further piece. -/
def put (level : Level) (piece : Piece) : Level :=
  { level with pieces := piece :: level.pieces }

/-- The level with its last piece repeated. -/
def repeated? (level : Level) : Option Level :=
  match level.pieces with
  | piece :: pieces =>
    if piece.repeatable then some { level with pieces := ⟨piece.height + 1, true⟩ :: pieces }
    else none
  | [] => none

/-- The level with a further alternative. -/
def branch (level : Level) : Level := ⟨level.alternative :: level.alternatives, []⟩

end Level

/-- What is known at some place of a pattern. -/
structure State where
  modes : Modes
  level : Level
  /-- The levels around, the innermost first, each with the modes to return to. -/
  outer : List (Level × Modes)
  /-- The names of the groups so far. -/
  names : List (List Char)
deriving DecidableEq, Repr

namespace State

/-- The state at the start of a pattern. -/
def initial : State := ⟨.initial, .empty, [], []⟩

/-- Something was read that can be repeated. -/
def read (state : State) (height : Nat) : State :=
  { state with level := state.level.put ⟨height, true⟩ }

/-- Go on if what was read is accepted. -/
def readIf (state : State) (accepted : Bool) (rest : List Char) : Option (State × List Char) :=
  if accepted then some (state.read 0, rest) else none

/-- A group with the given modes was opened. -/
def opened (state : State) (modes : Modes) : State :=
  { state with modes, level := .empty, outer := (state.level, state.modes) :: state.outer }

/-- The modes of the level were changed. -/
def changed (state : State) (modes : Modes) : State :=
  { state with modes, level := state.level.put ⟨0, false⟩ }

/-- The innermost group was closed. -/
def closed? (state : State) : Option State :=
  match state.outer with
  | (level, modes) :: outer =>
    some { state with modes, outer, level := level.put ⟨state.level.height + 1, true⟩ }
  | [] => none

/-- A pattern may end here. -/
def mayEnd (state : State) : Bool :=
  state.outer.isEmpty && decide (state.level.height ≤ greatestHeight)

end State

/-- A character that a name of a group may begin with. -/
def beginsGroupName (character : Char) : Bool := character == '_' || isAlphabetic character

/-- A character that a name of a group may hold. -/
def inGroupName (character : Char) : Bool :=
  character == '_' || character == '.' || character == '[' || character == ']'
    || isAlphanumeric character

/-- Read the name of a group, up to the mark that ends it. -/
def groupName? (text : List Char) : Option (List Char × List Char) :=
  match text.takeWhile (· != '>'), text.dropWhile (· != '>') with
  | first :: others, _ :: rest =>
    if beginsGroupName first && others.all inGroupName then some (first :: others, rest) else none
  | _, _ => none

namespace State

/-- Read the name of a group, which is used once. -/
def named? (state : State) (text : List Char) : Option (State × List Char) := do
  let (name, rest) ← groupName? text
  if state.names.contains name then none
  else some ({ state.opened state.modes with names := name :: state.names }, rest)

/-- Read what stands after an opening parenthesis: the name or the flags of a
group, flags alone, or at once what is in the group. -/
def group? (state : State) : List Char → Option (State × List Char)
  | '?' :: 'P' :: '<' :: rest | '?' :: '<' :: rest => state.named? rest
  | '?' :: rest => do
    match ← state.modes.flags? [] rest with
    | (modes, ':' :: rest) => some (state.opened modes, rest)
    | (modes, rest) => some (state.changed modes, rest.drop 1)
  | rest => some (state.opened state.modes, rest)

/-- Read a sign of repetition, and a question mark directly after it. -/
def repeated? (state : State) (rest : List Char) : Option (State × List Char) := do
  let level ← state.level.repeated?
  return ({ state with level }, if rest.head? == some '?' then rest.drop 1 else rest)

/-- Read one part of a pattern. -/
def step? (state : State) : List Char → Option (State × List Char)
  | [] => none
  | '(' :: rest => state.group? (state.modes.skip rest)
  | ')' :: rest => do return (← state.closed?, rest)
  | '|' :: rest => some ({ state with level := state.level.branch }, rest)
  | '[' :: rest => do
    let (height, rest) ← state.modes.class? rest
    return (state.read height, rest)
  | '*' :: rest | '+' :: rest | '?' :: rest => state.repeated? rest
  | '\x7b' :: _ => none
  | '.' :: rest => state.readIf state.modes.unicode rest
  | '^' :: rest | '$' :: rest => state.readIf true rest
  | '\\' :: rest => do
    let (element, rest) ← state.modes.escaped? rest
    state.readIf (state.modes.accepts element) rest
  | _ :: rest => state.readIf state.modes.letters rest

/-- The text completes a pattern from a state. The first number bounds the steps. -/
def completes : Nat → State → List Char → Bool
  | 0, _, _ => false
  | fuel + 1, state, text =>
    match state.modes.skip text with
    | [] => state.mayEnd
    | text =>
      match state.step? text with
      | some (next, rest) => completes fuel next rest
      | none => false

end State

/-- The text is a pattern. Each step reads a character at least. -/
def isPattern (text : List Char) : Bool := State.completes (text.length + 1) .initial text

end Pattern

end Standby.Log
