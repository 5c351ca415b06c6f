/-!
# JSON

The values that log lines and statistics are made of, and their compact text.
Only the quotation mark, the backslash and the characters below the space are
escaped, so every other character stands for itself and a text without control
characters is one line.
-/

namespace Standby

mutual

/-- A JSON value. Numbers are whole. -/
inductive Json where
  | text (content : String)
  | integer (number : Int)
  | truth (value : Bool)
  | object (members : Members)

/-- The members of an object, in the order in which they are written. -/
inductive Members where
  | none
  | member (name : String) (value : Json) (rest : Members)

end

namespace Members

/-- The members of a list of names and values, in its order. -/
def ofList : List (String × Json) → Members
  | [] => .none
  | (name, value) :: rest => .member name value (ofList rest)

/-- The names and values of an object, in order. -/
def toList : Members → List (String × Json)
  | .none => []
  | .member name value rest => (name, value) :: rest.toList

/-- Members made from a list are those of the list, in order. -/
@[simp] theorem toList_ofList (members : List (String × Json)) :
    (ofList members).toList = members := by
  induction members with
  | nil => rfl
  | cons first rest inductionHypothesis => simp [ofList, toList, inductionHypothesis]

end Members

namespace Json

/-- Two hexadecimal digits. -/
def hexPair (code : Nat) : List Char := [Nat.digitChar (code / 16), Nat.digitChar (code % 16)]

/-- The text of one character inside a JSON string. -/
def escape (character : Char) : List Char :=
  match character with
  | '"' => ['\\', '"']
  | '\\' => ['\\', '\\']
  | '\x08' => ['\\', 'b']
  | '\t' => ['\\', 't']
  | '\n' => ['\\', 'n']
  | '\x0c' => ['\\', 'f']
  | '\r' => ['\\', 'r']
  | _ =>
    if character.toNat < 0x20 then ['\\', 'u', '0', '0'] ++ hexPair character.toNat
    else [character]

/-- A JSON string. -/
def writeText (content : String) : List Char := '"' :: content.toList.flatMap escape ++ ['"']

mutual

/-- The compact text of a value. -/
def write : Json → List Char
  | .text content => writeText content
  | .integer number => (toString number).toList
  | .truth value => (if value then "true" else "false").toList
  | .object members => '\x7b' :: writeMembers true members ++ ['\x7d']

/-- The text between the braces of an object. A comma stands before every member
but the first. -/
def writeMembers (first : Bool) : Members → List Char
  | .none => []
  | .member name value rest =>
    (if first then [] else [',']) ++ writeText name ++ ':' :: write value
      ++ writeMembers false rest

end

/-- The compact text of a value, as a string. -/
def render (value : Json) : String := String.ofList value.write

/-- An object with the given members. -/
def ofMembers (members : List (String × Json)) : Json := .object (.ofList members)

end Json

/-- Members sorted by name, each name once. -/
abbrev SortedMembers := List (String × Json)

/-- Set a member. A later value of the same name replaces the earlier one. -/
def SortedMembers.put (name : String) (value : Json) : SortedMembers → SortedMembers
  | [] => [(name, value)]
  | (other, held) :: rest =>
    if name < other then (name, value) :: (other, held) :: rest
    else if name = other then (name, value) :: rest
    else (other, held) :: put name value rest

end Standby
