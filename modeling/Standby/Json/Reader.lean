import Standby.Json

/-!
# Reading JSON

The reader beside the writer. It takes JSON text in all its forms, with any white
space between the tokens and with every escape, and knows the values that this
library has. A text that needs another one, such as a fraction or an array, cannot
be read.
-/

namespace Standby.Json

/-- White space between tokens. -/
def isSpace (character : Char) : Bool := [' ', '\t', '\n', '\r'].contains character

/-- Skip white space. -/
def skipSpace (source : List Char) : List Char := source.dropWhile isSpace

/-- The value of a hexadecimal digit. -/
def hexDigit? (character : Char) : Option Nat :=
  if '0' ≤ character ∧ character ≤ '9' then some (character.toNat - '0'.toNat)
  else if 'a' ≤ character ∧ character ≤ 'f' then some (character.toNat - 'a'.toNat + 10)
  else if 'A' ≤ character ∧ character ≤ 'F' then some (character.toNat - 'A'.toNat + 10)
  else none

/-- The number that four hexadecimal digits stand for. -/
def unit? (first second third fourth : Char) : Option Nat := do
  let high := 16 * (← hexDigit? first) + (← hexDigit? second)
  let low := 16 * (← hexDigit? third) + (← hexDigit? fourth)
  return 256 * high + low

/-- The character that a letter after a backslash stands for. -/
def escaped? : Char → Option Char
  | '"' => some '"'
  | '\\' => some '\\'
  | '/' => some '/'
  | 'b' => some '\x08'
  | 'f' => some '\x0c'
  | 'n' => some '\n'
  | 'r' => some '\r'
  | 't' => some '\t'
  | _ => none

/-- The first half of a character beyond the basic plane. -/
def isHighHalf (unit : Nat) : Bool := Nat.ble 0xD800 unit && Nat.ble unit 0xDBFF

/-- The second half of a character beyond the basic plane. -/
def isLowHalf (unit : Nat) : Bool := Nat.ble 0xDC00 unit && Nat.ble unit 0xDFFF

/-- The character of two halves. -/
def joinHalves (high low : Nat) : Char :=
  Char.ofNat (0x10000 + 0x400 * (high - 0xD800) + (low - 0xDC00))

/-- A character that stands for itself in a text. -/
def isPlain (character : Char) : Bool := Nat.ble 0x20 character.toNat && character != '\\'

/-- Read a text after its opening quotation mark, up to the closing one. A half
of a character must stand with the other half. -/
def readText : List Char → Option (List Char × List Char)
  | [] => none
  | '"' :: rest => some ([], rest)
  | '\\' :: 'u' :: a :: b :: c :: d :: rest => do
    let unit ← unit? a b c d
    if isHighHalf unit then
      match rest with
      | '\\' :: 'u' :: e :: f :: g :: h :: rest =>
        let other ← unit? e f g h
        if isLowHalf other then
          (readText rest).map fun (content, after) => (joinHalves unit other :: content, after)
        else none
      | _ => none
    else if isLowHalf unit then none
    else (readText rest).map fun (content, after) => (Char.ofNat unit :: content, after)
  | '\\' :: letter :: rest => do
    let character ← escaped? letter
    (readText rest).map fun (content, after) => (character :: content, after)
  | character :: rest =>
    if isPlain character then
      (readText rest).map fun (content, after) => (character :: content, after)
    else none

/-- Read a whole number. Zero alone begins with a zero. -/
def readInteger (source : List Char) : Option (Int × List Char) :=
  let (negative, unsigned) :=
    match source with
    | '-' :: rest => (true, rest)
    | _ => (false, source)
  let digits := unsigned.takeWhile Char.isDigit
  if digits.isEmpty || (digits.head? == some '0' && digits.length != 1) then none
  else
    let magnitude : Int := Nat.ofDigitChars 10 digits 0
    some (if negative then -magnitude else magnitude, unsigned.dropWhile Char.isDigit)

mutual

/-- Read a value at the beginning of a text. The fuel bounds the tokens. -/
def readValue : Nat → List Char → Option (Json × List Char)
  | 0, _ => none
  | fuel + 1, source =>
    match skipSpace source with
    | '"' :: rest => (readText rest).map fun (content, after) => (.text (.ofList content), after)
    | 't' :: 'r' :: 'u' :: 'e' :: rest => some (.truth true, rest)
    | 'f' :: 'a' :: 'l' :: 's' :: 'e' :: rest => some (.truth false, rest)
    | '\x7b' :: rest =>
      match skipSpace rest with
      | '\x7d' :: after => some (.object .none, after)
      | _ => (readMembers fuel rest).map fun (members, after) => (.object members, after)
    | rest => (readInteger rest).map fun (number, after) => (.integer number, after)

/-- Read the members of an object, of which there is at least one, and the brace
that ends it. -/
def readMembers : Nat → List Char → Option (Members × List Char)
  | 0, _ => none
  | fuel + 1, source =>
    match skipSpace source with
    | '"' :: rest => do
      let (name, rest) ← readText rest
      match skipSpace rest with
      | ':' :: rest =>
        let (value, rest) ← readValue fuel rest
        match skipSpace rest with
        | '\x7d' :: after => some (.member (.ofList name) value .none, after)
        | ',' :: rest =>
          (readMembers fuel rest).map fun (others, after) =>
            (.member (.ofList name) value others, after)
        | _ => none
      | _ => none
    | _ => none

end

/-- Read a text that holds one value and nothing else. -/
def read? (source : String) : Option Json :=
  match readValue (source.length + 1) source.toList with
  | some (value, rest) => if (skipSpace rest).isEmpty then some value else none
  | none => none

example :
    (read? " \x7b \"a\\u00e9\\ud83d\\ude00\" : -12 , \"b\":\x7b\x7d\x7d ").map render
      = some "\x7b\"aé😀\":-12,\"b\":\x7b\x7d\x7d" := by
  decide +kernel

example : (read? "01").isNone ∧ (read? "\"\\ud83d\"").isNone ∧ (read? "1 2").isNone := by
  decide +kernel

end Standby.Json
