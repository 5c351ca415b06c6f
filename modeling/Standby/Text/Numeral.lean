/-!
# Decimal numerals

Reading whole numbers of a bounded range. A numeral is an optional sign and one
or more ASCII digits, with nothing around them; leading zeros are allowed. The
digits are taken from left to right, and the first one that is no digit or
leaves the range decides the fault.
-/

namespace Standby.Text

/-- Why a text is no numeral of the wanted range. -/
inductive NumeralFault where
  | empty
  | invalidDigit
  | tooLarge
  | tooSmall
deriving DecidableEq, Repr

/-- The wording of a fault. -/
def NumeralFault.message : NumeralFault → String
  | .empty => "cannot parse integer from empty string"
  | .invalidDigit => "invalid digit found in string"
  | .tooLarge => "number too large to fit in target type"
  | .tooSmall => "number too small to fit in target type"

/-- The value of an ASCII digit. -/
def digit? (character : Char) : Option Nat :=
  if '0' ≤ character ∧ character ≤ '9' then some (character.toNat - '0'.toNat) else none

/-- Continue a value with further digits. A value above the limit is the given
fault. -/
def readDigits (limit : Nat) (excess : NumeralFault) :
    Nat → List Char → Except NumeralFault Nat
  | value, [] => .ok value
  | value, character :: rest =>
    match digit? character with
    | none => .error .invalidDigit
    | some digit =>
      if 10 * value + digit ≤ limit then readDigits limit excess (10 * value + digit) rest
      else .error excess

/-- The digits after a sign: at least one is needed. -/
def readMagnitude (limit : Nat) (excess : NumeralFault) (text : List Char) :
    Except NumeralFault Nat :=
  if text.isEmpty then .error .invalidDigit else readDigits limit excess 0 text

/-- Read a number from 0 to the limit. Only a plus sign may precede it. -/
def readUnsigned (limit : Nat) (text : List Char) : Except NumeralFault Nat :=
  match text with
  | [] => .error .empty
  | '+' :: rest => readMagnitude limit .tooLarge rest
  | _ => readDigits limit .tooLarge 0 text

/-- Read a number of the two's complement range with the given bound: from its
negative up to, but not including, the bound itself. -/
def readSigned (bound : Nat) (text : List Char) : Except NumeralFault Int :=
  match text with
  | [] => .error .empty
  | '-' :: rest => (fun magnitude => -(magnitude : Int)) <$> readMagnitude bound .tooSmall rest
  | '+' :: rest => Int.ofNat <$> readMagnitude (bound - 1) .tooLarge rest
  | _ => Int.ofNat <$> readDigits (bound - 1) .tooLarge 0 text

/-- The largest number of 64 bits. -/
def largestWord : Nat := Nat.pow 2 64 - 1

/-- The number of values that a signed number of 64 bits has on each side. -/
def signedBound : Nat := Nat.pow 2 63

end Standby.Text
