import Standby.Text.Blank
import Standby.Text.Lowercase
import Standby.Text.Numeral

/-!
# Durations

The notation for lengths of time in settings. A duration is a number and a unit,
written without a space between them; a bare number counts seconds. White space
around it and letter case do not matter. The empty text, `off` and every length
of zero stand for no duration at all.

Lengths are whole milliseconds of at most 64 bits; a longer one is refused, not
wrapped.
-/

namespace Standby.Duration

open Text

/-- A length of time in milliseconds. -/
abbrev Millis := Nat

/-- Why a text is no duration. Each cause carries the text that its wording
shows, which is trimmed and in lowercase. -/
inductive Fault where
  | noNumber (text : String)
  | numberTooLarge (digits : String)
  | unknownUnit (unit : String)
  | tooLong (text : String)
deriving DecidableEq, Repr

/-- The wording of a fault. -/
def Fault.message : Fault → String
  | .noNumber text => "invalid duration: " ++ text
  | .numberTooLarge digits => "invalid number: " ++ digits
  | .unknownUnit unit => "invalid unit: " ++ unit
  | .tooLong text => "duration too large: " ++ text

/-- The milliseconds of each unit. No unit at all means seconds. -/
def unitMillis : List Char → Option Millis
  | [] => some 1000
  | ['m', 's'] => some 1
  | ['s'] => some 1000
  | ['m'] => some 60000
  | ['h'] => some 3600000
  | ['d'] => some 86400000
  | ['w'] => some 604800000
  | _ => none

/-- A zero length means that there is no duration. -/
def positive? (millis : Millis) : Option Millis := if millis = 0 then none else some millis

/-- ASCII digits only. -/
def isDigit (character : Char) : Bool := (digit? character).isSome

/-- Read a duration that is already trimmed and in lowercase. -/
def parseNormal (text : List Char) : Except Fault (Option Millis) :=
  if text.isEmpty || text == ['o', 'f', 'f'] then .ok none
  else
    let digits := text.takeWhile isDigit
    let unit := text.dropWhile isDigit
    if digits.isEmpty then .error (.noNumber (String.ofList text))
    else
      match readUnsigned largestWord digits with
      | .error _ => .error (.numberTooLarge (String.ofList digits))
      | .ok count =>
        match unitMillis unit with
        | none => .error (.unknownUnit (String.ofList unit))
        | some perUnit =>
          if count * perUnit ≤ largestWord then .ok (positive? (count * perUnit))
          else .error (.tooLong (String.ofList text))

/-- Read a duration. -/
def parse (text : String) : Except Fault (Option Millis) :=
  parseNormal (lowercase (trim text.toList))

example : (parse " 2M ").toOption = some (some 120000) := by decide +kernel
example : (parse "0w").toOption = some none := by decide +kernel
example : (parse "1.5s").toOption = none := by decide +kernel

end Standby.Duration
