import Standby.Settings.Fault
import Standby.Text.Lowercase
import Standby.Text.Numeral

/-!
# Environments

The variables that settings are read from. A value is a sequence of bytes, and
one that is not UTF-8 counts as unset. Some settings also take the empty text
for an unset variable; each reader says which.
-/

namespace Standby.Settings

open Text (lowercaseString readUnsigned largestWord)

/-- The variables of a process. -/
structure Environment where
  bindings : List (String × ByteArray)

namespace Environment

/-- The entries of a block, each up to a zero byte. -/
def entries : List UInt8 → List (List UInt8)
  | [] => []
  | byte :: rest =>
    if byte = 0 then [] :: entries rest
    else
      match entries rest with
      | [] => [[byte]]
      | entry :: others => (byte :: entry) :: others

/-- The sign between a name and its value. -/
def equalsSign : UInt8 := 61

/-- The name and the value that an entry binds, divided by the first equals sign.
A name that is not UTF-8 is none that a setting could have. -/
def binding? (entry : List UInt8) : Option (String × ByteArray) := do
  let name ← String.fromUTF8? (entry.takeWhile (· != equalsSign)).toByteArray
  match entry.dropWhile (· != equalsSign) with
  | [] => none
  | _ :: value => some (name, value.toByteArray)

/-- The environment that a block holds, which is how the system hands it to a
process. -/
def ofBlock (block : List UInt8) : Environment := ⟨(entries block).filterMap binding?⟩

/-- The text of a variable that is set to UTF-8. -/
def text? (environment : Environment) (name : String) : Option String := do
  let value ← environment.bindings.lookup name
  String.fromUTF8? value

/-- The text of a variable, or a default. The empty text is a value. -/
def textOr (environment : Environment) (name default : String) : String :=
  (environment.text? name).getD default

/-- The text of a variable unless it is empty. -/
def filled? (environment : Environment) (name : String) : Option String :=
  (environment.text? name).filter (!·.isEmpty)

/-- The texts that turn a flag on, in any letter case. -/
def affirmative : List String := ["1", "true", "yes", "on"]

/-- A flag is off unless its variable says that it is on. -/
def flag (environment : Environment) (name : String) : Bool :=
  match environment.filled? name with
  | some value => affirmative.contains (lowercaseString value)
  | none => false

end Environment

/-- Read a number of at most 64 bits, taken from the text of a variable as it
stands. -/
def number (name value : String) : Except Fault Nat :=
  match readUnsigned largestWord value.toList with
  | .ok count => .ok count
  | .error fault => .error (.unreadable name value fault.message)

/-- The number in a variable, or a default when the variable is unset or
empty. -/
def Environment.numberOr (environment : Environment) (name : String) (default : Nat) :
    Except Fault Nat :=
  match environment.filled? name with
  | some value => number name value
  | none => .ok default

end Standby.Settings
