import Standby.Text.CaseTable

/-!
# Lowercase forms

Full lowercasing of a text by the Unicode rules. Each character is replaced by
its own lowercase form, with two exceptions: the capital letter with a dot above
becomes two characters, and a capital sigma becomes a final sigma at the end of
a word. A sigma ends a word when, skipping case-ignorable characters, a cased
letter stands before it and none stands after it.

No locale is consulted.
-/

namespace Standby.Text

/-- A run holds the uppercase characters at its stride. -/
def CaseRun.covers (run : CaseRun) (code : Nat) : Bool :=
  Nat.ble run.first code && Nat.ble code run.last && (code - run.first) % run.stride == 0

/-- The simple lowercase form of one character; a character without case is its
own form. -/
def lowerCharacter (character : Char) : Char :=
  match lowercaseRuns.find? (·.covers character.toNat) with
  | some run => Char.ofNat (character.toNat + run.shift).toNat
  | none => character

/-- The nearest character that is not case-ignorable is a cased letter. -/
def meetsCased (neighbours : List Char) : Bool :=
  match neighbours.dropWhile ignorableRanges.contains with
  | nearest :: _ => casedRanges.contains nearest
  | [] => false

/-- Lowercase the text, given the characters already passed, nearest first. -/
def lowerFrom : List Char → List Char → List Char
  | _, [] => []
  | passed, 'Σ' :: rest =>
    (if meetsCased passed && !meetsCased rest then 'ς' else 'σ') :: lowerFrom ('Σ' :: passed) rest
  | passed, 'İ' :: rest => 'i' :: Char.ofNat 0x307 :: lowerFrom ('İ' :: passed) rest
  | passed, character :: rest => lowerCharacter character :: lowerFrom (character :: passed) rest

/-- The lowercase form of a text. -/
def lowercase (text : List Char) : List Char := lowerFrom [] text

/-- The lowercase form of a string. -/
def lowercaseString (text : String) : String := String.ofList (lowercase text.toList)

example : lowercaseString "ΟΣ ΣΑΣ aΣb" = "ος σας aσb" := by decide +kernel

end Standby.Text
