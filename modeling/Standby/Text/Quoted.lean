import Standby.Text.PrintTable

/-!
# Quoted text

The form in which diagnostics show a text: between double quotes, with escapes
for the quote, the backslash, the common control characters, and every character
that would not be seen as itself, which is written by its code point in
hexadecimal. An apostrophe stays as it is.
-/

namespace Standby.Text

/-- Lowercase hexadecimal digits, without leading zeros. -/
def hexDigits (code : Nat) : List Char := Nat.toDigits 16 code

/-- A character is seen as itself when it is printable, is not drawn as nothing
and does not join the character before it. -/
def isVisible (character : Char) : Bool :=
  !extendingRanges.contains character && !invisibleRanges.contains character
    && !unprintableRanges.contains character

/-- The quoted form of one character. -/
def quoteCharacter (character : Char) : List Char :=
  match character with
  | '\x00' => ['\\', '0']
  | '\t' => ['\\', 't']
  | '\r' => ['\\', 'r']
  | '\n' => ['\\', 'n']
  | '\\' => ['\\', '\\']
  | '"' => ['\\', '"']
  | _ =>
    if isVisible character then [character]
    else ['\\', 'u', '\x7b'] ++ hexDigits character.toNat ++ ['\x7d']

/-- The quoted form of a text. -/
def quote (text : String) : String :=
  String.ofList ('"' :: text.toList.flatMap quoteCharacter ++ ['"'])

example : quote "a\"b\n'\u200b" = "\"a\\\"b\\n'\\u\x7b200b\x7d\"" := by decide +kernel
example : quote "\u115f\uff9f" = "\"\\u\x7b115f\x7d\uff9f\"" := by decide +kernel

end Standby.Text
