import Standby.Json.Reader

/-!
# Reading what was written: texts and numbers

A text is read back from the characters that were written for it, whatever it contains, and a
whole number from its digits. What follows them is left for the next token.
-/

namespace Standby.Json

/-- Two hexadecimal digits stand for the code that they were written for. -/
theorem unit_hexPair : ∀ code < 0x20,
    unit? '0' '0' (Nat.digitChar (code / 16)) (Nat.digitChar (code % 16)) = some code := by
  decide

/-- Read the rest of a text whose first character is known. -/
def readRest (character : Char) (rest : List Char) : Option (List Char × List Char) :=
  (readText rest).map fun (content, after) => (character :: content, after)

/-- An escaped letter is read as the character that it stands for. -/
theorem readText_escaped {letter character : Char} (other : letter ≠ 'u')
    (stands : escaped? letter = some character) (rest : List Char) :
    readText ('\\' :: letter :: rest) = readRest character rest := by
  rw [readText]
  · simp [stands, readRest]
  · rintro _ _ _ _ _ rfl
    exact absurd rfl other

/-- A character below the space is read from its code. -/
theorem readText_code {character : Char} (low : character.toNat < 0x20) (rest : List Char) :
    readText ('\\' :: 'u' :: '0' :: '0' :: (hexPair character.toNat ++ rest)) =
      readRest character rest := by
  have whole : isHighHalf character.toNat = false ∧ isLowHalf character.toNat = false := by
    constructor <;> simp [isHighHalf, isLowHalf] <;> omega
  simp [hexPair, readText, unit_hexPair _ low, whole, Char.ofNat_toNat, readRest]

/-- A plain character stands for itself. -/
theorem readText_plain {character : Char} (plain : isPlain character = true)
    (unquoted : character ≠ '"') (rest : List Char) :
    readText (character :: rest) = readRest character rest := by
  have whole : character ≠ '\\' := by
    rintro rfl
    cases plain
  rw [readText]
  · simp [plain, readRest]
  · exact unquoted
  · rintro _ _ _ _ _ rfl
    exact absurd rfl whole
  · rintro _ _ rfl
    exact absurd rfl whole

/-- Every character is read from what was written for it. -/
theorem readText_escape (character : Char) (rest : List Char) :
    readText (escape character ++ rest) = readRest character rest := by
  unfold escape
  split
  case h_8 unquoted whole _ _ _ _ _ =>
    split
    · rename_i low
      exact readText_code low rest
    · rename_i high
      refine readText_plain ?_ unquoted rest
      have shown : 0x20 ≤ character.toNat := Nat.le_of_not_lt high
      simp [isPlain, shown, show character ≠ '\\' from whole]
  all_goals exact readText_escaped (by decide) rfl rest

/-- A text is read up to the quotation mark that was written behind it. -/
theorem readText_write (content rest : List Char) :
    readText (content.flatMap escape ++ '"' :: rest) = some (content, rest) := by
  induction content with
  | nil => rfl
  | cons first content inductionHypothesis =>
    rw [List.flatMap_cons, List.append_assoc, readText_escape, readRest, inductionHypothesis]
    rfl

/-- A number other than zero is not written with a zero in front. -/
theorem head_toDigits (number : Nat) (head : (Nat.toDigits 10 number).head? = some '0') :
    number = 0 := by
  induction number using Nat.strongRecOn with
  | _ number inductionHypothesis =>
    rcases Nat.lt_or_ge number 10 with small | large
    · rw [Nat.toDigits_of_lt_base small] at head
      have digits : ∀ digit < 10, [Nat.digitChar digit].head? = some '0' → digit = 0 := by decide
      exact digits number small head
    · rw [Nat.toDigits_of_base_le (by decide) large, List.head?_append,
        List.head?_eq_some_head Nat.toDigits_ne_nil, Option.some_or,
        ← List.head?_eq_some_head Nat.toDigits_ne_nil] at head
      have shorter := inductionHypothesis (number / 10) (by omega) head
      omega

/-- Numbers are written in digits. -/
theorem isDigit_of_mem (number : Nat) :
    ∀ digit ∈ Nat.toDigits 10 number, digit.isDigit = true := fun _ member =>
  Nat.isDigit_of_mem_toDigits (by decide) (by decide) member

/-- What follows is not a digit. -/
def Parts (rest : List Char) : Prop := ∀ character, rest.head? = some character →
  character.isDigit = false

/-- Digits are taken up to what follows them. -/
theorem takeWhile_digits {digits rest : List Char} (all : ∀ digit ∈ digits, digit.isDigit = true)
    (parts : Parts rest) :
    (digits ++ rest).takeWhile Char.isDigit = digits ∧
      (digits ++ rest).dropWhile Char.isDigit = rest := by
  have here : rest.takeWhile Char.isDigit = [] ∧ rest.dropWhile Char.isDigit = rest := by
    cases rest with
    | nil => exact ⟨rfl, rfl⟩
    | cons first rest => simp [parts first rfl]
  rw [List.takeWhile_append_of_pos all, List.dropWhile_append_of_pos all, here.1, here.2]
  exact ⟨List.append_nil _, rfl⟩

/-- Read the digits of a number behind its sign. -/
def readDigits (negative : Bool) (unsigned : List Char) : Option (Int × List Char) :=
  let digits := unsigned.takeWhile Char.isDigit
  if digits.isEmpty || (digits.head? == some '0' && digits.length != 1) then none
  else
    let magnitude : Int := Nat.ofDigitChars 10 digits 0
    some (if negative then -magnitude else magnitude, unsigned.dropWhile Char.isDigit)

/-- A number after a minus is read as its digits. -/
theorem readInteger_minus (source : List Char) :
    readInteger ('-' :: source) = readDigits true source := rfl

/-- A number without a minus is read as its digits. -/
theorem readInteger_unsigned {source : List Char} (unsigned : ∀ rest, source ≠ '-' :: rest) :
    readInteger source = readDigits false source := by
  cases source with
  | nil => rfl
  | cons first rest =>
    unfold readInteger
    split
    rename_i negative digits same
    split at same
    · rename_i begins
      exact absurd begins (unsigned _)
    · cases same
      rfl

/-- The digits of a number are read back. -/
theorem readDigits_write (negative : Bool) (number : Nat) {rest : List Char}
    (parts : Parts rest) : readDigits negative (Nat.toDigits 10 number ++ rest) =
      some (if negative then -(number : Int) else number, rest) := by
  obtain ⟨taken, dropped⟩ := takeWhile_digits (isDigit_of_mem number) parts
  have present : (Nat.toDigits 10 number).isEmpty = false := by simp [Nat.toDigits_ne_nil]
  have leading : ((Nat.toDigits 10 number).head? == some '0' &&
      (Nat.toDigits 10 number).length != 1) = false := by
    by_cases zero : number = 0
    · subst zero
      rfl
    · have other : ((Nat.toDigits 10 number).head? == some '0') = false := by
        simpa using mt (head_toDigits number) zero
      rw [other, Bool.false_and]
  simp [readDigits, taken, dropped, present, leading, Nat.ofDigitChars_ten_toDigits]

/-- A number is written in digits, behind a sign if it is negative. -/
theorem toString_cases (number : Int) : ∃ digits : Nat,
    (number = digits ∧ (toString number).toList = Nat.toDigits 10 digits) ∨
      (number = -(digits : Int) ∧ (toString number).toList = '-' :: Nat.toDigits 10 digits) := by
  cases number with
  | ofNat digits =>
    exact ⟨digits, .inl ⟨rfl, by simp [toString, Int.repr, Nat.repr_eq_ofList_toDigits]⟩⟩
  | negSucc digits =>
    exact ⟨digits + 1, .inr ⟨rfl, by simp [toString, Int.repr, Nat.repr_eq_ofList_toDigits]⟩⟩

/-- A whole number is read from what was written for it. -/
theorem readInteger_write (number : Int) {rest : List Char} (parts : Parts rest) :
    readInteger ((toString number).toList ++ rest) = some (number, rest) := by
  obtain ⟨digits, ⟨same, written⟩ | ⟨same, written⟩⟩ := toString_cases number
  · have unsigned (tail : List Char) : Nat.toDigits 10 digits ++ rest ≠ '-' :: tail := by
      obtain ⟨first, others, begins⟩ := List.exists_cons_of_ne_nil
        (Nat.toDigits_ne_nil : Nat.toDigits 10 digits ≠ [])
      have digit := isDigit_of_mem digits first (by simp [begins])
      rw [begins]
      rintro ⟨rfl⟩
      cases digit
    rw [written, readInteger_unsigned unsigned, readDigits_write false digits parts, same]
    rfl
  · rw [written, List.cons_append, readInteger_minus, readDigits_write true _ parts, same]
    rfl

end Standby.Json
