import Mathlib.Data.Option.Basic
import Standby.Text.Numeral

/-!
# What numerals are

A numeral is one or more digits, in front of which a sign may stand, and it stands for the value
of its digits. Reading digit by digit takes exactly the numerals whose value is in range: a
value only grows with further digits, so one that leaves the range never comes back.
-/

namespace Standby.Text

/-- One or more digits stand for their value. -/
structure Digits (text : List Char) (value : Nat) : Prop where
  nonempty : text ≠ []
  all : text.all Char.isDigit = true
  value : value = Nat.ofDigitChars 10 text 0

/-- Digits behind a plus sign or none stand for their value. -/
inductive Numeral : List Char → Nat → Prop where
  | bare {digits : List Char} {value : Nat} (digit : Digits digits value) : Numeral digits value
  | plus {digits : List Char} {value : Nat} (digit : Digits digits value) :
    Numeral ('+' :: digits) value

/-- A numeral stands for its value, and digits behind a minus sign for its opposite. -/
inductive SignedNumeral : List Char → Int → Prop where
  | positive {text : List Char} {value : Nat} (numeral : Numeral text value) :
    SignedNumeral text value
  | minus {digits : List Char} {value : Nat} (digit : Digits digits value) :
    SignedNumeral ('-' :: digits) (-(value : Int))

/-- The value of a digit is its distance from zero. -/
theorem digit?_eq (character : Char) :
    digit? character =
      if character.isDigit then some (character.toNat - '0'.toNat) else none := by
  simp [digit?, Char.isDigit, Char.le_def]

section Digits

variable {limit : Nat} {excess : NumeralFault}

/-- A value only grows with further digits. -/
theorem le_ofDigitChars (text : List Char) (value : Nat) :
    value ≤ Nat.ofDigitChars 10 text value := by
  induction text generalizing value with
  | nil => simp
  | cons first rest inductionHypothesis =>
    rw [Nat.ofDigitChars_cons]
    exact Nat.le_trans (by omega) (inductionHypothesis _)

/-- Digits are continued as long as the value stays within the limit. -/
theorem readDigits_eq_ok (text : List Char) {value result : Nat} (within : value ≤ limit) :
    readDigits limit excess value text = .ok result ↔
      text.all Char.isDigit = true ∧ result = Nat.ofDigitChars 10 text value ∧ result ≤ limit := by
  induction text generalizing value with
  | nil =>
    simp only [readDigits, Except.ok.injEq, List.all_nil, true_and, Nat.ofDigitChars_nil]
    constructor
    · rintro rfl
      exact ⟨rfl, within⟩
    · rintro ⟨rfl, -⟩
      rfl
  | cons first rest inductionHypothesis =>
    rw [readDigits, digit?_eq, Nat.ofDigitChars_cons, List.all_cons]
    by_cases digit : first.isDigit = true
    · rw [if_pos digit, digit, Bool.true_and]
      by_cases next : 10 * value + (first.toNat - '0'.toNat) ≤ limit
      · rw [← inductionHypothesis next]
        simp only [if_pos next]
      · simp only [if_neg next, reduceCtorEq, false_iff]
        rintro ⟨-, rfl, small⟩
        exact next (Nat.le_trans (le_ofDigitChars rest _) small)
    · rw [if_neg digit, Bool.eq_false_iff.mpr digit]
      simp

/-- One or more digits are read if their value is within the limit. -/
theorem readDigits_eq_ok_iff {text : List Char} (nonempty : text ≠ []) (result : Nat) :
    readDigits limit excess 0 text = .ok result ↔ Digits text result ∧ result ≤ limit := by
  rw [readDigits_eq_ok text (Nat.zero_le limit)]
  constructor
  · rintro ⟨all, value, small⟩
    exact ⟨⟨nonempty, all, value⟩, small⟩
  · rintro ⟨digits, small⟩
    exact ⟨digits.all, digits.value, small⟩

/-- A number is read when its digits stand for it and it is within the limit. -/
theorem readMagnitude_eq_ok_iff (text : List Char) (result : Nat) :
    readMagnitude limit excess text = .ok result ↔ Digits text result ∧ result ≤ limit := by
  unfold readMagnitude
  split
  · rename_i empty
    obtain rfl := List.isEmpty_iff.mp empty
    simp only [reduceCtorEq, false_iff]
    rintro ⟨digits, -⟩
    exact digits.nonempty rfl
  · rename_i nonempty
    exact readDigits_eq_ok_iff (mt List.isEmpty_iff.mpr nonempty) result

/-- A sign is no digit. -/
theorem not_digits {sign : Char} (other : sign.isDigit = false) (text : List Char) (value : Nat) :
    ¬ Digits (sign :: text) value := by
  intro digits
  have all := digits.all
  rw [List.all_cons, other] at all
  cases all

end Digits

/-- Exactly the numerals within the limit are read. -/
theorem readUnsigned_eq_ok_iff (limit : Nat) (text : List Char) (result : Nat) :
    readUnsigned limit text = .ok result ↔ Numeral text result ∧ result ≤ limit := by
  unfold readUnsigned
  split
  · simp only [reduceCtorEq, false_iff]
    rintro ⟨numeral, -⟩
    cases numeral with
    | bare digits => exact digits.nonempty rfl
  · rename_i digits
    rw [readMagnitude_eq_ok_iff]
    refine and_congr_left fun _ => ⟨.plus, fun numeral => ?_⟩
    cases numeral with
    | bare digits => exact absurd digits (not_digits rfl _ _)
    | plus digits => exact digits
  · rename_i empty unsigned
    rw [readDigits_eq_ok_iff empty]
    refine and_congr_left fun _ => ⟨.bare, fun numeral => ?_⟩
    cases numeral with
    | bare digits => exact digits
    | plus digits => exact absurd rfl (unsigned _)

/-- A value that is made from what was read. -/
theorem map_eq_ok_iff {α β : Type} {read : Except NumeralFault α} {made : α → β} (result : β) :
    made <$> read = .ok result ↔ ∃ value, read = .ok value ∧ made value = result := by
  cases read <;> simp [Functor.map, Except.map]

/-- Behind a minus sign the digits count downwards. -/
theorem readSigned_minus (bound : Nat) (digits : List Char) :
    readSigned bound ('-' :: digits) =
      (fun magnitude : Nat => -(magnitude : Int)) <$> readMagnitude bound .tooSmall digits := by
  rw [readSigned]
  cases readMagnitude bound .tooSmall digits <;> rfl

section Signed

variable {bound : Nat} (positive : 0 < bound)
include positive

/-- A value below the bound is in range without a sign. -/
theorem unsigned_in_range (value : Nat) :
    value ≤ bound - 1 ↔ -(bound : Int) ≤ value ∧ (value : Int) < bound := by
  omega

/-- Exactly the numerals between the bounds are read. -/
theorem readSigned_eq_ok_iff (text : List Char) (result : Int) :
    readSigned bound text = .ok result ↔
      SignedNumeral text result ∧ -(bound : Int) ≤ result ∧ result < bound := by
  unfold readSigned
  split
  · simp only [reduceCtorEq, false_iff]
    rintro ⟨numeral, -⟩
    cases numeral with
    | positive numeral =>
      cases numeral with
      | bare digits => exact digits.nonempty rfl
  · rename_i digits
    change readSigned bound ('-' :: digits) = .ok result ↔ _
    simp only [readSigned_minus, map_eq_ok_iff, readMagnitude_eq_ok_iff]
    constructor
    · rintro ⟨value, ⟨digits, small⟩, rfl⟩
      exact ⟨.minus digits, by omega, by omega⟩
    · rintro ⟨numeral, least, most⟩
      cases numeral with
      | positive numeral =>
        cases numeral with
        | bare digits => exact absurd digits (not_digits rfl _ _)
      | minus digits => exact ⟨_, ⟨digits, by omega⟩, rfl⟩
  · simp only [map_eq_ok_iff, readMagnitude_eq_ok_iff, unsigned_in_range positive]
    constructor
    · rintro ⟨value, ⟨digits, range⟩, rfl⟩
      exact ⟨.positive (.plus digits), range⟩
    · rintro ⟨numeral, range⟩
      cases numeral with
      | positive numeral =>
        cases numeral with
        | bare digits => exact absurd digits (not_digits rfl _ _)
        | plus digits => exact ⟨_, ⟨digits, range⟩, rfl⟩
  · rename_i empty noMinus noPlus
    simp only [map_eq_ok_iff, readDigits_eq_ok_iff empty, unsigned_in_range positive]
    constructor
    · rintro ⟨value, ⟨digits, range⟩, rfl⟩
      exact ⟨.positive (.bare digits), range⟩
    · rintro ⟨numeral, range⟩
      cases numeral with
      | positive numeral =>
        cases numeral with
        | bare digits => exact ⟨_, ⟨digits, range⟩, rfl⟩
        | plus digits => exact absurd rfl (noPlus _)
      | minus digits => exact absurd rfl (noMinus _)

end Signed

end Standby.Text
