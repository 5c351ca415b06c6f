import Mathlib.Data.Char
import Mathlib.Tactic.Tauto
import Standby.Proofs.Text.Numeral

/-!
# How digits sort

Texts are compared character by character, and the first difference decides. Among texts of one
width this is how numbers compare that are written in digits: a larger digit outweighs all
digits behind it.
-/

namespace Standby.Text

/-- Texts whose beginnings are of one width are compared by these, and behind equal ones by the
rest. -/
theorem append_lt_append_iff {α : Type} [LT α] {front front' : List α}
    (width : front.length = front'.length) (rest rest' : List α) :
    front ++ rest < front' ++ rest' ↔ front < front' ∨ front = front' ∧ rest < rest' := by
  induction front generalizing front' with
  | nil =>
    obtain rfl := List.length_eq_zero_iff.mp width.symm
    simp
  | cons first front inductionHypothesis =>
    cases front' with
    | nil => cases width
    | cons first' front' =>
      simp only [List.cons_append, List.cons_lt_cons_iff, List.cons.injEq,
        inductionHypothesis (Nat.succ.inj width)]
      tauto

/-- The ten digits follow each other. -/
theorem toNat_of_isDigit {digit : Char} (isDigit : digit.isDigit = true) :
    '0'.toNat ≤ digit.toNat ∧ digit.toNat < '0'.toNat + 10 := by
  have range : 48 ≤ digit.toNat ∧ digit.toNat ≤ 57 := by
    simpa [Char.isDigit, UInt32.le_iff_toNat_le] using isDigit
  have zero : '0'.toNat = 48 := rfl
  omega

/-- Digits are ordered by what they are worth. -/
theorem digit_lt_iff {digit digit' : Char} (isDigit : digit.isDigit = true)
    (isDigit' : digit'.isDigit = true) :
    digit < digit' ↔ digit.toNat - '0'.toNat < digit'.toNat - '0'.toNat := by
  have least := (toNat_of_isDigit isDigit).1
  have least' := (toNat_of_isDigit isDigit').1
  rw [Char.lt_def, UInt32.lt_iff_toNat_lt]
  change digit.toNat < digit'.toNat ↔ _
  omega

/-- A value that is behind stays behind, whatever digits follow. -/
theorem ofDigitChars_lt_ofDigitChars {text text' : List Char}
    (digits : text.all Char.isDigit = true) (digits' : text'.all Char.isDigit = true)
    (width : text.length = text'.length) {value value' : Nat} (smaller : value < value') :
    Nat.ofDigitChars 10 text value < Nat.ofDigitChars 10 text' value' := by
  induction text generalizing text' value value' with
  | nil =>
    obtain rfl := List.length_eq_zero_iff.mp width.symm
    simpa using smaller
  | cons first rest inductionHypothesis =>
    cases text' with
    | nil => cases width
    | cons first' rest' =>
      rw [List.all_cons, Bool.and_eq_true] at digits digits'
      have small := toNat_of_isDigit digits.1
      rw [Nat.ofDigitChars_cons, Nat.ofDigitChars_cons]
      exact inductionHypothesis digits.2 digits'.2 (Nat.succ.inj width) (by omega)

/-- Digits of one width behind the same value compare as what they continue it to. -/
theorem lt_iff_ofDigitChars_lt {text text' : List Char} (digits : text.all Char.isDigit = true)
    (digits' : text'.all Char.isDigit = true) (width : text.length = text'.length) (value : Nat) :
    text < text' ↔ Nat.ofDigitChars 10 text value < Nat.ofDigitChars 10 text' value := by
  induction text generalizing text' value with
  | nil =>
    obtain rfl := List.length_eq_zero_iff.mp width.symm
    simp
  | cons first rest inductionHypothesis =>
    cases text' with
    | nil => cases width
    | cons first' rest' =>
      rw [List.all_cons, Bool.and_eq_true] at digits digits'
      have restWidth := Nat.succ.inj width
      rw [List.cons_lt_cons_iff, Nat.ofDigitChars_cons, Nat.ofDigitChars_cons]
      rcases lt_trichotomy first first' with before | rfl | behind
      · have smaller := (digit_lt_iff digits.1 digits'.1).mp before
        refine iff_of_true (.inl before) ?_
        exact ofDigitChars_lt_ofDigitChars digits.2 digits'.2 restWidth (by omega)
      · simpa using inductionHypothesis digits.2 digits'.2 restWidth _
      · have smaller := (digit_lt_iff digits'.1 digits.1).mp behind
        refine iff_of_false ?_ (Nat.lt_asymm ?_)
        · rintro (before | ⟨rfl, -⟩)
          · exact lt_asymm before behind
          · exact lt_irrefl _ behind
        · exact ofDigitChars_lt_ofDigitChars digits'.2 digits.2 restWidth.symm (by omega)

/-- Digits of one width sort as the numbers that they stand for. -/
theorem Digits.lt_iff {text text' : List Char} {value value' : Nat} (digits : Digits text value)
    (digits' : Digits text' value') (width : text.length = text'.length) :
    text < text' ↔ value < value' := by
  rw [digits.value, digits'.value]
  exact lt_iff_ofDigitChars_lt digits.all digits'.all width 0

end Standby.Text
