import Standby.Duration
import Standby.Proofs.Text.Numeral

/-!
# What durations are

A duration is a word for none, or digits and a unit whose milliseconds fit into a word of 64
bits. Reading takes exactly these texts.
-/

namespace Standby.Duration

open Text

/-- A text, trimmed and in lowercase, stands for a length of time or for none. -/
inductive Spelled : List Char → Option Millis → Prop where
  | empty : Spelled [] none
  | off : Spelled ['o', 'f', 'f'] none
  | length {digits unit : List Char} {count : Nat} {perUnit : Millis} (digit : Digits digits count)
    (known : unitMillis unit = some perUnit) (small : count * perUnit ≤ largestWord) :
    Spelled (digits ++ unit) (positive? (count * perUnit))

/-- The digits are those of the library. -/
theorem isDigit_eq (character : Char) : isDigit character = character.isDigit := by
  rw [isDigit, digit?_eq]
  cases character.isDigit <;> rfl

/-- No unit begins with a digit, and each is at least a millisecond long. -/
theorem unit_of_known {unit : List Char} {perUnit : Millis}
    (known : unitMillis unit = some perUnit) :
    0 < perUnit ∧ unit.takeWhile isDigit = [] ∧ unit.dropWhile isDigit = unit := by
  unfold unitMillis at known
  split at known <;> cases known <;> decide

/-- Digits are told from the unit behind them. -/
theorem split_digits {digits unit : List Char} (all : digits.all Char.isDigit = true)
    (parts : unit.takeWhile isDigit = [] ∧ unit.dropWhile isDigit = unit) :
    (digits ++ unit).takeWhile isDigit = digits ∧ (digits ++ unit).dropWhile isDigit = unit := by
  have digit : ∀ character ∈ digits, isDigit character = true := fun character member =>
    (isDigit_eq character).trans (List.all_eq_true.mp all character member)
  rw [List.takeWhile_append_of_pos digit, List.dropWhile_append_of_pos digit, parts.1, parts.2]
  exact ⟨List.append_nil _, rfl⟩

/-- No length of time is zero. -/
theorem positive?_ne_zero (millis : Millis) : positive? millis ≠ some 0 := by
  unfold positive?
  split <;> simp_all

/-- Read a number of units. -/
def readLength (digits unit : List Char) : Except Fault (Option Millis) :=
  match readUnsigned largestWord digits with
  | .error _ => .error (.numberTooLarge (String.ofList digits))
  | .ok count =>
    match unitMillis unit with
    | none => .error (.unknownUnit (String.ofList unit))
    | some perUnit =>
      if count * perUnit ≤ largestWord then .ok (positive? (count * perUnit))
      else .error (.tooLong (String.ofList (digits ++ unit)))

/-- What is no word for none has to begin with a digit. -/
theorem parseNormal_eq {text : List Char} (nonempty : text ≠ []) (other : text ≠ ['o', 'f', 'f']) :
    parseNormal text =
      if (text.takeWhile isDigit).isEmpty then .error (.noNumber (String.ofList text))
      else readLength (text.takeWhile isDigit) (text.dropWhile isDigit) := by
  have word : ¬ (text.isEmpty || text == ['o', 'f', 'f']) = true := by simp [nonempty, other]
  unfold parseNormal readLength
  rewrite [if_neg word, List.takeWhile_append_dropWhile]
  rfl

/-- A number of units is read if it stands for a length within 64 bits. -/
theorem readLength_eq_ok_iff {digits unit : List Char}
    (all : digits.all Char.isDigit = true) (length : Option Millis) :
    readLength digits unit = .ok length ↔ ∃ count perUnit, Digits digits count ∧
      unitMillis unit = some perUnit ∧ count * perUnit ≤ largestWord ∧
        length = positive? (count * perUnit) := by
  have digits_of (count : Nat) (numeral : Numeral digits count) : Digits digits count := by
    cases numeral with
    | bare digit => exact digit
    | plus digit => cases all
  constructor
  · intro read
    unfold readLength at read
    split at read
    · cases read
    rename_i count counted
    split at read
    · cases read
    rename_i perUnit known
    split at read
    · rename_i small
      cases read
      exact ⟨count, perUnit, digits_of count ((readUnsigned_eq_ok_iff _ _ _).mp counted).1, known,
        small, rfl⟩
    · cases read
  · rintro ⟨count, perUnit, digit, known, small, rfl⟩
    have least : count ≤ count * perUnit := Nat.le_mul_of_pos_right _ (unit_of_known known).1
    have counted : readUnsigned largestWord digits = .ok count :=
      (readUnsigned_eq_ok_iff _ _ _).mpr ⟨.bare digit, Nat.le_trans least small⟩
    simp only [readLength, counted, known, if_pos small]

/-- Exactly the spelled durations are read. -/
theorem parseNormal_eq_ok_iff (text : List Char) (length : Option Millis) :
    parseNormal text = .ok length ↔ Spelled text length := by
  constructor
  · intro read
    by_cases empty : text = []
    · subst empty
      cases read
      exact .empty
    by_cases off : text = ['o', 'f', 'f']
    · subst off
      cases read
      exact .off
    rw [parseNormal_eq empty off] at read
    split at read
    · cases read
    · have all : (text.takeWhile isDigit).all Char.isDigit = true :=
        List.all_eq_true.mpr fun character member =>
          (isDigit_eq character).symm.trans (List.all_eq_true.mp List.all_takeWhile _ member)
      obtain ⟨count, perUnit, digit, known, small, rfl⟩ :=
        (readLength_eq_ok_iff all length).mp read
      rw [← List.takeWhile_append_dropWhile (p := isDigit) (l := text)]
      exact .length digit known small
  · intro spelled
    cases spelled with
    | empty => rfl
    | off => rfl
    | @length digits unit count perUnit digit known small =>
      obtain ⟨taken, dropped⟩ := split_digits digit.all (unit_of_known known).2
      have begins : digits ++ unit ≠ ['o', 'f', 'f'] := by
        intro off
        rw [off] at taken
        exact digit.nonempty taken.symm
      rw [parseNormal_eq (by simp [digit.nonempty]) begins, taken, dropped,
        if_neg (mt List.isEmpty_iff.mp digit.nonempty), readLength_eq_ok_iff digit.all]
      exact ⟨count, perUnit, digit, known, small, rfl⟩

/-- What is read is never a length of zero. -/
theorem ne_zero_of_parse {text : String} {length : Option Millis} (read : parse text = .ok length) :
    length ≠ some 0 := by
  have spelled := (parseNormal_eq_ok_iff _ length).mp read
  generalize lowercase (trim text.toList) = normal at spelled
  cases spelled with
  | empty => simp
  | off => simp
  | length digit known small => exact positive?_ne_zero _

end Standby.Duration
