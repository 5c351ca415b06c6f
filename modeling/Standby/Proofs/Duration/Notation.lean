import Standby.Proofs.Duration
import Standby.Proofs.Text.Lowercase

/-!
# The notation of durations

What a text says about a length of time is decided by a grammar: nothing, a word for none, or a
number and a unit. The grammar is written down here with the units in full, apart from the
reading. Reading follows it on every text, and white space around a text and the case of its
letters make no difference. A number that is written out with a unit is read back.
-/

namespace Standby.Duration

open Text

/-- The milliseconds of what may stand behind a number. A number alone counts seconds. -/
inductive Weighs : List Char → Millis → Prop where
  | bare : Weighs [] 1000
  | millisecond : Weighs ['m', 's'] 1
  | second : Weighs ['s'] 1000
  | minute : Weighs ['m'] (60 * 1000)
  | hour : Weighs ['h'] (60 * 60 * 1000)
  | day : Weighs ['d'] (24 * 60 * 60 * 1000)
  | week : Weighs ['w'] (7 * 24 * 60 * 60 * 1000)

/-- One or more digits and what may stand behind them. -/
inductive Quantity : List Char → Nat → Millis → Prop where
  | digits {digits unit : List Char} {count : Nat} {perUnit : Millis}
    (number : Digits digits count) (weighs : Weighs unit perUnit) :
    Quantity (digits ++ unit) count perUnit

/-- A text without the white space around it, in lowercase. -/
def normal (text : String) : List Char := lowercase (trim text.toList)

/-- The word for no duration. -/
def off : List Char := ['o', 'f', 'f']

/-- The weight of a unit is what the table of units tells. -/
theorem weighs_iff (unit : List Char) (perUnit : Millis) :
    Weighs unit perUnit ↔ unitMillis unit = some perUnit := by
  constructor
  · rintro ⟨⟩ <;> rfl
  · intro known
    unfold unitMillis at known
    split at known
    · exact Option.some.inj known ▸ .bare
    · exact Option.some.inj known ▸ .millisecond
    · exact Option.some.inj known ▸ .second
    · exact Option.some.inj known ▸ .minute
    · exact Option.some.inj known ▸ .hour
    · exact Option.some.inj known ▸ .day
    · exact Option.some.inj known ▸ .week
    · cases known

/-- A unit is longer than nothing. -/
theorem Weighs.positive {unit : List Char} {perUnit : Millis} (weighs : Weighs unit perUnit) :
    0 < perUnit :=
  (unit_of_known ((weighs_iff unit perUnit).mp weighs)).1

/-- The unit of a quantity is longer than nothing. -/
theorem Quantity.positive {text : List Char} {count : Nat} {perUnit : Millis}
    (quantity : Quantity text count perUnit) : 0 < perUnit := by
  cases quantity with
  | digits number weighs => exact weighs.positive

/-- The texts that are spelled durations, by what they say. -/
theorem spelled_iff (text : List Char) (length : Option Millis) :
    Spelled text length ↔ (text = [] ∨ text = off) ∧ length = none ∨
      ∃ count perUnit, Quantity text count perUnit ∧ count * perUnit ≤ largestWord ∧
        length = positive? (count * perUnit) := by
  constructor
  · rintro (_ | _ | ⟨number, known, small⟩)
    · exact .inl ⟨.inl rfl, rfl⟩
    · exact .inl ⟨.inr rfl, rfl⟩
    · exact .inr ⟨_, _, .digits number ((weighs_iff _ _).mpr known), small, rfl⟩
  · rintro (⟨rfl | rfl, rfl⟩ | ⟨count, perUnit, ⟨number, weighs⟩, small, rfl⟩)
    · exact .empty
    · exact .off
    · exact .length number ((weighs_iff _ _).mp weighs) small

/-- What a text that is read stands for: nothing, or a number of units that fits into a word. -/
theorem parse_eq_ok_iff (text : String) (length : Option Millis) :
    parse text = .ok length ↔ (normal text = [] ∨ normal text = off) ∧ length = none ∨
      ∃ count perUnit, Quantity (normal text) count perUnit ∧ count * perUnit ≤ largestWord ∧
        length = positive? (count * perUnit) :=
  (parseNormal_eq_ok_iff _ _).trans (spelled_iff _ _)

/-- A length of zero is no duration, and any other is one. -/
theorem positive?_eq_iff (millis length : Millis) :
    (none = positive? millis ↔ millis = 0) ∧
      (some length = positive? millis ↔ 0 < millis ∧ length = millis) := by
  unfold positive?
  split
  · rename_i zero
    subst zero
    simp
  · rename_i positive
    simp [positive, Nat.pos_iff_ne_zero]

/-- The reading of a text is decided by the grammar. -/
structure Grammatical (text : String) : Prop where
  /-- There is no duration in nothing, in the word for it and in a quantity of zero. -/
  none_iff : parse text = .ok none ↔ normal text = [] ∨ normal text = off ∨
    ∃ perUnit, Quantity (normal text) 0 perUnit
  /-- Every other quantity that fits into a word of 64 bits is a duration of just this length. -/
  some_iff : ∀ length, parse text = .ok (some length) ↔
    ∃ count perUnit, Quantity (normal text) count perUnit ∧ 1 ≤ count ∧ count ≤ largestWord ∧
      count * perUnit ≤ largestWord ∧ length = count * perUnit
  /-- All else is a fault. -/
  error_iff : (∃ fault, parse text = .error fault) ↔ normal text ≠ [] ∧ normal text ≠ off ∧
    ∀ count perUnit, Quantity (normal text) count perUnit → largestWord < count * perUnit
  /-- A duration is never zero and never longer than a word of 64 bits can say. -/
  bounded : ∀ length, parse text = .ok (some length) → 0 < length ∧ length ≤ largestWord
  /-- White space around the text makes no difference. -/
  blanks : ∀ before after : List Char, (∀ character ∈ before, isBlank character = true) →
    (∀ character ∈ after, isBlank character = true) →
      parse (String.ofList (before ++ text.toList ++ after)) = parse text
  /-- Texts with one lowercase form are read alike. -/
  cases : ∀ other, lowercaseString text = lowercaseString other → parse text = parse other
  /-- So are texts that differ in the case of ASCII letters only. -/
  letters : ∀ other : String, text.toList.map Char.toLower = other.toList.map Char.toLower →
    parse text = parse other

/-- Reading depends on the normal form only. -/
theorem parse_congr {text other : String} (same : normal text = normal other) :
    parse text = parse other :=
  congrArg parseNormal same

/-- Trimming can wait until all is in lower case. -/
theorem normal_eq_trim (text : String) : normal text = trim (lowercase text.toList) :=
  lowercase_trim _

/-- Every text is read by the grammar. -/
theorem grammatical (text : String) : Grammatical text where
  none_iff := by
    rw [parse_eq_ok_iff]
    constructor
    · rintro (⟨empty | word, -⟩ | ⟨count, perUnit, quantity, -, nothing⟩)
      · exact .inl empty
      · exact .inr (.inl word)
      · have zero := (positive?_eq_iff _ 0).1.mp nothing
        obtain rfl := (Nat.mul_eq_zero.mp zero).resolve_right (Nat.ne_of_gt quantity.positive)
        exact .inr (.inr ⟨perUnit, quantity⟩)
    · rintro (empty | word | ⟨perUnit, quantity⟩)
      · exact .inl ⟨.inl empty, rfl⟩
      · exact .inl ⟨.inr word, rfl⟩
      · refine .inr ⟨0, perUnit, quantity, ?_, ?_⟩ <;> rw [Nat.zero_mul]
        · exact Nat.zero_le _
        · rfl
  some_iff length := by
    rw [parse_eq_ok_iff]
    constructor
    · rintro (⟨-, impossible⟩ | ⟨count, perUnit, quantity, small, same⟩)
      · cases impossible
      · obtain ⟨positive, rfl⟩ := (positive?_eq_iff _ length).2.mp same
        have least : count ≤ count * perUnit := Nat.le_mul_of_pos_right _ quantity.positive
        exact ⟨count, perUnit, quantity, Nat.pos_of_mul_pos_right positive,
          Nat.le_trans least small, small, rfl⟩
    · rintro ⟨count, perUnit, quantity, positive, -, small, rfl⟩
      exact .inr ⟨count, perUnit, quantity, small, (positive?_eq_iff _ _).2.mpr
        ⟨Nat.mul_pos positive quantity.positive, rfl⟩⟩
  error_iff := by
    constructor
    · rintro ⟨fault, refused⟩
      have unread (length : Option Millis) : parse text ≠ .ok length := by simp [refused]
      refine ⟨fun empty => ?_, fun word => ?_, fun count perUnit quantity => ?_⟩
      · exact unread none ((parse_eq_ok_iff _ _).mpr (.inl ⟨.inl empty, rfl⟩))
      · exact unread none ((parse_eq_ok_iff _ _).mpr (.inl ⟨.inr word, rfl⟩))
      · refine Nat.lt_of_not_le fun small => unread (positive? (count * perUnit)) ?_
        exact (parse_eq_ok_iff _ _).mpr (.inr ⟨count, perUnit, quantity, small, rfl⟩)
    · rintro ⟨filled, other, long⟩
      cases read : parse text with
      | error fault => exact ⟨fault, rfl⟩
      | ok length =>
        rcases (parse_eq_ok_iff _ _).mp read with
          ⟨empty | word, -⟩ | ⟨count, perUnit, quantity, small, -⟩
        · exact absurd empty filled
        · exact absurd word other
        · exact absurd small (Nat.not_le_of_lt (long count perUnit quantity))
  bounded length read := by
    rcases (parse_eq_ok_iff _ _).mp read with
      ⟨-, impossible⟩ | ⟨count, perUnit, quantity, small, same⟩
    · cases impossible
    · obtain ⟨positive, rfl⟩ := (positive?_eq_iff _ length).2.mp same
      exact ⟨positive, small⟩
  blanks before after leading trailing := by
    refine parse_congr ?_
    rw [normal, normal, String.toList_ofList, trim, trim, trimBy_surrounded leading trailing]
  cases other same := by
    refine parse_congr ?_
    have lower : lowercase text.toList = lowercase other.toList := String.ofList_injective same
    rw [normal_eq_trim, normal_eq_trim, lower]
  letters other same := by
    refine parse_congr ?_
    rw [normal_eq_trim, normal_eq_trim, ← lowercase_toLower text.toList, same, lowercase_toLower]

/-- The code points of the characters in which quantities are written. -/
def plainCodes : List Nat := List.range' 0x30 10 ++ [0x64, 0x68, 0x6D, 0x73, 0x77]

/-- These characters are neither white space nor capital letters. -/
theorem plain_settled : ∀ code ∈ plainCodes,
    code ∉ blankCodes ∧ (lowercaseRuns.find? (·.covers code)).isNone := by
  decide +kernel

section Plain

variable {text : List Char} (plain : ∀ character ∈ text, character.toNat ∈ plainCodes)
include plain

/-- A text in these characters is its own lowercase form. -/
theorem lowerFrom_plain (passed : List Char) : lowerFrom passed text = text := by
  induction text generalizing passed with
  | nil => rfl
  | cons first rest inductionHypothesis =>
    have here := plain first (List.mem_cons_self ..)
    have other (special : Char) (absent : special.toNat ∉ plainCodes) : first ≠ special := by
      rintro rfl
      exact absent here
    have own : lowerCharacter first = first := by
      rw [lowerCharacter, Option.isNone_iff_eq_none.mp (plain_settled _ here).2]
    rw [lowerFrom_cons, lowerOne, if_neg (other 'Σ' (by decide)), if_neg (other 'İ' (by decide)),
      own, inductionHypothesis fun character member =>
        plain character (List.mem_cons_of_mem _ member)]
    rfl

/-- A text in these characters has no white space around it. -/
theorem trim_plain : trim text = text := by
  have solid (character : Char) (member : character ∈ text) : isBlank character = false :=
    Bool.eq_false_iff.mpr fun blank =>
      (plain_settled _ (plain character member)).1 ((isBlank_iff character).mp blank)
  have trimmed : Trimmed isBlank text :=
    ⟨fun character first => solid character (List.mem_of_mem_head? first),
      fun character last => solid character (List.mem_of_mem_getLast? last)⟩
  exact trimBy_eq_self_iff.mpr trimmed

end Plain

/-- Digits are plain. -/
theorem plain_of_isDigit {character : Char} (digit : character.isDigit = true) :
    character.toNat ∈ plainCodes := by
  have range : 48 ≤ character.toNat ∧ character.toNat ≤ 57 := by
    simpa [Char.isDigit, UInt32.le_iff_toNat_le] using digit
  refine List.mem_append_left _ (List.mem_range'_1.mpr ?_)
  omega

/-- The characters of a unit are plain. -/
theorem Weighs.plain {unit : List Char} {perUnit : Millis} (weighs : Weighs unit perUnit) :
    ∀ character ∈ unit, character.toNat ∈ plainCodes := by
  cases weighs <;> simp [plainCodes]

/-- A number that is written out is digits of its value. -/
theorem digits_toDigits (count : Nat) : Digits (Nat.toDigits 10 count) count where
  nonempty := Nat.toDigits_ne_nil
  all := List.all_eq_true.mpr fun _ member =>
    Nat.isDigit_of_mem_toDigits (by decide) (by decide) member
  value := Nat.ofDigitChars_ten_toDigits.symm

/-- A number and a unit are their own normal form. -/
theorem normal_written (count : Nat) {unit : List Char} {perUnit : Millis}
    (weighs : Weighs unit perUnit) :
    normal (toString count ++ String.ofList unit) = Nat.toDigits 10 count ++ unit := by
  have written : (toString count ++ String.ofList unit).toList = Nat.toDigits 10 count ++ unit := by
    simp [toString, Nat.repr_eq_ofList_toDigits]
  have plain : ∀ character ∈ Nat.toDigits 10 count ++ unit, character.toNat ∈ plainCodes :=
    List.forall_mem_append.mpr ⟨fun _ member =>
      plain_of_isDigit (Nat.isDigit_of_mem_toDigits (by decide) (by decide) member), weighs.plain⟩
  rw [normal, written, trim_plain plain, lowercase, lowerFrom_plain plain]

/-- Durations are read by their grammar, whatever the text, and a number of units that fits into
a word of 64 bits is read back from its decimal digits and the unit. -/
theorem parse_followsGrammar : (∀ text, Grammatical text) ∧
    ∀ (count : Nat) (unit : List Char) (perUnit : Millis), 0 < count → Weighs unit perUnit →
      count * perUnit ≤ largestWord →
        parse (toString count ++ String.ofList unit) = .ok (some (count * perUnit)) := by
  refine ⟨grammatical, fun count unit perUnit positive weighs small => ?_⟩
  have quantity : Quantity (normal (toString count ++ String.ofList unit)) count perUnit := by
    rw [normal_written count weighs]
    exact .digits (digits_toDigits count) weighs
  have least : count ≤ count * perUnit := Nat.le_mul_of_pos_right _ weighs.positive
  exact ((grammatical _).some_iff _).mpr
    ⟨count, perUnit, quantity, positive, Nat.le_trans least small, small, rfl⟩

/-- The longest number of minutes, between blanks and with a capital letter, and one more. -/
theorem longest_followsGrammar :
    0 < 307445734561825 ∧ Weighs ['m'] 60000 ∧ 307445734561825 * 60000 ≤ largestWord ∧
      parse " 307445734561825M\t" = .ok (some 18446744073709500000) ∧
      (parse "307445734561826m").toOption = none := by
  have written : parse "307445734561825m" = .ok (some (307445734561825 * 60000)) :=
    parse_followsGrammar.2 307445734561825 ['m'] 60000 (by decide) .minute (by decide)
  refine ⟨by decide, .minute, by decide, ?_, by decide +kernel⟩
  calc parse " 307445734561825M\t" = parse "307445734561825M" :=
        (parse_followsGrammar.1 "307445734561825M").blanks [' '] ['\t']
          (List.forall_mem_singleton.mpr rfl) (List.forall_mem_singleton.mpr rfl)
    _ = parse "307445734561825m" := (parse_followsGrammar.1 _).letters _ (by decide)
    _ = .ok (some 18446744073709500000) := written

end Standby.Duration
