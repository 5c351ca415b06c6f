import Standby.Proofs.Text.Trim
import Standby.Text.Lowercase

/-!
# Lowercase forms and white space

Lowercasing keeps white space and makes none, and white space around a text does not decide how
the text is lowercased. So trimming may come before lowercasing or after it. Letters that differ
only in ASCII case have one lowercase form.
-/

namespace Standby.Text

/-- The code points of all white space. -/
def blankCodes : List Nat :=
  [0x9, 0xA, 0xB, 0xC, 0xD, 0x20, 0x85, 0xA0, 0x1680, 0x2000, 0x2001, 0x2002, 0x2003, 0x2004,
   0x2005, 0x2006, 0x2007, 0x2008, 0x2009, 0x200A, 0x2028, 0x2029, 0x202F, 0x205F, 0x3000]

/-- The blanks are listed by their codes. -/
theorem isBlank_iff (character : Char) :
    isBlank character = true ↔ character.toNat ∈ blankCodes := by
  simp only [isBlank, Ranges.contains_iff, blankRanges, blankCodes, List.mem_cons,
    List.not_mem_nil, exists_eq_or_imp, or_false, exists_eq_left]
  omega

/-- A code point lies in one of the ranges. -/
def Ranges.holds (ranges : Ranges) (code : Nat) : Bool :=
  ranges.any fun range => Nat.ble range.1 code && Nat.ble code range.2

/-- White space has no case, and nothing is skipped there in the search for a letter. -/
theorem blank_uncased : ∀ code ∈ blankCodes, lowercaseRuns.all (fun run => !run.covers code) &&
    !casedRanges.holds code && !ignorableRanges.holds code := by
  decide +kernel

/-- No letter has white space for its lowercase form. -/
theorem blank_unreached : ∀ code ∈ blankCodes, ∀ run ∈ lowercaseRuns,
    (code : Int) < run.shift ∨ run.covers ((code : Int) - run.shift).toNat = false := by
  decide +kernel

section Blank

variable {character : Char} (blank : isBlank character = true)
include blank

/-- A blank has no lower case. -/
theorem lowerCharacter_of_blank : lowerCharacter character = character := by
  have uncased := blank_uncased _ ((isBlank_iff character).mp blank)
  simp only [Bool.and_eq_true, List.all_eq_true, Bool.not_eq_true'] at uncased
  have absent : lowercaseRuns.find? (·.covers character.toNat) = none :=
    List.find?_eq_none.mpr fun run member => by simp [uncased.1.1 run member]
  rw [lowerCharacter, absent]

/-- A blank is not cased. -/
theorem cased_of_blank : casedRanges.contains character = false := by
  have uncased := blank_uncased _ ((isBlank_iff character).mp blank)
  simp only [Bool.and_eq_true, Bool.not_eq_true'] at uncased
  exact uncased.1.2

/-- A blank is not ignorable. -/
theorem ignorable_of_blank : ignorableRanges.contains character = false := by
  have uncased := blank_uncased _ ((isBlank_iff character).mp blank)
  simp only [Bool.and_eq_true, Bool.not_eq_true'] at uncased
  exact uncased.2

end Blank

/-- A number that is no code point stands for the null character. -/
theorem toNat_ofNat (code : Nat) :
    (Char.ofNat code).toNat = code ∨ (Char.ofNat code).toNat = 0 := by
  by_cases valid : code.isValidChar
  · left
    delta Char.ofNat
    rw [dif_pos valid]
    rfl
  · right
    delta Char.ofNat
    rw [dif_neg valid]
    rfl

/-- The lowercase form of what is no white space is none either. -/
theorem isBlank_lowerCharacter {character : Char} (solid : isBlank character = false) :
    isBlank (lowerCharacter character) = false := by
  unfold lowerCharacter
  split
  · rename_i run found
    refine Bool.eq_false_iff.mpr fun blank => ?_
    have reached := (isBlank_iff _).mp blank
    rcases toNat_ofNat (character.toNat + run.shift).toNat with same | null
    · rw [same] at reached
      have covers : run.covers character.toNat = true := by simpa using List.find?_some found
      have positive : 0 < (character.toNat + run.shift).toNat := by
        refine Nat.pos_of_ne_zero fun zero => ?_
        rw [zero] at reached
        revert reached
        decide
      rcases blank_unreached _ reached run (List.mem_of_find?_eq_some found) with below | missed
      · omega
      · rw [show (((character.toNat + run.shift).toNat : Int) - run.shift).toNat =
          character.toNat by omega] at missed
        rw [missed] at covers
        cases covers
    · rw [null] at reached
      revert reached
      decide
  · exact solid

/-- The lowercase form of one character, given whether a cased letter stands before it and
whether one stands after it. -/
def lowerOne (before after : Bool) (character : Char) : List Char :=
  if character = 'Σ' then [if before && !after then 'ς' else 'σ']
  else if character = 'İ' then ['i', Char.ofNat 0x307]
  else [lowerCharacter character]

/-- Each character is lowercased on its own, given its surroundings. -/
theorem lowerFrom_cons (passed : List Char) (character : Char) (rest : List Char) :
    lowerFrom passed (character :: rest) =
      lowerOne (meetsCased passed) (meetsCased rest) character ++
        lowerFrom (character :: passed) rest := by
  unfold lowerOne
  split
  · rename_i sigma
    subst sigma
    rfl
  · rename_i noSigma
    split
    · rename_i dotted
      subst dotted
      rfl
    · rename_i undotted
      rw [lowerFrom]
      · rfl
      · exact noSigma
      · exact undotted

/-- No character vanishes in lower case. -/
theorem lowerOne_ne_nil (before after : Bool) (character : Char) :
    lowerOne before after character ≠ [] := by
  unfold lowerOne
  split
  · simp
  · split <;> simp

/-- A character that is no white space leaves none. -/
theorem isBlank_of_mem_lowerOne {before after : Bool} {character : Char}
    (solid : isBlank character = false) :
    ∀ lower ∈ lowerOne before after character, isBlank lower = false := by
  intro lower member
  unfold lowerOne at member
  split at member
  · obtain rfl := List.mem_singleton.mp member
    split <;> decide
  · split at member
    · rcases List.mem_cons.mp member with rfl | last
      · decide
      · obtain rfl := List.mem_singleton.mp last
        decide
    · obtain rfl := List.mem_singleton.mp member
      exact isBlank_lowerCharacter solid

/-- A blank stays in lower case what it is. -/
theorem lowerOne_of_blank {before after : Bool} {character : Char}
    (blank : isBlank character = true) : lowerOne before after character = [character] := by
  have noSigma : character ≠ 'Σ' := by
    rintro rfl
    revert blank
    decide
  have undotted : character ≠ 'İ' := by
    rintro rfl
    revert blank
    decide
  rw [lowerOne, if_neg noSigma, if_neg undotted, lowerCharacter_of_blank blank]

/-- The nearest character decides unless it is ignorable. -/
theorem meetsCased_cons (nearest : Char) (neighbours : List Char) :
    meetsCased (nearest :: neighbours) =
      if ignorableRanges.contains nearest then meetsCased neighbours
      else casedRanges.contains nearest := by
  rw [meetsCased, List.dropWhile_cons]
  cases ignorableRanges.contains nearest <;> rfl

section Blanks

variable {blanks : List Char} (blank : ∀ character ∈ blanks, isBlank character = true)
include blank

/-- Nothing is found in white space, nor behind it. -/
theorem meetsCased_append (neighbours : List Char) :
    meetsCased (neighbours ++ blanks) = meetsCased neighbours := by
  induction neighbours with
  | nil =>
    cases blanks with
    | nil => rfl
    | cons first rest =>
      have here := blank first (List.mem_cons_self ..)
      rw [List.nil_append, meetsCased_cons, ignorable_of_blank here, cased_of_blank here]
      rfl
  | cons nearest neighbours inductionHypothesis =>
    rw [List.cons_append, meetsCased_cons, meetsCased_cons, inductionHypothesis]

/-- White space is its own lowercase form, and what follows it is told that it was passed. -/
theorem lowerFrom_blanks (passed rest : List Char) :
    lowerFrom passed (blanks ++ rest) = blanks ++ lowerFrom (blanks.reverse ++ passed) rest := by
  induction blanks generalizing passed with
  | nil => rfl
  | cons first blanks inductionHypothesis =>
    rw [List.cons_append, lowerFrom_cons, lowerOne_of_blank (blank first (List.mem_cons_self ..)),
      inductionHypothesis fun character member => blank character (List.mem_cons_of_mem _ member)]
    simp

/-- White space that was passed before all else decides nothing. -/
theorem lowerFrom_after_blanks (passed text : List Char) :
    lowerFrom (passed ++ blanks) text = lowerFrom passed text := by
  induction text generalizing passed with
  | nil => rfl
  | cons character rest inductionHypothesis =>
    rw [lowerFrom_cons, lowerFrom_cons, meetsCased_append blank]
    exact congrArg _ (inductionHypothesis (character :: passed))

/-- White space behind a text stays there and decides nothing. -/
theorem lowerFrom_before_blanks (passed text : List Char) :
    lowerFrom passed (text ++ blanks) = lowerFrom passed text ++ blanks := by
  induction text generalizing passed with
  | nil => simpa [lowerFrom] using lowerFrom_blanks blank passed []
  | cons character rest inductionHypothesis =>
    rw [List.cons_append, lowerFrom_cons, lowerFrom_cons, meetsCased_append blank,
      inductionHypothesis, List.append_assoc]

end Blanks

/-- White space around a text stays around its lowercase form. -/
theorem lowercase_between {before after : List Char}
    (leading : ∀ character ∈ before, isBlank character = true)
    (trailing : ∀ character ∈ after, isBlank character = true) (text : List Char) :
    lowercase (before ++ text ++ after) = before ++ lowercase text ++ after := by
  have passed : ∀ character ∈ before.reverse, isBlank character = true := fun character member =>
    leading character (List.mem_reverse.mp member)
  have alone := lowerFrom_after_blanks passed [] text
  rw [List.nil_append] at alone
  rw [lowercase, lowerFrom_before_blanks trailing, lowerFrom_blanks leading, List.append_nil,
    alone, lowercase]

/-- The lowercase form of a text ends with that of its last character. -/
theorem lowerFrom_concat (passed text : List Char) (last : Char) :
    ∃ front before after, lowerFrom passed (text ++ [last]) =
      front ++ lowerOne before after last := by
  induction text generalizing passed with
  | nil => exact ⟨[], _, _, by rw [List.nil_append, lowerFrom_cons]; simp [lowerFrom]; rfl⟩
  | cons first rest inductionHypothesis =>
    obtain ⟨front, before, after, same⟩ := inductionHypothesis (first :: passed)
    rw [List.cons_append, lowerFrom_cons, same]
    exact ⟨_, before, after, (List.append_assoc ..).symm⟩

/-- The lowercase form of a trimmed text is trimmed. -/
theorem Trimmed.lowercase {text : List Char} (trimmed : Trimmed isBlank text) :
    Trimmed isBlank (Text.lowercase text) where
  first character same := by
    cases text with
    | nil => cases same
    | cons first rest =>
      rw [Text.lowercase, lowerFrom_cons, List.head?_append,
        List.head?_eq_some_head (lowerOne_ne_nil _ _ _)] at same
      obtain rfl := Option.some.inj same
      exact isBlank_of_mem_lowerOne (trimmed.first first rfl) _ (List.head_mem _)
  last character same := by
    rcases List.eq_nil_or_concat text with rfl | ⟨rest, last, rfl⟩
    · cases same
    · obtain ⟨front, before, after, ends⟩ := lowerFrom_concat [] rest last
      rw [List.concat_eq_append] at trimmed same
      rw [Text.lowercase, ends, List.getLast?_append,
        List.getLast?_eq_some_getLast (lowerOne_ne_nil _ _ _)] at same
      obtain rfl := Option.some.inj same
      exact isBlank_of_mem_lowerOne (trimmed.last last (by simp)) _ (List.getLast_mem _)

/-- Trimming may come before lowercasing or after it. -/
theorem lowercase_trim (text : List Char) : lowercase (trim text) = trim (lowercase text) := by
  obtain ⟨before, after, leading, trailing, whole, trimmed⟩ := exists_trimBy isBlank text
  have lower : lowercase text = before ++ lowercase (trim text) ++ after :=
    (congrArg lowercase whole).trans (lowercase_between leading trailing _)
  exact lower ▸ trimBy_between leading trailing trimmed.lowercase |>.symm

/-- A capital letter of ASCII and the small letter lie together in the tables. -/
theorem capital_small : ∀ code ∈ List.range' 0x41 26,
    (lowercaseRuns.find? (·.covers code)).map (fun run => ((code : Int) + run.shift).toNat) =
        some (code + 32) ∧
      (lowercaseRuns.find? (·.covers (code + 32))).isNone ∧
      casedRanges.holds code = casedRanges.holds (code + 32) ∧
      ignorableRanges.holds code = ignorableRanges.holds (code + 32) := by
  decide +kernel

/-- Only capital letters of ASCII have another ASCII lowercase form. -/
theorem toLower_cases (character : Char) : character.toLower = character ∨
    character.toNat ∈ List.range' 0x41 26 ∧ character.toLower.toNat = character.toNat + 32 := by
  by_cases capital : 'A'.val ≤ character.val ∧ character.val ≤ 'Z'.val
  · have low : 65 ≤ character.toNat := UInt32.le_iff_toNat_le.mp capital.1
    have high : character.toNat ≤ 90 := UInt32.le_iff_toNat_le.mp capital.2
    have lower : character.toLower.val = character.val + 32 := by
      delta Char.toLower
      rw [dif_pos (show character.val ≥ 'A'.val ∧ character.val ≤ 'Z'.val from capital)]
      rfl
    refine .inr ⟨List.mem_range'_1.mpr (by omega), ?_⟩
    calc character.toLower.toNat = (character.val + 32).toNat := congrArg UInt32.toNat lower
      _ = (character.toNat + 32) % 4294967296 := UInt32.toNat_add _ _
      _ = character.toNat + 32 := Nat.mod_eq_of_lt (by omega)
  · exact .inl (dif_neg capital)

/-- A character is in ranges when its code is. -/
theorem holds_eq_contains (ranges : Ranges) (character : Char) :
    ranges.contains character = ranges.holds character.toNat := rfl

/-- A letter and its ASCII lowercase form are found alike, and have one lowercase form. -/
theorem alike_toLower (character : Char) :
    lowerCharacter character.toLower = lowerCharacter character ∧
      casedRanges.contains character.toLower = casedRanges.contains character ∧
      ignorableRanges.contains character.toLower = ignorableRanges.contains character := by
  rcases toLower_cases character with same | ⟨capital, small⟩
  · rw [same]
    exact ⟨rfl, rfl, rfl⟩
  · obtain ⟨own, final, cased, ignorable⟩ := capital_small _ capital
    refine ⟨?_, ?_, ?_⟩
    · obtain ⟨run, found, code⟩ := Option.map_eq_some_iff.mp own
      have absent : lowercaseRuns.find? (·.covers character.toLower.toNat) = none := by
        rw [small]
        exact Option.isNone_iff_eq_none.mp final
      rw [lowerCharacter, absent, lowerCharacter, found]
      dsimp only
      rw [code, ← small, Char.ofNat_toNat]
    · rw [holds_eq_contains, holds_eq_contains, small, cased]
    · rw [holds_eq_contains, holds_eq_contains, small, ignorable]

/-- A capital letter has the lower case of its small letter. -/
theorem lowerOne_toLower (before after : Bool) (character : Char) :
    lowerOne before after character.toLower = lowerOne before after character := by
  have kept (special : Char) (high : 0x80 ≤ special.toNat) :
      character.toLower = special ↔ character = special := by
    rcases toLower_cases character with same | ⟨capital, small⟩
    · rw [same]
    · have range := List.mem_range'_1.mp capital
      constructor <;> rintro rfl <;> omega
  simp only [lowerOne, kept 'Σ' (by decide), kept 'İ' (by decide), (alike_toLower character).1]

/-- Capital letters are cased as their small letters are. -/
theorem meetsCased_toLower (neighbours : List Char) :
    meetsCased (neighbours.map Char.toLower) = meetsCased neighbours := by
  induction neighbours with
  | nil => rfl
  | cons nearest neighbours inductionHypothesis =>
    obtain ⟨-, cased, ignorable⟩ := alike_toLower nearest
    rw [List.map_cons, meetsCased_cons, meetsCased_cons, inductionHypothesis, cased, ignorable]

/-- A text has the lower case of the same text in small letters. -/
theorem lowerFrom_toLower (passed text : List Char) :
    lowerFrom (passed.map Char.toLower) (text.map Char.toLower) = lowerFrom passed text := by
  induction text generalizing passed with
  | nil => rfl
  | cons character rest inductionHypothesis =>
    rw [List.map_cons, lowerFrom_cons, lowerFrom_cons, meetsCased_toLower, meetsCased_toLower,
      lowerOne_toLower, ← inductionHypothesis, List.map_cons]

/-- ASCII case makes no difference to the lowercase form of a text. -/
theorem lowercase_toLower (text : List Char) :
    lowercase (text.map Char.toLower) = lowercase text :=
  lowerFrom_toLower [] text

end Standby.Text
