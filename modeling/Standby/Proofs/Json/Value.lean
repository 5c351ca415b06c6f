import Standby.Proofs.Json.Text

/-!
# Reading what was written: values

Every value is read back from its compact text, and nothing but white space may follow it. No
text holds a character below the space, so a value stands on one line.
-/

namespace Standby.Json

/-- White space is skipped up to the first character that is none. -/
theorem skipSpace_cons {first : Char} (token : isSpace first = false) (rest : List Char) :
    skipSpace (first :: rest) = first :: rest := by
  simp [skipSpace, token]

/-- A number begins with a sign or a digit. -/
theorem head_integer (number : Int) : ∃ first tail,
    (toString number).toList = first :: tail ∧ (first = '-' ∨ first.isDigit = true) := by
  obtain ⟨digits, ⟨-, written⟩ | ⟨-, written⟩⟩ := toString_cases number
  · obtain ⟨first, others, same⟩ := List.exists_cons_of_ne_nil
      (Nat.toDigits_ne_nil : Nat.toDigits 10 digits ≠ [])
    exact ⟨first, others, written.trans same,
      .inr (isDigit_of_mem digits first (by simp [same]))⟩
  · exact ⟨'-', _, written, .inl rfl⟩

/-- A number is read as a value. -/
theorem readValue_integer (fuel : Nat) (number : Int) {rest : List Char} (parts : Parts rest) :
    readValue (fuel + 1) ((toString number).toList ++ rest) = some (.integer number, rest) := by
  have read := readInteger_write number parts
  obtain ⟨first, tail, same, begins⟩ := head_integer number
  have token : isSpace first = false := by
    rcases begins with rfl | digit
    · rfl
    · rw [isSpace, ← Bool.not_eq_true]
      simp only [List.contains_cons, Bool.or_eq_true, beq_iff_eq]
      rintro (rfl | rfl | rfl | rfl | none) <;> simp_all
  have other (character : Char) (unsigned : character ≠ '-') (letter : character.isDigit = false) :
      first ≠ character := by
    rintro rfl
    rcases begins with same | digit
    · exact unsigned same
    · rw [letter] at digit
      cases digit
  rw [same] at read ⊢
  rw [readValue, List.cons_append, skipSpace_cons token]
  rw [List.cons_append] at read
  split
  case h_1 eq => exact absurd (List.cons.inj eq).1 (other '"' (by decide) rfl)
  case h_2 eq => exact absurd (List.cons.inj eq).1 (other 't' (by decide) rfl)
  case h_3 eq => exact absurd (List.cons.inj eq).1 (other 'f' (by decide) rfl)
  case h_4 eq => exact absurd (List.cons.inj eq).1 (other '\x7b' (by decide) rfl)
  case h_5 => simp [read]

/-- What follows a value among members is no digit. -/
theorem parts_cons {first : Char} (mark : first.isDigit = false) (rest : List Char) :
    Parts (first :: rest) := by
  rintro character same
  obtain rfl : first = character := by simpa using same
  exact mark

/-- The members behind the first stand behind a comma. -/
theorem writeMembers_others (name : String) (value : Json) (rest : Members) :
    writeMembers false (.member name value rest) =
      ',' :: writeMembers true (.member name value rest) := rfl

/-- The parts of a member and what follows it, one behind the other. -/
theorem writeMembers_append (name : String) (value : Json) (others : Members)
    (rest : List Char) : writeMembers true (.member name value others) ++ rest =
      '"' :: (name.toList.flatMap escape ++
        '"' :: ':' :: (value.write ++ (writeMembers false others ++ rest))) := by
  simp [writeMembers, writeText]

/-- Every value is written with at least one character. -/
theorem exists_fuel {value : Json} {fuel : Nat} (enough : value.write.length ≤ fuel) :
    ∃ less, fuel = less + 1 := by
  refine Nat.exists_eq_add_one_of_ne_zero ?_
  rintro rfl
  cases value with
  | text content => simp [write, writeText] at enough
  | integer number =>
    obtain ⟨first, tail, same, -⟩ := head_integer number
    rw [write, same] at enough
    cases enough
  | truth value => cases value <;> cases enough
  | object members => simp [write] at enough

/-- The last member is read with the brace behind it. -/
theorem readMembers_last (fuel : Nat) (name : String) (value : Json) (rest : List Char)
    (read : readValue fuel (value.write ++ '\x7d' :: rest) = some (value, '\x7d' :: rest)) :
    readMembers (fuel + 1) (writeMembers true (.member name value .none) ++ '\x7d' :: rest) =
      some (.member name value .none, rest) := by
  rw [writeMembers_append]
  simp [readMembers, skipSpace_cons (show isSpace '"' = false from rfl), readText_write,
    skipSpace_cons (show isSpace ':' = false from rfl), writeMembers, read,
    skipSpace_cons (show isSpace '\x7d' = false from rfl)]

/-- A member before a comma is read with the members behind the comma. -/
theorem readMembers_next (fuel : Nat) (name : String) (value : Json) (others : Members)
    (behind rest : List Char)
    (read : readValue fuel (value.write ++ ',' :: behind) = some (value, ',' :: behind))
    (members : readMembers fuel behind = some (others, rest)) :
    readMembers (fuel + 1)
        ('"' :: (name.toList.flatMap escape ++ '"' :: ':' :: (value.write ++ ',' :: behind))) =
      some (.member name value others, rest) := by
  simp [readMembers, skipSpace_cons (show isSpace '"' = false from rfl), readText_write,
    skipSpace_cons (show isSpace ':' = false from rfl), read,
    skipSpace_cons (show isSpace ',' = false from rfl), members]

mutual

/-- A value is read from what was written for it, with a unit of fuel for every character. -/
theorem readValue_write : ∀ (value : Json) (fuel : Nat) (rest : List Char),
    value.write.length ≤ fuel → Parts rest →
      readValue fuel (value.write ++ rest) = some (value, rest)
  | .text content, fuel, rest, enough, _ => by
    obtain ⟨fuel, rfl⟩ := exists_fuel enough
    simp [write, writeText, readValue, skipSpace_cons (show isSpace '"' = false from rfl),
      readText_write]
  | .integer number, fuel, rest, enough, parts => by
    obtain ⟨fuel, rfl⟩ := exists_fuel enough
    exact readValue_integer fuel number parts
  | .truth value, fuel, rest, enough, _ => by
    obtain ⟨fuel, rfl⟩ := exists_fuel enough
    cases value <;> rfl
  | .object .none, fuel, rest, enough, _ => by
    obtain ⟨fuel, rfl⟩ := exists_fuel enough
    rfl
  | .object (.member name value others), fuel, rest, enough, _ => by
    obtain ⟨fuel, rfl⟩ := exists_fuel enough
    have members := readMembers_write name value others fuel rest (by
      simp only [write, List.length_append, List.length_cons, List.length_nil] at enough
      omega)
    simp only [write, List.cons_append, List.append_assoc, List.nil_append]
    rw [writeMembers_append] at members ⊢
    simp [readValue, skipSpace_cons (show isSpace '\x7b' = false from rfl),
      skipSpace_cons (show isSpace '"' = false from rfl), members]
termination_by value => sizeOf value
decreasing_by
  simp only [Json.object.sizeOf_spec, Members.member.sizeOf_spec]
  omega

/-- Members are read from what was written for them, up to the brace behind them. -/
theorem readMembers_write : ∀ (name : String) (value : Json) (others : Members) (fuel : Nat)
    (rest : List Char), (writeMembers true (.member name value others)).length < fuel →
      readMembers fuel (writeMembers true (.member name value others) ++ '\x7d' :: rest) =
        some (.member name value others, rest)
  | name, value, .none, fuel, rest, enough => by
    obtain ⟨fuel, rfl⟩ : ∃ less, fuel = less + 1 := Nat.exists_eq_add_one_of_ne_zero (by omega)
    have read := readValue_write value fuel ('\x7d' :: rest) (by
      simp only [writeMembers, List.length_append, List.length_cons] at enough
      omega) (parts_cons rfl rest)
    exact readMembers_last fuel name value rest read
  | name, value, .member next held others, fuel, rest, enough => by
    obtain ⟨fuel, rfl⟩ : ∃ less, fuel = less + 1 := Nat.exists_eq_add_one_of_ne_zero (by omega)
    let behind := writeMembers true (.member next held others) ++ '\x7d' :: rest
    rw [writeMembers, writeMembers_others] at enough
    simp only [List.length_append, List.length_cons] at enough
    have read := readValue_write value fuel (',' :: behind) (by omega) (parts_cons rfl behind)
    have members := readMembers_write next held others fuel rest (by omega)
    rw [writeMembers_append, writeMembers_others]
    exact readMembers_next fuel name value (.member next held others) behind rest read members
termination_by _ value others => 1 + sizeOf value + sizeOf others
decreasing_by
  · omega
  · omega
  · simp only [Members.member.sizeOf_spec]
    omega

end

/-- White space alone is skipped to the end. -/
theorem skipSpace_blank {blank : List Char}
    (space : ∀ character ∈ blank, isSpace character = true) : skipSpace blank = [] := by
  induction blank with
  | nil => rfl
  | cons first rest inductionHypothesis =>
    have others := inductionHypothesis fun character member =>
      space character (List.mem_cons_of_mem first member)
    simpa [skipSpace, space first List.mem_cons_self] using others

/-- What was written is read back, whatever white space follows it. -/
theorem read_write (value : Json) {blank : List Char}
    (space : ∀ character ∈ blank, isSpace character = true) :
    read? (String.ofList (value.write ++ blank)) = some value := by
  have parts : Parts blank := by
    intro character first
    have here := space character (List.mem_of_mem_head? first)
    simp only [isSpace, List.contains_cons, Bool.or_eq_true, beq_iff_eq] at here
    rcases here with rfl | rfl | rfl | rfl | none
    · rfl
    · rfl
    · rfl
    · rfl
    · cases none
  have read := readValue_write value ((value.write ++ blank).length + 1) blank
    (by rw [List.length_append]; omega) parts
  rw [read?, String.length_ofList, String.toList_ofList, read]
  simp [skipSpace_blank space]

/-- The character is no control character, so it does not end a line. -/
def IsShown (character : Char) : Prop := 0x20 ≤ character.toNat

instance (character : Char) : Decidable (IsShown character) :=
  Nat.decLe 0x20 character.toNat

/-- Characters that were checked one by one are no control characters. -/
theorem shown_of_all {characters : List Char}
    (checked : characters.all fun character => decide (IsShown character)) :
    ∀ character ∈ characters, IsShown character := by
  intro character member
  exact of_decide_eq_true (List.all_eq_true.mp checked character member)

/-- Escaping leaves no control character. -/
theorem shown_escape (character : Char) : ∀ written ∈ escape character, IsShown written := by
  have hexadecimal : ∀ code < 0x20,
      (hexPair code).all fun digit => decide (IsShown digit) := by decide
  unfold escape
  split
  case h_8 =>
    split
    · rename_i low
      intro written member
      rcases List.mem_append.mp member with front | digit
      · exact shown_of_all rfl written front
      · exact shown_of_all (hexadecimal _ low) written digit
    · rename_i high
      intro written member
      obtain rfl := List.mem_singleton.mp member
      exact Nat.le_of_not_lt high
  all_goals exact shown_of_all rfl

/-- A text is written with characters that are shown. -/
theorem shown_writeText (content : String) : ∀ written ∈ writeText content, IsShown written := by
  intro written member
  simp only [writeText, List.mem_cons, List.mem_append, List.mem_flatMap, List.not_mem_nil,
    or_false] at member
  rcases member with (rfl | ⟨character, -, inside⟩) | rfl
  · decide
  · exact shown_escape character written inside
  · decide

/-- A number is written with characters that are shown. -/
theorem shown_integer (number : Int) : ∀ written ∈ (toString number).toList, IsShown written := by
  have shown (digits : Nat) (written : Char) (member : written ∈ Nat.toDigits 10 digits) :
      IsShown written := by
    have digit := isDigit_of_mem digits written member
    simp only [Char.isDigit, Bool.and_eq_true, decide_eq_true_eq] at digit
    exact Nat.le_trans (by decide) digit.1
  intro written member
  obtain ⟨digits, ⟨-, same⟩ | ⟨-, same⟩⟩ := toString_cases number
  · exact shown digits written (same ▸ member)
  · rcases List.mem_cons.mp (same ▸ member) with rfl | later
    · decide
    · exact shown digits written later

mutual

/-- No value is written with a control character. -/
theorem shown_write : ∀ value : Json, ∀ written ∈ value.write, IsShown written
  | .text content => shown_writeText content
  | .integer number => shown_integer number
  | .truth true => shown_of_all rfl
  | .truth false => shown_of_all rfl
  | .object members => by
    intro written member
    simp only [write, List.mem_cons, List.mem_append, List.not_mem_nil, or_false] at member
    rcases member with (rfl | inside) | rfl
    · decide
    · exact shown_writeMembers true members written inside
    · decide

/-- Members are written with characters that are shown. -/
theorem shown_writeMembers : ∀ (first : Bool) (members : Members),
    ∀ written ∈ writeMembers first members, IsShown written
  | _, .none => nofun
  | first, .member name value rest => by
    intro written member
    simp only [writeMembers, List.mem_cons, List.mem_append] at member
    rcases member with ((comma | inside) | rfl | inside) | later
    · cases first with
      | true => cases comma
      | false =>
        obtain rfl := List.mem_singleton.mp comma
        decide
    · exact shown_writeText name written inside
    · decide
    · exact shown_write value written inside
    · exact shown_writeMembers false rest written later

end

end Standby.Json
