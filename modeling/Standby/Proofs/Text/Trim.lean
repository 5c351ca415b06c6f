import Standby.Text.Blank

/-!
# Trimming

Trimming takes characters of a class from both ends of a text and leaves what stands between
them.
-/

namespace Standby.Text

/-- No character of a class stands at either end of a text. -/
structure Trimmed (drops : Char → Bool) (text : List Char) : Prop where
  first : ∀ character ∈ text.head?, drops character = false
  last : ∀ character ∈ text.getLast?, drops character = false

/-- Trimming leaves what stands between the characters of the class at both ends. -/
theorem trimBy_between {drops : Char → Bool} {before after text : List Char}
    (leading : ∀ character ∈ before, drops character = true)
    (trailing : ∀ character ∈ after, drops character = true) (trimmed : Trimmed drops text) :
    trimBy drops (before ++ text ++ after) = text := by
  have back : ∀ character ∈ after.reverse, drops character = true := fun character member =>
    trailing character (List.mem_reverse.mp member)
  have front : (before ++ text ++ after).dropWhile drops = (text ++ after).dropWhile drops := by
    rw [List.append_assoc, List.dropWhile_append_of_pos leading]
  cases text with
  | nil =>
    have nothing : after.dropWhile drops = [] := by
      rw [← List.append_nil after, List.dropWhile_append_of_pos trailing]
      rfl
    rw [trimBy, front, List.nil_append, nothing]
    rfl
  | cons first rest =>
    have kept : (first :: rest ++ after).dropWhile drops = first :: rest ++ after :=
      dropWhile_eq_self fun character same => trimmed.first character (by simpa using same)
    have ends : ((first :: rest).reverse).dropWhile drops = (first :: rest).reverse :=
      dropWhile_eq_self fun character same =>
        trimmed.last character (by rwa [List.head?_reverse] at same)
    rw [trimBy, front, kept, List.reverse_append, List.dropWhile_append_of_pos back, ends,
      List.reverse_reverse]

/-- Only characters of the class are trimmed away, and none is left at either end. -/
theorem exists_trimBy (drops : Char → Bool) (text : List Char) : ∃ before after,
    (∀ character ∈ before, drops character = true) ∧
      (∀ character ∈ after, drops character = true) ∧
        text = before ++ trimBy drops text ++ after ∧ Trimmed drops (trimBy drops text) := by
  let rest := text.dropWhile drops
  have taken (whole : List Char) : ∀ character ∈ whole.takeWhile drops,
      drops character = true := fun character member =>
    List.all_eq_true.mp List.all_takeWhile character member
  have split : rest = trimBy drops text ++ (rest.reverse.takeWhile drops).reverse := by
    have whole := congrArg List.reverse (List.takeWhile_append_dropWhile (p := drops)
      (l := rest.reverse))
    rw [List.reverse_append, List.reverse_reverse] at whole
    exact whole.symm
  refine ⟨text.takeWhile drops, (rest.reverse.takeWhile drops).reverse, taken text, ?_, ?_,
    ?_, ?_⟩
  · exact fun character member => taken _ character (List.mem_reverse.mp member)
  · rw [List.append_assoc, ← split]
    exact List.takeWhile_append_dropWhile.symm
  · intro character same
    refine head?_dropWhile_eq_false text character ?_
    show character ∈ rest.head?
    rw [split, List.head?_append]
    exact Option.mem_def.mpr (by rw [Option.mem_def.mp same]; rfl)
  · intro character same
    have last : (trimBy drops text).getLast? = (rest.reverse.dropWhile drops).head? := by
      rw [trimBy, List.getLast?_reverse]
    rw [last] at same
    exact head?_dropWhile_eq_false rest.reverse character same

/-- Characters of the class around a text do not decide what is left of it. -/
theorem trimBy_surrounded {drops : Char → Bool} {before after : List Char}
    (leading : ∀ character ∈ before, drops character = true)
    (trailing : ∀ character ∈ after, drops character = true) (text : List Char) :
    trimBy drops (before ++ text ++ after) = trimBy drops text := by
  obtain ⟨front, back, dropsFront, dropsBack, whole, trimmed⟩ := exists_trimBy drops text
  have joined : before ++ text ++ after =
      (before ++ front) ++ trimBy drops text ++ (back ++ after) := by
    rw [congrArg (before ++ · ++ after) whole]
    simp only [List.append_assoc]
  rw [joined, trimBy_between (List.forall_mem_append.mpr ⟨leading, dropsFront⟩)
    (List.forall_mem_append.mpr ⟨dropsBack, trailing⟩) trimmed]

/-- Exactly the texts with no character of the class at either end are left as they are. -/
theorem trimBy_eq_self_iff {drops : Char → Bool} {text : List Char} :
    trimBy drops text = text ↔ Trimmed drops text := by
  constructor
  · intro same
    obtain ⟨-, -, -, -, -, trimmed⟩ := exists_trimBy drops text
    rwa [same] at trimmed
  · intro trimmed
    have surrounded : trimBy drops ([] ++ text ++ []) = text :=
      trimBy_between nofun nofun trimmed
    simpa using surrounded

end Standby.Text
