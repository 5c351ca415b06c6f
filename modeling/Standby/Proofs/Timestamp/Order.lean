import Standby.Proofs.Calendar.Order
import Standby.Proofs.Text.Order
import Standby.Proofs.Timestamp

/-!
# How timestamps sort

Up to the year 9999 each field of a timestamp has a fixed width, so the texts compare as the
lists of their fields do, from the year down to the millisecond. The fields compare as the times
that they stand for, because each of them outweighs all that stand behind it. So timestamps can
be sorted as texts, and nothing but what is below a millisecond is left out of their order.
-/

namespace Standby.Timestamp

open Calendar
open Text (append_lt_append_iff)

section Padded

variable {width number other : Nat} (positive : 0 < width) (small : number < Nat.pow 10 width)
include positive small

/-- A number that fits into a field fills its width. -/
theorem length_padded : (padded width number).length = width := by
  have fits := (Nat.length_toDigits_le_iff (by decide : 1 < 10) positive).mpr small
  simp only [padded, List.length_append, List.length_replicate]
  omega

/-- Fields of one width are compared before what stands behind their separator. -/
theorem padded_lt_padded_iff (smallOther : other < Nat.pow 10 width) (separator : Char)
    (rest rest' : List Char) :
    padded width number ++ separator :: rest < padded width other ++ separator :: rest' ↔
      number < other ∨ number = other ∧ rest < rest' := by
  have digits := (padded_spec positive number).digits
  have digits' := (padded_spec positive other).digits
  have wide : (padded width number).length = (padded width other).length :=
    (length_padded positive small).trans (length_padded positive smallOther).symm
  have same : padded width number = padded width other ↔ number = other :=
    ⟨fun text => by rw [digits.value, text, ← digits'.value], congrArg _⟩
  rw [append_lt_append_iff wide, digits.lt_iff digits' wide, same, List.cons_lt_cons_self]

end Padded

namespace Fields

/-- The fields of a date and a time of its day, the weightiest first. -/
def places (fields : Fields) : List Nat :=
  fields.date.places ++ [fields.hour, fields.minute, fields.second, fields.millisecond]

/-- The milliseconds from the start of 1970 to a date and a time of its day. -/
def elapsed (fields : Fields) : Nat := fields.seconds * 1000 + fields.millisecond

/-- Every field fits into the width that its rule asks for. -/
structure Fits (fields : Fields) : Prop where
  year : fields.date.year < Nat.pow 10 4
  month : fields.date.month < Nat.pow 10 2
  day : fields.date.day < Nat.pow 10 2
  hour : fields.hour < Nat.pow 10 2
  minute : fields.minute < Nat.pow 10 2
  second : fields.second < Nat.pow 10 2
  millisecond : fields.millisecond < Nat.pow 10 3

variable {fields other : Fields}

/-- Only the year can be too wide. -/
theorem Proper.fits (proper : fields.Proper) (year : fields.date.year ≤ 9999) : fields.Fits where
  year := Nat.lt_of_le_of_lt year (by decide)
  month := Nat.lt_of_le_of_lt proper.date.month.2 (by decide)
  day := Nat.lt_of_le_of_lt proper.date.day_le (by decide)
  hour := Nat.lt_trans proper.hour (by decide)
  minute := Nat.lt_trans proper.minute (by decide)
  second := Nat.lt_trans proper.second (by decide)
  millisecond := proper.millisecond

/-- Fields that fit are written in 24 characters. -/
theorem Fits.length_write (fits : fields.Fits) : fields.write.length = 24 := by
  simp only [write, List.length_append, List.length_cons, List.length_nil]
  rw [length_padded (by decide) fits.year, length_padded (by decide) fits.month,
    length_padded (by decide) fits.day, length_padded (by decide) fits.hour,
    length_padded (by decide) fits.minute, length_padded (by decide) fits.second,
    length_padded (by decide) fits.millisecond]

/-- Fields that fit are compared one after the other when their texts are. -/
theorem Fits.write_lt_write_iff (fits : fields.Fits) (fitsOther : other.Fits) :
    fields.write < other.write ↔ fields.places < other.places := by
  simp only [write, List.append_assoc, List.cons_append]
  rw [padded_lt_padded_iff (by decide) fits.year fitsOther.year,
    padded_lt_padded_iff (by decide) fits.month fitsOther.month,
    padded_lt_padded_iff (by decide) fits.day fitsOther.day,
    padded_lt_padded_iff (by decide) fits.hour fitsOther.hour,
    padded_lt_padded_iff (by decide) fits.minute fitsOther.minute,
    padded_lt_padded_iff (by decide) fits.second fitsOther.second,
    padded_lt_padded_iff (by decide) fits.millisecond fitsOther.millisecond]
  simp [places, Date.places, List.cons_lt_cons_iff]

/-- Fields are known by the digits in their places. -/
theorem places_inj (same : fields.places = other.places) : fields = other := by
  obtain ⟨date, _, _, _, _⟩ := fields
  obtain ⟨dateOther, _, _, _, _⟩ := other
  obtain ⟨sameDate, ofDay⟩ := List.append_inj same rfl
  obtain rfl : date = dateOther := Date.places_inj sameDate
  simpa using ofDay

section Elapsed

variable (proper : fields.Proper) (properOther : other.Proper)
include proper properOther

/-- What comes first in the order of the fields is earlier in time. -/
theorem elapsed_lt_of_places_lt (since : 1970 ≤ fields.date.year)
    (before : fields.places < other.places) : fields.elapsed < other.elapsed := by
  obtain ⟨date, hour, minute, second, millisecond⟩ := proper
  have width : fields.date.places.length = other.date.places.length := rfl
  rw [places, places, append_lt_append_iff width] at before
  unfold elapsed seconds daySeconds
  rcases before with earlier | ⟨same, earlier⟩
  · have number := date.dayNumber_lt properOther.date since earlier
    omega
  · rw [Date.places_inj same]
    simp only [List.cons_lt_cons_iff, List.not_lt_nil, and_false, or_false] at earlier
    have minuteOther := properOther.minute
    have secondOther := properOther.second
    omega

/-- The fields compare as the times that they stand for. -/
theorem places_lt_places_iff (since : 1970 ≤ fields.date.year)
    (sinceOther : 1970 ≤ other.date.year) :
    fields.places < other.places ↔ fields.elapsed < other.elapsed := by
  refine ⟨elapsed_lt_of_places_lt proper properOther since, fun earlier => ?_⟩
  rcases lt_trichotomy fields.places other.places with before | same | behind
  · exact before
  · rw [places_inj same] at earlier
    exact absurd earlier (Nat.lt_irrefl _)
  · exact absurd earlier
      (Nat.lt_asymm (elapsed_lt_of_places_lt properOther proper sinceOther behind))

end Elapsed

end Fields

namespace Instant

/-- The whole milliseconds from the start of 1970 to an instant. -/
def elapsed (instant : Instant) : Nat :=
  (instant.seconds * 1000000000 + instant.nanoseconds) / 1000000

variable {instant other : Instant}

/-- An instant is as late as its fields say. -/
theorem elapsed_fields (instant : Instant) : instant.fields.elapsed = instant.elapsed := by
  rw [Fields.elapsed, seconds_fields]
  simp only [fields, milliseconds, elapsed]
  omega

/-- How the texts of two instants compare. -/
structure Sorted (instant other : Instant) : Prop where
  /-- Both texts have 24 characters. -/
  width : instant.text.length = 24 ∧ other.text.length = 24
  /-- Character by character, one text comes before the other exactly if its instant does, to the
  millisecond. -/
  earlier : instant.text.toList < other.text.toList ↔ instant.elapsed < other.elapsed
  /-- The texts are the same exactly if the instants are, to the millisecond. -/
  same : instant.text = other.text ↔ instant.elapsed = other.elapsed

/-- Up to the year 9999 timestamps sort as the instants that they show. -/
theorem text_sorted (within : instant.nanoseconds < 1000000000)
    (withinOther : other.nanoseconds < 1000000000) (year : instant.fields.date.year ≤ 9999)
    (yearOther : other.fields.date.year ≤ 9999) : instant.Sorted other := by
  have proper := instant.fields_proper within
  have properOther := other.fields_proper withinOther
  have fits := proper.fits year
  have fitsOther := properOther.fits yearOther
  constructor
  case width =>
    simp [text, fits.length_write, fitsOther.length_write]
  case earlier =>
    calc instant.text.toList < other.text.toList
      _ ↔ instant.fields.write < other.fields.write := by
        rw [text, text, String.toList_ofList, String.toList_ofList]
      _ ↔ instant.fields.places < other.fields.places := fits.write_lt_write_iff fitsOther
      _ ↔ instant.fields.elapsed < other.fields.elapsed :=
        Fields.places_lt_places_iff proper properOther (year_dateOf _) (year_dateOf _)
      _ ↔ instant.elapsed < other.elapsed := by rw [elapsed_fields, elapsed_fields]
  case same =>
    rw [text_eq_iff]
    unfold milliseconds elapsed
    omega

/-- The end of the leap day of the year 2000, and the last nanosecond of the year 9999. -/
theorem lastDays_sorted :
    Instant.Sorted ⟨951868799, 999999999⟩ ⟨253402300799, 999999999⟩ ∧
      (Instant.text ⟨951868799, 999999999⟩).toList <
        (Instant.text ⟨253402300799, 999999999⟩).toList :=
  have sorted : Instant.Sorted ⟨951868799, 999999999⟩ ⟨253402300799, 999999999⟩ :=
    text_sorted (by decide) (by decide) ((year_dateOf_le_iff (by decide) _).mpr (by decide))
      ((year_dateOf_le_iff (by decide) _).mpr (by decide))
  ⟨sorted, sorted.earlier.mpr (by decide)⟩

/-- A year with five digits comes too early in the order of texts. -/
example : (Instant.text ⟨253402300800, 0⟩).toList < (Instant.text ⟨253402300799, 0⟩).toList := by
  decide +kernel

end Instant

end Standby.Timestamp
