import Standby.Proofs.Calendar
import Standby.Proofs.Json.Text
import Standby.Proofs.Text.Numeral
import Standby.Timestamp

/-!
# What timestamps say

A timestamp spells out a date and a time of day in digits, each field at least as wide as its
rule asks and ending where its separator stands. A text can therefore be read in one way only.
What is read is a date that the calendar has and a time of a day, and the closed form of the
calendar leads back from them to the seconds. So nothing is lost but what is below a
millisecond.
-/

namespace Standby.Timestamp

open Calendar
open Text (largestWord)

/-- Digits stand for a number in a field with a width. Only a number that needs more digits than
that has more, and then none in front is zero. -/
structure Padded (width : Nat) (text : List Char) (number : Nat) : Prop where
  digits : Text.Digits text number
  wide : width ≤ text.length
  spare : width < text.length → text.head? ≠ some '0'

/-- The form of a timestamp: year, month and day, hour, minute, second and millisecond, and the
separators between them. -/
inductive Written (fields : Fields) : List Char → Prop where
  | fields {year month day hour minute second millisecond : List Char}
    (years : Padded 4 year fields.date.year) (months : Padded 2 month fields.date.month)
    (days : Padded 2 day fields.date.day) (hours : Padded 2 hour fields.hour)
    (minutes : Padded 2 minute fields.minute) (seconds : Padded 2 second fields.second)
    (milliseconds : Padded 3 millisecond fields.millisecond) :
    Written fields (year ++ '-' :: (month ++ '-' :: (day ++ 'T' :: (hour ++ ':' ::
      (minute ++ ':' :: (second ++ '.' :: (millisecond ++ ['Z'])))))))

/-- A date that the calendar has, and a time of its day. -/
structure Fields.Proper (fields : Fields) : Prop where
  date : fields.date.Proper
  hour : fields.hour < 24
  minute : fields.minute < 60
  second : fields.second < 60
  millisecond : fields.millisecond < 1000

/-- The seconds since the start of 1970, by the closed form of the calendar. -/
def Fields.seconds (fields : Fields) : Nat :=
  dayNumber fields.date * daySeconds + fields.hour * 3600 + fields.minute * 60 + fields.second

/-- A number is written into a field. -/
theorem padded_spec {width : Nat} (positive : 0 < width) (number : Nat) :
    Padded width (padded width number) number := by
  refine ⟨⟨?_, ?_, ?_⟩, ?_, ?_⟩
  · simp [padded, Nat.toDigits_ne_nil]
  · simpa [padded, List.all_eq_true] using Json.isDigit_of_mem number
  · simp [padded, Nat.ofDigitChars_append, Nat.ofDigitChars_ten_toDigits]
  · simp [padded]
    omega
  · intro more zero
    have full : padded width number = Nat.toDigits 10 number := by
      simp only [padded, List.length_append, List.length_replicate] at more ⊢
      simp [show width - (Nat.toDigits 10 number).length = 0 by omega]
    rw [full] at more zero
    obtain rfl := Json.head_toDigits number zero
    simp at more
    omega

/-- A field ends where its separator stands. -/
theorem Padded.inj {width number number' : Nat} {text text' rest rest' : List Char}
    {separator : Char} (field : Padded width text number) (field' : Padded width text' number')
    (parts : separator.isDigit = false)
    (same : text ++ separator :: rest = text' ++ separator :: rest') :
    number = number' ∧ rest = rest' := by
  have ends (rest : List Char) : Json.Parts (separator :: rest) := by
    rintro _ ⟨⟩
    exact parts
  obtain ⟨taken, dropped⟩ :=
    Json.takeWhile_digits (List.all_eq_true.mp field.digits.all) (ends rest)
  obtain ⟨taken', dropped'⟩ :=
    Json.takeWhile_digits (List.all_eq_true.mp field'.digits.all) (ends rest')
  rw [same] at taken dropped
  obtain rfl := taken.symm.trans taken'
  exact ⟨field.digits.value.trans field'.digits.value.symm,
    (List.cons.inj (dropped.symm.trans dropped')).2⟩

/-- A timestamp can be read in one way only. -/
theorem Written.inj {fields fields' : Fields} {text text' : List Char}
    (written : Written fields text) (written' : Written fields' text') (same : text = text') :
    fields = fields' := by
  obtain ⟨years, months, days, hours, minutes, seconds, milliseconds⟩ := written
  obtain ⟨years', months', days', hours', minutes', seconds', milliseconds'⟩ := written'
  obtain ⟨year, same⟩ := years.inj years' rfl same
  obtain ⟨month, same⟩ := months.inj months' rfl same
  obtain ⟨day, same⟩ := days.inj days' rfl same
  obtain ⟨hour, same⟩ := hours.inj hours' rfl same
  obtain ⟨minute, same⟩ := minutes.inj minutes' rfl same
  obtain ⟨second, same⟩ := seconds.inj seconds' rfl same
  obtain ⟨millisecond, -⟩ := milliseconds.inj milliseconds' rfl same
  obtain ⟨⟨_, _, _⟩, _, _, _, _⟩ := fields
  obtain ⟨⟨_, _, _⟩, _, _, _, _⟩ := fields'
  simp_all

/-- Fields are written in the form of a timestamp. -/
theorem write_written (fields : Fields) : Written fields fields.write := by
  simp only [Fields.write, List.append_assoc, List.cons_append]
  exact .fields (padded_spec (by decide) _) (padded_spec (by decide) _)
    (padded_spec (by decide) _) (padded_spec (by decide) _) (padded_spec (by decide) _)
    (padded_spec (by decide) _) (padded_spec (by decide) _)

namespace Instant

variable (instant : Instant)

/-- An instant is split into a date and a time of day. -/
theorem fields_proper (within : instant.nanoseconds < 1000000000) : instant.fields.Proper where
  date := (dateOf_spec _).1
  hour := by
    simp only [fields, daySeconds]
    omega
  minute := by
    simp only [fields]
    omega
  second := Nat.mod_lt _ (by decide)
  millisecond := by
    simp only [fields, milliseconds]
    omega

/-- The closed form leads back to the seconds. -/
theorem seconds_fields : instant.fields.seconds = instant.seconds := by
  simp only [Fields.seconds, fields, (dateOf_spec _).2, daySeconds]
  omega

/-- The text of an instant is written field by field. -/
theorem text_written : Written instant.fields instant.text.toList := by
  simpa [text] using write_written instant.fields

variable {instant}

/-- The text of an instant tells it to the millisecond. -/
theorem text_eq_iff {other : Instant} : instant.text = other.text ↔
    instant.seconds = other.seconds ∧ instant.milliseconds = other.milliseconds := by
  constructor
  · intro same
    have read := instant.text_written.inj other.text_written (congrArg String.toList same)
    exact ⟨by rw [← seconds_fields, read, seconds_fields], congrArg Fields.millisecond read⟩
  · rintro ⟨seconds, milliseconds⟩
    simp only [text, fields, seconds, milliseconds]

variable (instant)

/-- What a timestamp says about its instant. -/
structure Dated : Prop where
  /-- It has the form of a timestamp. -/
  form : ∃ fields, Written fields instant.text.toList
  /-- It shows a date that the calendar has and a time of its day. -/
  proper : ∀ {fields}, Written fields instant.text.toList → fields.Proper
  /-- The closed form of the calendar leads back to the seconds. -/
  seconds : ∀ {fields}, Written fields instant.text.toList → fields.seconds = instant.seconds
  /-- The milliseconds are those of the instant. -/
  milliseconds : ∀ {fields}, Written fields instant.text.toList →
    fields.millisecond = instant.nanoseconds / 1000000

/-- A timestamp shows its instant, however it is read, and two instants have the same timestamp
exactly if they agree to the millisecond. -/
theorem text_dated (within : instant.nanoseconds < 1000000000) : instant.Dated ∧
    ∀ other : Instant, instant.text = other.text ↔ instant.seconds = other.seconds ∧
      instant.nanoseconds / 1000000 = other.nanoseconds / 1000000 := by
  have read {fields : Fields} (written : Written fields instant.text.toList) :
      fields = instant.fields := written.inj instant.text_written rfl
  refine ⟨⟨⟨_, instant.text_written⟩, ?_, ?_, ?_⟩, fun _ => text_eq_iff⟩
  · exact fun written => read written ▸ instant.fields_proper within
  · exact fun written => read written ▸ instant.seconds_fields
  · exact fun written => read written ▸ rfl

/-- The last instant whose seconds fit into a word, in the year 584554051223, and one that is
less than a millisecond before it. -/
theorem last_dated : (⟨largestWord, 999999999⟩ : Instant).Dated ∧
    Instant.text ⟨largestWord, 999999999⟩ = Instant.text ⟨largestWord, 999000000⟩ :=
  have dated := text_dated ⟨largestWord, 999999999⟩ (by decide)
  ⟨dated.1, (dated.2 _).mpr ⟨rfl, by decide⟩⟩

end Instant

end Standby.Timestamp
