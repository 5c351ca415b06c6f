import Mathlib.Data.List.Lex
import Standby.Proofs.Calendar

/-!
# How dates sort

A later day has a later date. Dates are compared by their years first, then by their months and
last by their days of the month. A year holds all days of its dates before the next one begins,
and so does a month, so a field outweighs those behind it.
-/

namespace Standby.Calendar

/-- The fields of a date, the weightiest first. -/
def Date.places (date : Date) : List Nat := [date.year, date.month, date.day]

/-- A date has no other fields. -/
theorem Date.places_inj {date other : Date} (same : date.places = other.places) : date = other := by
  obtain ⟨_, _, _⟩ := date
  obtain ⟨_, _, _⟩ := other
  simpa [places] using same

/-- The days of the year that have passed before a date. -/
def Date.ofYear (date : Date) : Nat :=
  Counting.total id ((monthLengths date.year).take (date.month - 1)) + (date.day - 1)

/-- The days are counted from the beginning of a year. -/
theorem year_dateOf (days : Nat) : 1970 ≤ (dateOf days).year := by
  have later :=
    (findYear_spec (1970 + cycleYears * (days / cycleDays)) (days % cycleDays) (by omega)).1
  exact Nat.le_trans (Nat.le_add_right _ _) later

/-- Days that have passed before a year have passed before every later one. -/
theorem daysBefore_mono {year later : Nat} (positive : 0 < year) (ordered : year ≤ later) :
    daysBefore year ≤ daysBefore later := by
  induction ordered with
  | refl => exact Nat.le_refl _
  | @step later ordered inductionHypothesis =>
    rw [daysBefore_succ (Nat.lt_of_lt_of_le positive ordered)]
    exact Nat.le_add_right_of_le inductionHypothesis

/-- All days of a year have passed when a later one begins. -/
theorem daysBefore_of_lt {year later : Nat} (positive : 0 < year) (earlier : year < later) :
    daysBefore year + yearLength year ≤ daysBefore later := by
  rw [← daysBefore_succ positive]
  exact daysBefore_mono (Nat.succ_pos _) earlier

/-- All days of a month have passed when a later one begins. -/
theorem total_take_of_lt {lengths : List Nat} {passed length later : Nat}
    (present : lengths[passed]? = some length) (earlier : passed < later) :
    Counting.total id (lengths.take passed) + length ≤ Counting.total id (lengths.take later) := by
  induction lengths generalizing passed later with
  | nil => cases present
  | cons first rest inductionHypothesis =>
    cases later with
    | zero => cases earlier
    | succ later =>
      cases passed with
      | zero =>
        obtain rfl := Option.some.inj present
        simp [Counting.total]
      | succ passed =>
        have behind := inductionHypothesis present (Nat.lt_of_succ_lt_succ earlier)
        simp only [List.take_succ_cons, Counting.total]
        omega

namespace Date.Proper

variable {date other : Date} (proper : date.Proper)
include proper

/-- The month of a date has a length, which the day does not exceed. -/
theorem present : ∃ length,
    (monthLengths date.year)[date.month - 1]? = some length ∧ date.day ≤ length := by
  obtain ⟨passed, month⟩ := Nat.exists_eq_add_of_le' proper.month.1
  have last := proper.day.2
  have most : passed + 1 ≤ 12 := month ▸ proper.month.2
  have twelve : passed < (monthLengths date.year).length := most
  rw [month, monthLength, List.getElem?_eq_getElem twelve, Option.getD_some] at last
  exact ⟨_, by rw [month, Nat.add_sub_cancel, List.getElem?_eq_getElem twelve], last⟩

/-- No month has more than 31 days. -/
theorem day_le : date.day ≤ 31 := by
  obtain ⟨length, present, last⟩ := proper.present
  have listed := List.mem_of_getElem? present
  simp only [monthLengths, List.mem_cons, List.not_mem_nil, or_false] at listed
  split at listed <;> omega

/-- A date lies within its year. -/
theorem ofYear_lt : date.ofYear < yearLength date.year := by
  obtain ⟨length, present, last⟩ := proper.present
  have first := proper.day.1
  have passed := total_take_of_lt present (List.getElem?_eq_some_iff.mp present).1
  rw [List.take_length, total_monthLengths] at passed
  unfold ofYear
  omega

/-- The number of a day counts the days before the year of its date and those of the year. -/
theorem dayNumber_eq (since : 1970 ≤ date.year) :
    dayNumber date + epochDays = daysBefore date.year + date.ofYear := by
  obtain ⟨⟨least, most⟩, ⟨first, -⟩⟩ := proper
  obtain ⟨year, month, day⟩ := date
  obtain ⟨passed, rfl⟩ := Nat.exists_eq_add_of_le' least
  obtain ⟨ofMonth, rfl⟩ := Nat.exists_eq_add_of_le' first
  have epoch : epochDays ≤ daysBefore year := daysBefore_mono (by decide : 0 < 1970) since
  rw [dayNumber_add_epochDays (Nat.lt_of_lt_of_le (by decide) since) most]
  simp only [ofYear, Nat.add_sub_cancel]
  omega

/-- Within a year dates are compared by month and day. -/
theorem ofYear_lt_ofYear (properOther : other.Proper) (year : date.year = other.year)
    (before : [date.month, date.day] < [other.month, other.day]) :
    date.ofYear < other.ofYear := by
  obtain ⟨length, present, last⟩ := proper.present
  have first := proper.day.1
  have month := proper.month.1
  have otherFirst := properOther.day.1
  simp only [List.cons_lt_cons_iff, List.not_lt_nil, and_false, or_false] at before
  unfold ofYear
  rcases before with earlier | ⟨same, earlier⟩
  · have passed := total_take_of_lt present (show date.month - 1 < other.month - 1 by omega)
    rw [year] at passed ⊢
    omega
  · rw [year, same]
    omega

/-- An earlier date has a smaller number. -/
theorem dayNumber_lt (properOther : other.Proper) (since : 1970 ≤ date.year)
    (before : date.places < other.places) : dayNumber date < dayNumber other := by
  have within := proper.ofYear_lt
  have counted := proper.dayNumber_eq since
  rw [places, places, List.cons_lt_cons_iff] at before
  rcases before with earlier | ⟨year, earlier⟩
  · have passed := daysBefore_of_lt (by omega) earlier
    have otherCounted := properOther.dayNumber_eq (by omega)
    omega
  · have ofYear := proper.ofYear_lt_ofYear properOther year earlier
    have otherCounted := properOther.dayNumber_eq (by omega)
    rw [year] at counted
    omega

end Date.Proper

/-- The years up to a last one hold the days before the first day of the next. -/
theorem year_dateOf_le_iff {last : Nat} (since : 1970 ≤ last) (days : Nat) :
    (dateOf days).year ≤ last ↔ days < dayNumber ⟨last + 1, 1, 1⟩ := by
  obtain ⟨proper, number⟩ := dateOf_spec days
  have counted := proper.dayNumber_eq (year_dateOf days)
  have next : (⟨last + 1, 1, 1⟩ : Date).Proper := ⟨by simp, by simp [monthLength, monthLengths]⟩
  have nextCounted : dayNumber ⟨last + 1, 1, 1⟩ + epochDays = daysBefore (last + 1) :=
    next.dayNumber_eq (Nat.le_succ_of_le since)
  constructor
  · intro early
    have positive : 0 < (dateOf days).year := Nat.lt_of_lt_of_le (by decide) (year_dateOf days)
    have passed : daysBefore (dateOf days).year + yearLength (dateOf days).year ≤
      daysBefore (last + 1) := daysBefore_of_lt positive (Nat.lt_succ_of_le early)
    have within := proper.ofYear_lt
    omega
  · intro before
    by_contra late
    have passed : daysBefore (last + 1) ≤ daysBefore (dateOf days).year :=
      daysBefore_mono (Nat.succ_pos last) (Nat.lt_of_not_le late)
    omega

end Standby.Calendar
