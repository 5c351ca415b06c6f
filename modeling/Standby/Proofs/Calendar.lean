import Standby.Calendar
import Standby.Proofs.Counting

/-!
# Walking the calendar and the closed form

The date of a day is found by walking through years and months, and the number of a day has a
closed form. Walking through a year keeps the number of days up to the day that is sought, and
so does walking through a month; at the end of the walk the closed form counts the same days.
-/

namespace Standby.Calendar

/-- The length of a month, counted from one. There is none before the first or after the last. -/
def monthLength (year : Nat) : Nat → Nat
  | 0 => 0
  | month + 1 => ((monthLengths year)[month]?).getD 0

/-- A date that the calendar has. -/
structure Date.Proper (date : Date) : Prop where
  month : 1 ≤ date.month ∧ date.month ≤ 12
  day : 1 ≤ date.day ∧ date.day ≤ monthLength date.year date.month

/-- The days before a year, from the beginning of year one. -/
def daysBefore (year : Nat) : Nat :=
  365 * (year - 1) + (year - 1) / 4 - (year - 1) / 100 + (year - 1) / 400

/-- The days before 1 January 1970. -/
def epochDays : Nat := 719162

/-- A further year is one more in a count of every so many years only if it ends one. -/
theorem count_succ (years every : Nat) :
    (years + 1) / every = years / every + if (years + 1) % every = 0 then 1 else 0 := by
  rw [Nat.succ_div]
  simp only [Nat.dvd_iff_mod_eq_zero]

/-- A day is added every fourth year, left out every hundredth and kept every four hundredth. -/
theorem yearLength_eq (year : Nat) : yearLength year + (if year % 100 = 0 then 1 else 0) =
    365 + (if year % 4 = 0 then 1 else 0) + if year % 400 = 0 then 1 else 0 := by
  have century : year % 400 = 0 → year % 100 = 0 := by omega
  have fourth : year % 100 = 0 → year % 4 = 0 := by omega
  by_cases leap : year % 4 = 0 <;> by_cases plain : year % 100 = 0 <;>
    by_cases rare : year % 400 = 0 <;> simp_all [yearLength, isLeap]

/-- After a year the days of this year have passed as well. -/
theorem daysBefore_succ {year : Nat} (positive : 0 < year) :
    daysBefore (year + 1) = daysBefore year + yearLength year := by
  obtain ⟨years, rfl⟩ : ∃ years, year = years + 1 := ⟨year - 1, by omega⟩
  have length := yearLength_eq (years + 1)
  have one : (if (years + 1) % 100 = 0 then 1 else 0) ≤ 1 := by split <;> decide
  simp only [daysBefore, Nat.add_sub_cancel, count_succ]
  generalize (if (years + 1) % 100 = 0 then 1 else 0) = century at *
  generalize (if (years + 1) % 4 = 0 then 1 else 0) = fourth at *
  omega

/-- After a whole cycle of years its days have passed. -/
theorem daysBefore_cycles (year cycles : Nat) (positive : 0 < year) :
    daysBefore (year + cycleYears * cycles) = daysBefore year + cycleDays * cycles := by
  unfold daysBefore cycleYears cycleDays
  omega

/-- Walking through the years ends in the year that holds the day. -/
theorem findYear_spec (year days : Nat) (positive : 0 < year) :
    year ≤ (findYear year days).1 ∧
      (findYear year days).2 < yearLength (findYear year days).1 ∧
      daysBefore (findYear year days).1 + (findYear year days).2 = daysBefore year + days := by
  fun_induction findYear year days with
  | case1 year days within => exact ⟨Nat.le_refl _, within, rfl⟩
  | case2 year days beyond inductionHypothesis =>
    obtain ⟨later, within, same⟩ := inductionHypothesis (Nat.succ_pos _)
    have passed := daysBefore_succ positive
    exact ⟨by omega, within, by omega⟩

/-- Walking through the months ends in the month that holds the day. -/
theorem findMonth_spec (lengths : List Nat) (month days : Nat)
    (within : days < Counting.total id lengths) :
    ∃ passed length, lengths[passed]? = some length ∧
      (findMonth lengths month days).1 = month + passed ∧
      (findMonth lengths month days).2 < length ∧
      Counting.total id (lengths.take passed) + (findMonth lengths month days).2 = days := by
  induction lengths generalizing month days with
  | nil => cases within
  | cons first rest inductionHypothesis =>
    rw [findMonth]
    by_cases here : days < first
    · rw [if_pos here]
      exact ⟨0, first, rfl, rfl, here, Nat.zero_add _⟩
    · rw [if_neg here]
      rw [Counting.total, id] at within
      obtain ⟨passed, length, found, month, day, same⟩ :=
        inductionHypothesis (month + 1) (days - first) (by omega)
      refine ⟨passed + 1, length, found, by omega, day, ?_⟩
      rw [List.take_succ_cons, Counting.total, id]
      omega

/-- The months of a year are as long as the year. -/
theorem total_monthLengths (year : Nat) :
    Counting.total id (monthLengths year) = yearLength year := by
  unfold monthLengths yearLength
  split <;> rfl

/-- The days of the months that have passed, in a year and in one that begins in March. -/
theorem total_passed (year : Nat) : ∀ passed < 12,
    Counting.total id ((monthLengths year).take passed) + (if passed < 2 then 306 else 0) =
      (153 * ((passed + 10) % 12) + 2) / 5 + (if passed < 2 then 0 else yearLength year - 306) := by
  unfold monthLengths yearLength
  cases isLeap year <;> decide

/-- The closed form counts the days before the year, those of the months that have passed and
those of the month. -/
theorem dayNumber_add_epochDays {year passed : Nat} (positive : 0 < year) (month : passed < 12)
    (day : Nat) : dayNumber ⟨year, passed + 1, day + 1⟩ + epochDays =
      max epochDays
        (daysBefore year + Counting.total id ((monthLengths year).take passed) + day) := by
  have passing := total_passed year passed month
  have later := daysBefore_succ positive
  have long : 306 ≤ yearLength year := by
    unfold yearLength
    split <;> decide
  unfold dayNumber epochDays
  simp only [show passed + 1 + 9 = passed + 10 from rfl, Nat.add_sub_cancel]
  by_cases early : passed < 2
  · rw [if_pos (by omega : passed + 1 ≤ 2)]
    rw [if_pos early, if_pos early] at passing
    unfold daysBefore
    omega
  · rw [if_neg (by omega : ¬ passed + 1 ≤ 2)]
    rw [if_neg early, if_neg early] at passing
    rw [daysBefore, Nat.add_sub_cancel] at later
    omega

/-- The date of a day is a date of the calendar, and its number is that day. -/
theorem dateOf_spec (days : Nat) : (dateOf days).Proper ∧ dayNumber (dateOf days) = days := by
  obtain ⟨later, inYear, yearCounted⟩ :=
    findYear_spec (1970 + cycleYears * (days / cycleDays)) (days % cycleDays) (by omega)
  rw [daysBefore_cycles 1970 _ (by decide)] at yearCounted
  unfold dateOf
  generalize findYear _ _ = found at later inYear yearCounted ⊢
  obtain ⟨year, ofYear⟩ := found
  obtain ⟨passed, length, present, begun, inMonth, monthCounted⟩ :=
    findMonth_spec (monthLengths year) 1 ofYear (by rwa [total_monthLengths])
  dsimp only at later yearCounted ⊢
  generalize findMonth _ _ _ = found at begun inMonth monthCounted ⊢
  obtain ⟨month, ofMonth⟩ := found
  dsimp only at begun inMonth monthCounted ⊢
  obtain rfl : month = passed + 1 := begun.trans (Nat.add_comm _ _)
  have twelve : passed < 12 := (List.getElem?_eq_some_iff.mp present).1
  have number := dayNumber_add_epochDays (by omega : 0 < year) twelve ofMonth
  have start : daysBefore 1970 = epochDays := rfl
  have whole := Nat.div_add_mod days cycleDays
  refine ⟨⟨⟨Nat.succ_pos _, twelve⟩, Nat.succ_pos _, ?_⟩, ?_⟩
  · simpa [monthLength, present] using Nat.succ_le_of_lt inMonth
  · omega

end Standby.Calendar
