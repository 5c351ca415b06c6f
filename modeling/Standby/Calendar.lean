/-!
# The proleptic Gregorian calendar

Days are counted from 1 January 1970. A date is found by first taking away whole
cycles of 400 years, after which the calendar repeats, and then whole years and
whole months, one at a time.

Going back, the number of a day has a closed form. It counts from 1 March, so
that the leap day is the last of its year and months follow a single rule. The
two directions share nothing but the leap rule's numbers.
-/

namespace Standby.Calendar

/-- A day of the calendar. Months and days of the month count from one. -/
structure Date where
  year : Nat
  month : Nat
  day : Nat
deriving DecidableEq, Repr

/-- Every fourth year is a leap year, except centuries that 400 does not divide. -/
def isLeap (year : Nat) : Bool :=
  (year % 4 == 0 && year % 100 != 0) || year % 400 == 0

/-- The days of a year. -/
def yearLength (year : Nat) : Nat := if isLeap year then 366 else 365

/-- The days of the months of a year, in order. -/
def monthLengths (year : Nat) : List Nat :=
  [31, if isLeap year then 29 else 28, 31, 30, 31, 30, 31, 31, 30, 31, 30, 31]

/-- The days after which the calendar repeats, and the years that hold them. -/
def cycleDays : Nat := 146097

/-- The years of a cycle. -/
def cycleYears : Nat := 400

/-- Every year has days. -/
theorem yearLength_pos (year : Nat) : 0 < yearLength year := by
  unfold yearLength
  split <;> decide

/-- The year that holds a day, counted from the first day of a given year, and
the day's place in it. -/
def findYear (year days : Nat) : Nat × Nat :=
  if days < yearLength year then (year, days)
  else findYear (year + 1) (days - yearLength year)
termination_by days
decreasing_by
  have := yearLength_pos year
  omega

/-- The month that holds a day of the year, and the day's place in it, given the
lengths of the months from the current one on. Days past the last month stay
over. -/
def findMonth : List Nat → Nat → Nat → Nat × Nat
  | [], month, days => (month, days)
  | length :: lengths, month, days =>
    if days < length then (month, days) else findMonth lengths (month + 1) (days - length)

/-- The date of a day, counted from 1 January 1970. -/
def dateOf (days : Nat) : Date :=
  let (year, ofYear) := findYear (1970 + cycleYears * (days / cycleDays)) (days % cycleDays)
  let (month, ofMonth) := findMonth (monthLengths year) 1 ofYear
  ⟨year, month, ofMonth + 1⟩

/-- The number of a day, in closed form. The year is taken to begin in March;
`153 * m + 2` over five counts the days of its first `m` months. Days from 1
March of year zero to 1 January 1970 are 719468. -/
def dayNumber (date : Date) : Nat :=
  let year := if date.month ≤ 2 then date.year - 1 else date.year
  let month := (date.month + 9) % 12
  let ofYear := (153 * month + 2) / 5 + (date.day - 1)
  365 * year + year / 4 - year / 100 + year / 400 + ofYear - 719468

example : dateOf 0 = ⟨1970, 1, 1⟩ := by decide +kernel
example : dateOf 19782 = ⟨2024, 2, 29⟩ ∧ dayNumber ⟨2024, 2, 29⟩ = 19782 := by decide +kernel

end Standby.Calendar
