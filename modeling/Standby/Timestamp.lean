import Standby.Calendar

/-!
# Timestamps

The text of a point in time, as log lines carry it: date and time of day in
Coordinated Universal Time, to the millisecond. Years have at least four digits
and all other fields a fixed width, so up to the year 9999 texts sort as the
times that they stand for.
-/

namespace Standby.Timestamp

open Calendar

/-- A time since the start of 1970, in seconds and nanoseconds of the last one. -/
structure Instant where
  seconds : Nat
  nanoseconds : Nat
deriving DecidableEq, Repr

/-- The milliseconds of the last second; what is below one is cut off. -/
def Instant.milliseconds (instant : Instant) : Nat := instant.nanoseconds / 1000000

/-- The date and the time of day of an instant. -/
structure Fields where
  date : Date
  hour : Nat
  minute : Nat
  second : Nat
  millisecond : Nat
deriving DecidableEq, Repr

/-- The seconds of a day. -/
def daySeconds : Nat := 86400

/-- Split an instant into date and time of day. -/
def Instant.fields (instant : Instant) : Fields :=
  let ofDay := instant.seconds % daySeconds
  { date := dateOf (instant.seconds / daySeconds)
    hour := ofDay / 3600
    minute := ofDay % 3600 / 60
    second := ofDay % 60
    millisecond := instant.milliseconds }

/-- The decimal digits of a number, with zeros in front up to a width. -/
def padded (width number : Nat) : List Char :=
  let digits := Nat.toDigits 10 number
  List.replicate (width - digits.length) '0' ++ digits

/-- The characters of a timestamp. -/
def Fields.write (fields : Fields) : List Char :=
  padded 4 fields.date.year ++ '-' :: padded 2 fields.date.month ++ '-' :: padded 2 fields.date.day
    ++ 'T' :: padded 2 fields.hour ++ ':' :: padded 2 fields.minute ++ ':' :: padded 2 fields.second
    ++ '.' :: padded 3 fields.millisecond ++ ['Z']

/-- The text of an instant. -/
def Instant.text (instant : Instant) : String := String.ofList instant.fields.write

example : Instant.text ⟨1709210096, 789000000⟩ = "2024-02-29T12:34:56.789Z" := by decide +kernel

end Standby.Timestamp
