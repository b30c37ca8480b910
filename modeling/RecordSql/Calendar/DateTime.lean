/-!
# Dates and times of day

Dates of the Gregorian calendar, carried on before its introduction and into negative years, and
times of day with nanoseconds. A leap second is the second 59 with a thousand million nanoseconds or
more.

The bounds are part of the types: there is no value for the 30th of February or for 24 o'clock.
-/

namespace RecordSql

/-! ## Dates -/

/-- A year divisible by four, and not by a hundred unless by four hundred. -/
def isLeapYear (year : Int) : Bool :=
  year % 4 == 0 && (year % 100 != 0 || year % 400 == 0)

/-- The number of days of a month, counted from 1. -/
def daysInMonth (year : Int) : Nat → Nat
  | 2 => if isLeapYear year then 29 else 28
  | 4 | 6 | 9 | 11 => 30
  | _ => 31

/-- The first year of the calendar. -/
def firstYear : Int := -262143

/-- The last year of the calendar. -/
def lastYear : Int := 262142

/-- Year, month and day name a day of the calendar. -/
def IsDate (year : Int) (month day : Nat) : Prop :=
  firstYear ≤ year ∧ year ≤ lastYear ∧ 1 ≤ month ∧ month ≤ 12 ∧
    1 ≤ day ∧ day ≤ daysInMonth year month

instance (year : Int) (month day : Nat) : Decidable (IsDate year month day) := by
  unfold IsDate
  infer_instance

/-- A day of the calendar. -/
structure Date where
  year : Int
  month : Nat
  day : Nat
  isDate : IsDate year month day
  deriving DecidableEq

/-- The day with the given year, month and day of the month, if there is one. -/
def Date.of? (year : Int) (month day : Nat) : Option Date :=
  if h : IsDate year month day then some ⟨year, month, day, h⟩ else none

/-! ## Times of day -/

/-- The nanoseconds of one second. -/
def nanosPerSecond : Nat := 1000000000

/-- Hour, minute, second and nanosecond name a time of day. -/
def IsTime (hour minute second nano : Nat) : Prop :=
  hour < 24 ∧ minute < 60 ∧ second < 60 ∧ nano < 2 * nanosPerSecond ∧
    (nanosPerSecond ≤ nano → second = 59)

instance (hour minute second nano : Nat) : Decidable (IsTime hour minute second nano) := by
  unfold IsTime
  infer_instance

/-- A time of day. -/
structure Time where
  hour : Nat
  minute : Nat
  second : Nat
  nano : Nat
  isTime : IsTime hour minute second nano
  deriving DecidableEq

/-- The time with the given hour, minute, second and nanosecond, if there is one. -/
def Time.of? (hour minute second nano : Nat) : Option Time :=
  if h : IsTime hour minute second nano then some ⟨hour, minute, second, nano, h⟩ else none

/-- The start of the day. -/
def Time.midnight : Time := ⟨0, 0, 0, 0, by decide⟩

/-- The second as it is shown: a leap second is the sixtieth. -/
def Time.shownSecond (t : Time) : Nat :=
  if nanosPerSecond ≤ t.nano then t.second + 1 else t.second

/-- The nanoseconds since the start of the shown second. -/
def Time.shownNano (t : Time) : Nat :=
  t.nano % nanosPerSecond

/-! ## Both -/

/-- A time of a day. -/
structure DateTime where
  date : Date
  time : Time
  deriving DecidableEq

/-- The start of a day. -/
def Date.start (d : Date) : DateTime := ⟨d, .midnight⟩

end RecordSql
