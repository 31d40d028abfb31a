/-!
# Dates

Dates of the Gregorian calendar, extended to all years from `Date.minYear` to `Date.maxYear`.
A date is its year, month and day; whether it exists is part of the type. Dates are ordered by
`ordinal`, a number that grows with the date but counts every month as 31 days. The days
themselves are counted by `dayNumber`, from which the weekday follows.
-/

namespace Ingestion

/-- Whether a year has a 29th of February. -/
def isLeapYear (year : Int) : Bool :=
  year % 4 = 0 && (year % 100 ≠ 0 || year % 400 = 0)

/-- The number of days of a month. -/
def monthLength (year : Int) (month : Nat) : Nat :=
  if month = 2 then if isLeapYear year then 29 else 28
  else if month = 4 ∨ month = 6 ∨ month = 9 ∨ month = 11 then 30
  else 31

namespace Date

/-- The first year that has dates. -/
def minYear : Int := -262143

/-- The last year that has dates. -/
def maxYear : Int := 262142

/-- Whether a year, month and day make a date. -/
def Exists (year : Int) (month day : Nat) : Prop :=
  (minYear ≤ year ∧ year ≤ maxYear) ∧ (1 ≤ month ∧ month ≤ 12) ∧
    1 ≤ day ∧ day ≤ monthLength year month

instance (year : Int) (month day : Nat) : Decidable (Exists year month day) :=
  inferInstanceAs (Decidable (_ ∧ _))

end Date

/-- A day of the calendar. -/
structure Date where
  year : Int
  month : Nat
  day : Nat
  valid : Date.Exists year month day
deriving DecidableEq

namespace Date

/-- The date of a year, month and day, if there is one. -/
def of? (year : Int) (month day : Nat) : Option Date :=
  if h : Exists year month day then some ⟨year, month, day, h⟩ else none

/-- The first day of the year 1970. -/
def epoch : Date :=
  ⟨1970, 1, 1, by decide⟩

instance : Inhabited Date := ⟨epoch⟩

/-- The number of the month, counted from the first month of the year 0. -/
def monthNumber (d : Date) : Int :=
  d.year * 12 + (d.month - 1 : Nat)

/-- A number by which dates are ordered: it counts every month as 31 days. -/
def ordinal (d : Date) : Int :=
  d.monthNumber * 31 + (d.day - 1 : Nat)

/-- The next day, unless there are no more dates. -/
def next? (d : Date) : Option Date :=
  if d.day < monthLength d.year d.month then of? d.year d.month (d.day + 1)
  else if d.month < 12 then of? d.year (d.month + 1) 1
  else of? (d.year + 1) 1 1

/-- The day before, unless there is no date. -/
def previous? (d : Date) : Option Date :=
  if 1 < d.day then of? d.year d.month (d.day - 1)
  else if 1 < d.month then of? d.year (d.month - 1) (monthLength d.year (d.month - 1))
  else of? (d.year - 1) 12 31

/-- The number of days from the first of March of the year 0 to a date. Years are taken to begin
in March, so that a leap day is the last day of its year. -/
def dayNumber (d : Date) : Int :=
  let year := if d.month ≤ 2 then d.year - 1 else d.year
  let month := if d.month ≤ 2 then d.month + 9 else d.month - 3
  365 * year + year / 4 - year / 100 + year / 400 + ((153 * month + 2) / 5 + (d.day - 1) : Nat)

/-- The weekday, from 0 for Sunday to 6 for Saturday. -/
def weekday (d : Date) : Nat :=
  ((d.dayNumber + 3) % 7).toNat

/-- The days in a full cycle of 400 years. -/
def cycleDays : Nat := 146097

/-- The date some days later, found day by day. -/
def stepDays : Nat → Date → Option Date
  | 0, d => some d
  | n + 1, d =>
    match d.next? with
    | some d => stepDays n d
    | none => none

/-- The date some days later. The calendar repeats after 400 years. -/
def addDays? (d : Date) (days : Nat) : Option Date :=
  match of? (d.year + 400 * (days / cycleDays : Nat)) d.month d.day with
  | some d => stepDays (days % cycleDays) d
  | none => none

end Date

end Ingestion
