import Ingestion.Cron.Field
import Ingestion.Time.Instant

/-!
# Schedules

A schedule is a cron expression that has been read: its five fields, and whether the fields of
days and weekdays are `*`. `Schedule.Matches` says which instants it is due at: whole minutes
whose minute, hour and month the fields name and whose date they match.

A date has to match both the field of days and the field of weekdays if one of them is `*`, and
one of the two otherwise.
-/

namespace Ingestion.Cron

/-- A cron expression that has been read. -/
structure Schedule where
  /-- The text of the fields, with names replaced by numbers. -/
  pattern : String
  minutes : Field
  hours : Field
  days : Field
  months : Field
  weekdays : Field
  /-- Whether the field of days is `*`. -/
  anyDay : Bool
  /-- Whether the field of weekdays is `*`. -/
  anyWeekday : Bool
deriving DecidableEq, Repr, Inhabited

namespace Schedule

/-- Whether the field of weekdays gives a mark to a weekday, from 0 for Sunday to 6. Sunday may
also be written 7, except for its last occurrence. -/
def hasWeekday (s : Schedule) (weekday : Nat) (mark : Mark) : Bool :=
  s.weekdays.has weekday mark || (weekday == 0 && mark != .last && s.weekdays.has 7 mark)

/-- Whether a date is a weekday, from Monday to Friday. -/
def isWorkday (d : Date) : Bool :=
  1 ≤ d.weekday && d.weekday ≤ 5

/-- Whether a date is the weekday closest to a day that the field of days asks for. -/
def matchesClosest (s : Schedule) (d : Date) : Bool :=
  isWorkday d &&
    (s.days.has d.day .closest
      || d.previous?.any (fun p => p.weekday == 0 && s.days.has p.day .closest)
      || d.next?.any (fun n => n.weekday == 6 && s.days.has n.day .closest))

/-- Whether a date matches the field of days. -/
def matchesDay (s : Schedule) (d : Date) : Bool :=
  s.days.has d.day .all
    || (s.days.lastDay && d.day == monthLength d.year d.month)
    || s.matchesClosest d

/-- Whether a date matches the field of weekdays. -/
def matchesWeekday (s : Schedule) (d : Date) : Bool :=
  s.hasWeekday d.weekday .all
    || s.hasWeekday d.weekday (.nth ((d.day - 1) / 7 + 1))
    || (s.hasWeekday d.weekday .last && monthLength d.year d.month < d.day + 7)

/-- Whether a date matches the fields of days and of weekdays together. -/
def matchesDate (s : Schedule) (d : Date) : Bool :=
  (s.matchesDay d && s.anyWeekday)
    || (s.matchesWeekday d && s.anyDay)
    || (!s.anyDay && !s.anyWeekday && (s.matchesDay d || s.matchesWeekday d))

/-- Whether a minute of the day matches the fields of minutes and hours. -/
def matchesTime (s : Schedule) (minute : Nat) : Bool :=
  s.hours.has (minute / 60) .all && s.minutes.has (minute % 60) .all

/-- The schedule is due at an instant: it is a whole minute that all fields match. -/
structure Matches (s : Schedule) (t : Instant) : Prop where
  nanos_eq : t.nanos = 0
  second_eq : t.second % 60 = 0
  time : s.matchesTime (t.second / 60) = true
  month : s.months.has t.date.month .all = true
  date : s.matchesDate t.date = true

/-! ## Searching -/

/-- The year from which on a search does not carry from one unit of time to the next larger. -/
def limitYear : Int := 5000

/-- The first matching minute of a day, from a minute on. -/
def firstTime? (s : Schedule) (minute : Nat) : Option Nat :=
  (List.range' minute (1440 - minute)).find? s.matchesTime

/-- The first matching date of a month, from a day on. -/
def firstDay? (s : Schedule) (year : Int) (month day : Nat) : Option Date :=
  (List.range' day (monthLength year month + 1 - day)).findSome? fun day =>
    (Date.of? year month day).filter s.matchesDate

/-- The first matching date in the given number of months, the first of which has the number
`month` and is searched from `day` on. -/
def firstDate? (s : Schedule) : Nat → Int → Nat → Option Date
  | 0, _, _ => none
  | months + 1, month, day =>
    let name := (month % 12).toNat + 1
    match (if s.months.has name .all then s.firstDay? (month / 12) name day else none) with
    | some d => some d
    | none => firstDate? s months (month + 1) 1

/-- The first matching date from a date on, up to the first day of the year `limitYear`. -/
def firstDateFrom? (s : Schedule) (d : Date) : Option Date :=
  let months := (limitYear * 12 + 1 - d.monthNumber).toNat
  (s.firstDate? months d.monthNumber d.day).filter fun found =>
    found.year < limitYear || (found.month == 1 && found.day == 1)

/-- A minute of a day. -/
def minuteOf? (d : Date) (minute : Nat) : Option Instant :=
  if h : minute * 60 < 86400 then some (Instant.ofSecond d (minute * 60) h) else none

/-- The first matching hour of a day, from an hour on. -/
def firstHour? (s : Schedule) (hour : Nat) : Option Nat :=
  (List.range' hour (24 - hour)).find? (s.hours.has · .all)

/-- The first matching minute of an hour, from a minute on. -/
def firstMinute? (s : Schedule) (minute : Nat) : Option Nat :=
  (List.range' minute (60 - minute)).find? (s.minutes.has · .all)

/-- The minute that a search from an instant on comes to without a carry: hour, minute and second
are moved forward in this order to the first matching one, and if there is none the search ends
instead of moving the larger unit on. -/
def nextWithoutCarry? (s : Schedule) (start : Instant) : Option Instant := do
  guard (s.months.has start.date.month .all && s.matchesDate start.date)
  let hour := start.second / 3600
  let found ← s.firstHour? hour
  if hour < found then minuteOf? start.date (found * 60 + (← s.firstMinute? 0))
  else
    let minute := start.second / 60 % 60
    let found ← s.firstMinute? minute
    guard (minute < found ∨ start.second % 60 = 0)
    minuteOf? start.date (hour * 60 + found)

/-- The first minute after an instant at which the schedule is due. The search ends where it would
have to carry in the year `limitYear` or later. -/
def next? (s : Schedule) (after : Instant) : Option Instant :=
  if limitYear ≤ after.date.year then
    (after.wholeSecond.addSeconds? 1).bind s.nextWithoutCarry?
  else
    let today :=
      if s.months.has after.date.month .all && s.matchesDate after.date then
        (s.firstTime? (after.second / 60 + 1)).bind (minuteOf? after.date)
      else none
    match today with
    | some t => some t
    | none => do
      let minute ← s.firstTime? 0
      let tomorrow ← after.date.next?
      let date ← s.firstDateFrom? tomorrow
      minuteOf? date minute

end Schedule

end Ingestion.Cron
