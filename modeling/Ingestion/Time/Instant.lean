import Ingestion.Time.Date

/-!
# Instants

An instant is a date, a second of that day and a fraction of that second in nanoseconds, all in
universal time. The last second of a minute may be followed by a leap second, which is kept as a
fraction of one second or more.

Instants are ordered by `rank`, and so by date, second and fraction.
-/

namespace Ingestion

/-- A point in universal time. -/
structure Instant where
  date : Date
  /-- The second of the day. -/
  second : Nat
  /-- The fraction of the second, in nanoseconds. It runs on into a leap second. -/
  nanos : Nat
  second_lt : second < 86400
  nanos_lt : nanos < 2000000000
  /-- Only the last second of a minute is followed by a leap second. -/
  leap : 1000000000 ≤ nanos → second % 60 = 59
deriving DecidableEq

namespace Instant

/-- A whole second of a day. -/
def ofSecond (date : Date) (second : Nat) (h : second < 86400) : Instant :=
  ⟨date, second, 0, h, by decide, fun h => absurd h (by decide)⟩

/-- The beginning of a day. -/
def midnight (date : Date) : Instant :=
  ofSecond date 0 (by decide)

instance : Inhabited Instant := ⟨midnight .epoch⟩

/-- The number by which instants are ordered. -/
def rank (t : Instant) : Int :=
  (t.date.ordinal * 86400 + t.second) * 2000000000 + t.nanos

instance : LT Instant := ⟨fun a b => a.rank < b.rank⟩

instance : LE Instant := ⟨fun a b => a.rank ≤ b.rank⟩

instance : DecidableLT Instant := fun a b => inferInstanceAs (Decidable (a.rank < b.rank))

instance : DecidableLE Instant := fun a b => inferInstanceAs (Decidable (a.rank ≤ b.rank))

/-- The whole second that the instant lies in. -/
def wholeSecond (t : Instant) : Instant :=
  ofSecond t.date t.second t.second_lt

/-- The instant some seconds later, if there still are dates then. A fraction is kept; a leap
second counts as the end of the second before it. -/
def addSeconds? (t : Instant) (seconds : Nat) : Option Instant :=
  let total := t.second + seconds
  match t.date.addDays? (total / 86400) with
  | some date =>
    let second := total % 86400
    let nanos := t.nanos % 1000000000
    some ⟨date, second, nanos, Nat.mod_lt _ (by decide),
      Nat.lt_of_lt_of_le (Nat.mod_lt _ (by decide)) (by decide),
      fun h => absurd (Nat.mod_lt t.nanos (by decide : 0 < 1000000000)) (Nat.not_lt.2 h)⟩
  | none => none

/-- The day from whose beginning columns of timestamps count. -/
def columnEpoch : Date :=
  ⟨2000, 1, 1, by decide⟩

/-- The instant as a column of timestamps keeps it: in whole microseconds from the beginning of
the year 2000, with the rest of its fraction cut off toward that point. A leap second is taken as
the second after it. -/
def toMicros? (t : Instant) : Option Instant :=
  let second := t.second + t.nanos / 1000000000
  let nanos := t.nanos % 1000000000
  let isBefore : Bool := (t.date.dayNumber - columnEpoch.dayNumber) * 86400 + second < 0
  let cut := if isBefore then (nanos + 999) / 1000 * 1000 else nanos / 1000 * 1000
  let total := second + cut / 1000000000
  match t.date.addDays? (total / 86400) with
  | some date =>
    some ⟨date, total % 86400, cut % 1000000000, Nat.mod_lt _ (by decide),
      Nat.lt_of_lt_of_le (Nat.mod_lt _ (by decide)) (by decide),
      fun h => absurd (Nat.mod_lt cut (by decide : 0 < 1000000000)) (Nat.not_lt.2 h)⟩
  | none => none

end Instant

end Ingestion
