import Mathlib
import Ingestion.Time.Instant

/-!
# The cycle of the calendar

The calendar repeats after 400 years: the lengths of the months and the weekdays are the same
again. Two dates are at the same place of the cycle if they have the same month and day and their
years differ by a multiple of 400. What follows from a date by its place alone can so be moved to
any 400 years (`exists_samePlace`).

The second part orders dates: the day after a date is the first one that is later. Neither two dates
nor two instants come at the same place of the order.
-/

namespace Ingestion

theorem isLeapYear_add_cycles (year k : Int) : isLeapYear (year + 400 * k) = isLeapYear year := by
  have h4 : (year + 400 * k) % 4 = year % 4 := by omega
  have h100 : (year + 400 * k) % 100 = year % 100 := by omega
  have h400 : (year + 400 * k) % 400 = year % 400 := by omega
  simp only [isLeapYear, h4, h100, h400]

theorem monthLength_add_cycles (year k : Int) (month : Nat) :
    monthLength (year + 400 * k) month = monthLength year month := by
  simp only [monthLength, isLeapYear_add_cycles]

theorem monthLength_le (year : Int) (month : Nat) : monthLength year month ≤ 31 := by
  unfold monthLength
  split_ifs <;> omega

theorem le_monthLength (year : Int) (month : Nat) : 28 ≤ monthLength year month := by
  unfold monthLength
  split_ifs <;> omega

namespace Date

theorem of?_eq_some_iff {year : Int} {month day : Nat} {d : Date} :
    of? year month day = some d ↔ d.year = year ∧ d.month = month ∧ d.day = day := by
  unfold of?
  constructor
  · intro h
    split at h
    · cases h
      exact ⟨rfl, rfl, rfl⟩
    · cases h
  · rintro ⟨rfl, rfl, rfl⟩
    rw [dif_pos d.valid]

theorem exists_of?_eq_some {year : Int} {month day : Nat} (h : Exists year month day) :
    ∃ d, of? year month day = some d :=
  ⟨⟨year, month, day, h⟩, dif_pos h⟩

/-! ## Places of the cycle -/

/-- Two dates have the same month and day, and their years differ by a multiple of 400. -/
structure SamePlace (d e : Date) : Prop where
  month_eq : e.month = d.month
  day_eq : e.day = d.day
  cycles : ∃ k : Int, e.year = d.year + 400 * k

namespace SamePlace

variable {d e : Date}

theorem monthLength_eq (h : SamePlace d e) :
    monthLength e.year e.month = monthLength d.year d.month := by
  obtain ⟨k, hk⟩ := h.cycles
  rw [hk, h.month_eq, monthLength_add_cycles]

/-- The 146097 days of a cycle are whole weeks. -/
theorem weekday_eq (h : SamePlace d e) : e.weekday = d.weekday := by
  obtain ⟨k, hk⟩ := h.cycles
  have hday : e.dayNumber = d.dayNumber + 146097 * k := by
    simp only [dayNumber, h.month_eq, h.day_eq, hk]
    split_ifs <;> omega
  unfold weekday
  rw [hday]
  congr 1
  omega

/-- A date moved by whole cycles is at the same place, unless it leaves the calendar. -/
theorem of?_moved {year year' k : Int} {month day : Nat} (hn : of? year month day = some d)
    (hk : year' = year + 400 * k) (hmin : minYear ≤ year') (hmax : year' ≤ maxYear) :
    ∃ d', of? year' month day = some d' ∧ SamePlace d d' := by
  obtain ⟨rfl, rfl, rfl⟩ := of?_eq_some_iff.1 hn
  have hex : Exists year' d.month d.day := by
    refine ⟨⟨hmin, hmax⟩, d.valid.2.1, ?_⟩
    rw [hk, monthLength_add_cycles]
    exact d.valid.2.2
  obtain ⟨d', hd'⟩ := exists_of?_eq_some hex
  obtain ⟨hyear, hmonth, hday⟩ := of?_eq_some_iff.1 hd'
  exact ⟨d', hd', hmonth, hday, k, hyear.trans hk⟩

theorem next? (h : SamePlace d e) (hyear : e.year < maxYear) {n : Date} (hn : d.next? = some n) :
    ∃ n', e.next? = some n' ∧ SamePlace n n' := by
  obtain ⟨hmin, hmax⟩ := e.valid.1
  obtain ⟨k, hk⟩ := h.cycles
  unfold Date.next? at hn ⊢
  rw [h.monthLength_eq, h.day_eq, h.month_eq]
  split_ifs at hn ⊢
  · exact of?_moved hn hk hmin hmax
  · exact of?_moved hn hk hmin hmax
  · exact of?_moved hn (k := k) (by omega) (by omega) (by omega)

theorem previous? (h : SamePlace d e) (hyear : minYear < e.year) {p : Date}
    (hp : d.previous? = some p) : ∃ p', e.previous? = some p' ∧ SamePlace p p' := by
  obtain ⟨hmin, hmax⟩ := e.valid.1
  obtain ⟨k, hk⟩ := h.cycles
  -- The day before the first of a month is the last of the month before.
  have hlast : monthLength e.year (d.month - 1) = monthLength d.year (d.month - 1) := by
    rw [hk, monthLength_add_cycles]
  unfold Date.previous? at hp ⊢
  rw [h.day_eq, h.month_eq, hlast]
  split_ifs at hp ⊢
  · exact of?_moved hp hk hmin hmax
  · exact of?_moved hp hk hmin hmax
  · exact of?_moved hp (k := k) (by omega) (by omega) (by omega)

end SamePlace

/-- Every 400 years hold a date at the place of a given one. -/
theorem exists_samePlace (d : Date) (first : Int) (hmin : minYear ≤ first)
    (hmax : first + 400 ≤ maxYear) :
    ∃ e, SamePlace d e ∧ first ≤ e.year ∧ e.year < first + 400 := by
  let k : Int := (first - d.year + 399) / 400
  have hyear : first ≤ d.year + 400 * k ∧ d.year + 400 * k < first + 400 := by omega
  have hd : of? d.year d.month d.day = some d := of?_eq_some_iff.2 ⟨rfl, rfl, rfl⟩
  obtain ⟨e, he, hplace⟩ := SamePlace.of?_moved hd (k := k) rfl (by omega) (by omega)
  rw [← (of?_eq_some_iff.1 he).1] at hyear
  exact ⟨e, hplace, hyear⟩

/-! ## The order of dates -/

theorem monthNumber_ediv (d : Date) : d.monthNumber / 12 = d.year := by
  have := d.valid.2.1
  unfold monthNumber
  omega

theorem monthNumber_emod (d : Date) : (d.monthNumber % 12).toNat + 1 = d.month := by
  have := d.valid.2.1
  unfold monthNumber
  omega

theorem monthNumber_le_of_ordinal_le {d e : Date} (h : d.ordinal ≤ e.ordinal) :
    d.monthNumber ≤ e.monthNumber := by
  have := d.valid.2.2
  have := e.valid.2.2
  have := monthLength_le e.year e.month
  unfold ordinal at h
  omega

theorem day_le_of_ordinal_le {d e : Date} (h : d.ordinal ≤ e.ordinal)
    (hmonth : d.monthNumber = e.monthNumber) : d.day ≤ e.day := by
  have := d.valid.2.2
  have := e.valid.2.2
  unfold ordinal at h
  omega

theorem ordinal_lt_of_year_lt {d e : Date} (h : d.year < e.year) : d.ordinal < e.ordinal := by
  have := d.valid.2
  have := e.valid.2
  have := monthLength_le d.year d.month
  unfold ordinal monthNumber
  omega

theorem exists_next? (d : Date) (h : d.year < maxYear) : ∃ n, d.next? = some n := by
  obtain ⟨hy, hm, hd⟩ := d.valid
  have hlen := le_monthLength
  unfold next?
  split_ifs
  · exact exists_of?_eq_some ⟨hy, hm, by omega, by omega⟩
  · have := hlen d.year (d.month + 1)
    exact exists_of?_eq_some ⟨hy, by omega, by omega, by omega⟩
  · have := hlen (d.year + 1) 1
    exact exists_of?_eq_some ⟨by omega, by omega, by omega, by omega⟩

/-- No date lies between a date and the next. -/
theorem next?_le {d n e : Date} (hn : d.next? = some n) (h : d.ordinal < e.ordinal) :
    n.ordinal ≤ e.ordinal := by
  obtain ⟨hy, hm, hd⟩ := d.valid
  obtain ⟨hey, hem, hed⟩ := e.valid
  have hlen := monthLength_le e.year e.month
  -- In the month of the date itself only the days up to its length are left.
  have hsame : d.year = e.year → d.month = e.month →
      monthLength e.year e.month = monthLength d.year d.month := by
    intro hy hm
    rw [hy, hm]
  unfold next? at hn
  unfold ordinal monthNumber at h ⊢
  split_ifs at hn <;>
    obtain ⟨h1, h2, h3⟩ := of?_eq_some_iff.1 hn <;>
    rw [h1, h2, h3] <;> omega

/-- No two dates have the same place in the order. -/
theorem eq_of_ordinal_eq {d e : Date} (h : d.ordinal = e.ordinal) : d = e := by
  have hmonths : d.monthNumber = e.monthNumber :=
    Int.le_antisymm (monthNumber_le_of_ordinal_le h.le) (monthNumber_le_of_ordinal_le h.ge)
  have hyear : d.year = e.year := by
    rw [← monthNumber_ediv d, ← monthNumber_ediv e, hmonths]
  have hmonth : d.month = e.month := by
    rw [← monthNumber_emod d, ← monthNumber_emod e, hmonths]
  have hday : d.day = e.day :=
    Nat.le_antisymm (day_le_of_ordinal_le h.le hmonths) (day_le_of_ordinal_le h.ge hmonths.symm)
  cases d
  cases e
  cases hyear
  cases hmonth
  cases hday
  rfl

end Date

/-- No two instants have the same place in the order. -/
theorem Instant.eq_of_rank_eq {s t : Instant} (h : s.rank = t.rank) : s = t := by
  have hs := s.second_lt
  have ht := t.second_lt
  have hs' := s.nanos_lt
  have ht' := t.nanos_lt
  have hranks : (s.date.ordinal * 86400 + s.second) * 2000000000 + s.nanos =
      (t.date.ordinal * 86400 + t.second) * 2000000000 + t.nanos := h
  have hdate : s.date = t.date := Date.eq_of_ordinal_eq (by omega)
  have hsecond : s.second = t.second := by
    rw [hdate] at hranks
    omega
  have hnanos : s.nanos = t.nanos := by
    rw [hdate, hsecond] at hranks
    omega
  cases s
  cases t
  cases hdate
  cases hsecond
  cases hnanos
  rfl

theorem Instant.eq_iff_rank {s t : Instant} : s = t ↔ s.rank = t.rank :=
  ⟨congrArg Instant.rank, eq_of_rank_eq⟩

end Ingestion
