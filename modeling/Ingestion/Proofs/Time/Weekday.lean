import Mathlib
import Ingestion.Proofs.Time.Instant

/-!
# Days and weekdays

Every month begins where the one before it ends (`Date.monthStart_succ`), so that days can be
counted through the whole calendar: the next day has the next number, and of two dates the later one
has the greater number. Weekdays follow the numbers of the days. What is said of the place of a
weekday in its month, or of the weekday closest to a date, becomes arithmetic of these numbers.
-/

namespace Ingestion

namespace Date

variable {d e n p : Date}

/-! ## Numbers of days -/

/-- The number of the first day of a month. -/
def monthStart (year : Int) (month : Nat) : Int :=
  let year := if month ≤ 2 then year - 1 else year
  let month := if month ≤ 2 then month + 9 else month - 3
  365 * year + year / 4 - year / 100 + year / 400 + ((153 * month + 2) / 5 : Nat)

theorem dayNumber_eq (d : Date) : d.dayNumber = monthStart d.year d.month + (d.day - 1 : Nat) := by
  unfold dayNumber monthStart
  push_cast
  omega

/-- A month begins where the one before it ends. -/
theorem monthStart_succ (year : Int) {month : Nat} (h : 1 ≤ month) (h' : month < 12) :
    monthStart year (month + 1) = monthStart year month + monthLength year month := by
  by_cases hfebruary : month = 2
  · subst hfebruary
    unfold monthStart monthLength isLeapYear
    simp only [Bool.and_eq_true, Bool.or_eq_true, decide_eq_true_eq]
    split_ifs <;> omega
  · have hlength : monthLength year month = monthLength 1 month := by
      unfold monthLength
      rw [if_neg hfebruary, if_neg hfebruary]
    rw [hlength]
    interval_cases month
    all_goals simp [monthStart, monthLength] at hfebruary ⊢
    all_goals omega

theorem monthStart_newYear (year : Int) : monthStart (year + 1) 1 = monthStart year 12 + 31 := by
  simp [monthStart]
  omega

/-- The next day has the next number. -/
theorem dayNumber_next? (h : d.next? = some n) : n.dayNumber = d.dayNumber + 1 := by
  obtain ⟨-, hmonths, hdays⟩ := d.valid
  rw [dayNumber_eq, dayNumber_eq]
  unfold next? at h
  split_ifs at h with hday hmonth
  · obtain ⟨hyear, hmonth, hn⟩ := of?_eq_some_iff.1 h
    rw [hyear, hmonth, hn]
    omega
  · obtain ⟨hyear, hnext, hn⟩ := of?_eq_some_iff.1 h
    rw [hyear, hnext, hn, monthStart_succ _ hmonths.1 hmonth]
    omega
  · obtain ⟨hyear, hnext, hn⟩ := of?_eq_some_iff.1 h
    have hlast : d.month = 12 := by omega
    have hlength : monthLength d.year 12 = 31 := rfl
    rw [hlast] at hday hdays
    rw [hyear, hnext, hn, monthStart_newYear, hlast]
    omega

/-- The day before has the number before. -/
theorem dayNumber_previous? (h : d.previous? = some p) : p.dayNumber + 1 = d.dayNumber := by
  obtain ⟨-, hmonths, hdays⟩ := d.valid
  rw [dayNumber_eq, dayNumber_eq]
  unfold previous? at h
  split_ifs at h with hday hmonth
  · obtain ⟨hyear, hmonth, hp⟩ := of?_eq_some_iff.1 h
    rw [hyear, hmonth, hp]
    omega
  · obtain ⟨hyear, hbefore, hp⟩ := of?_eq_some_iff.1 h
    have hlong := le_monthLength d.year (d.month - 1)
    have hstart : monthStart d.year (d.month - 1 + 1) = _ :=
      monthStart_succ d.year (by omega) (by omega)
    rw [Nat.sub_add_cancel hmonths.1] at hstart
    rw [hyear, hbefore, hp, hstart]
    omega
  · obtain ⟨hyear, hbefore, hp⟩ := of?_eq_some_iff.1 h
    have hfirst : d.month = 1 := by omega
    have hstart := monthStart_newYear (d.year - 1)
    rw [Int.sub_add_cancel] at hstart
    rw [hyear, hbefore, hp, hfirst, hstart]
    omega

/-- Of two dates the later one has the greater number. -/
theorem dayNumber_lt_of_ordinal_lt (h : d.ordinal < e.ordinal) : d.dayNumber < e.dayNumber := by
  obtain ⟨k, hk⟩ : ∃ k : Nat, e.ordinal = d.ordinal + 1 + k :=
    ⟨(e.ordinal - (d.ordinal + 1)).toNat, by omega⟩
  induction k using Nat.strong_induction_on generalizing d with
  | _ k ih =>
    -- The next day is still not after the later date.
    obtain ⟨n, hn⟩ := exists_next?_of_lt h
    have hlt := lt_next? hn
    have hnumber := dayNumber_next? hn
    rcases Int.lt_or_eq_of_le (next?_le hn h) with hbefore | hsame
    · have hrest := ih (e.ordinal - (n.ordinal + 1)).toNat (by omega) hbefore (by omega)
      omega
    · rw [← eq_of_ordinal_eq hsame]
      omega

theorem ordinal_lt_iff : d.ordinal < e.ordinal ↔ d.dayNumber < e.dayNumber := by
  refine ⟨dayNumber_lt_of_ordinal_lt, fun h => ?_⟩
  by_contra hle
  rcases Int.lt_or_eq_of_le (Int.not_lt.1 hle) with hlt | heq
  · have hlater := dayNumber_lt_of_ordinal_lt hlt
    omega
  · rw [eq_of_ordinal_eq heq] at h
    omega

theorem eq_of_dayNumber_eq (h : d.dayNumber = e.dayNumber) : d = e := by
  refine eq_of_ordinal_eq ?_
  have hlt := ordinal_lt_iff (d := d) (e := e)
  have hgt := ordinal_lt_iff (d := e) (e := d)
  omega

/-! ## Neighbours -/

theorem next?_eq_some_iff : d.next? = some n ↔ n.dayNumber = d.dayNumber + 1 := by
  refine ⟨dayNumber_next?, fun h => ?_⟩
  obtain ⟨n', hn'⟩ := exists_next?_of_lt (ordinal_lt_iff.2 (by omega : d.dayNumber < n.dayNumber))
  rw [hn', eq_of_dayNumber_eq ((dayNumber_next? hn').trans h.symm)]

/-- Before a date there is a day if there is any earlier date. -/
theorem exists_previous?_of_lt (h : e.ordinal < d.ordinal) : ∃ p, d.previous? = some p := by
  obtain ⟨hyears, hmonths, hdays⟩ := d.valid
  obtain ⟨heyears, hemonths, hedays⟩ := e.valid
  unfold ordinal monthNumber at h
  unfold previous?
  split_ifs
  · exact exists_of?_eq_some ⟨hyears, hmonths, by omega, by omega⟩
  · have hlong := le_monthLength d.year (d.month - 1)
    exact exists_of?_eq_some ⟨hyears, by omega, by omega, by omega⟩
  · exact exists_of?_eq_some ⟨by omega, by omega, by omega, Nat.le_refl _⟩

theorem previous?_eq_some_iff : d.previous? = some p ↔ p.dayNumber + 1 = d.dayNumber := by
  refine ⟨dayNumber_previous?, fun h => ?_⟩
  obtain ⟨p', hp'⟩ :=
    exists_previous?_of_lt (ordinal_lt_iff.2 (by omega : p.dayNumber < d.dayNumber))
  have hnumber := dayNumber_previous? hp'
  have hsame : p' = p := eq_of_dayNumber_eq (by omega)
  rw [hp', hsame]

/-! ## Weekdays -/

theorem weekday_eq (d : Date) : (d.weekday : Int) = (d.dayNumber + 3) % 7 := by
  unfold weekday
  omega

theorem weekday_lt (d : Date) : d.weekday < 7 := by
  have hd := d.weekday_eq
  omega

theorem weekday_eq_iff : d.weekday = e.weekday ↔ (7 : Int) ∣ d.dayNumber - e.dayNumber := by
  have hd := d.weekday_eq
  have he := e.weekday_eq
  omega

/-- The first date there is. -/
def first : Date :=
  ⟨minYear, 1, 1, by decide⟩

/-- The last date there is. -/
def final : Date :=
  ⟨maxYear, 12, 31, by decide⟩

theorem first_ordinal_le (d : Date) : first.ordinal ≤ d.ordinal := by
  have hfirst : first.ordinal = minYear * 12 * 31 := by decide
  obtain ⟨hyears, hmonths, hdays⟩ := d.valid
  rw [hfirst]
  unfold ordinal monthNumber
  omega

theorem ordinal_le_final (d : Date) : d.ordinal ≤ final.ordinal := by
  have hfinal : final.ordinal = (maxYear * 12 + 11) * 31 + 30 := by decide
  obtain ⟨hyears, hmonths, hdays⟩ := d.valid
  have hlong := monthLength_le d.year d.month
  rw [hfinal]
  unfold ordinal monthNumber
  omega

/-- The calendar does not begin with a Saturday. -/
theorem exists_before_saturday (h : d.weekday = 6) : ∃ p : Date, p.dayNumber + 1 = d.dayNumber := by
  have hlt : first.ordinal < d.ordinal := by
    refine lt_of_le_of_ne (first_ordinal_le d) fun heq => ?_
    rw [← eq_of_ordinal_eq heq] at h
    exact absurd h (by decide)
  obtain ⟨p, hp⟩ := exists_previous?_of_lt hlt
  exact ⟨p, dayNumber_previous? hp⟩

/-- The calendar does not end with a Sunday. -/
theorem exists_after_sunday (h : d.weekday = 0) : ∃ n : Date, n.dayNumber = d.dayNumber + 1 := by
  have hlt : d.ordinal < final.ordinal := by
    refine lt_of_le_of_ne (ordinal_le_final d) fun heq => ?_
    rw [eq_of_ordinal_eq heq] at h
    exact absurd h (by decide)
  obtain ⟨n, hn⟩ := exists_next?_of_lt hlt
  exact ⟨n, dayNumber_next? hn⟩

/-- A date is a day from Monday to Friday. -/
def IsWorkday (d : Date) : Prop :=
  1 ≤ d.weekday ∧ d.weekday ≤ 5

/-- The number of days from one of two dates to the other. -/
def daysBetween (d e : Date) : Nat :=
  (d.dayNumber - e.dayNumber).toNat + (e.dayNumber - d.dayNumber).toNat

/-- A date is the workday closest to the date `c`. -/
structure IsClosestWorkday (d c : Date) : Prop where
  workday : d.IsWorkday
  closest : ∀ e : Date, e.IsWorkday → d.daysBetween c ≤ e.daysBetween c

/-- The closest workday is the date itself, the Monday after a Sunday or the Friday before a
Saturday. -/
theorem isClosestWorkday_iff {c : Date} : d.IsClosestWorkday c ↔ d.IsWorkday ∧
    (d = c ∨ c.weekday = 0 ∧ d.dayNumber = c.dayNumber + 1 ∨
      c.weekday = 6 ∧ d.dayNumber + 1 = c.dayNumber) := by
  have hc := c.weekday_eq
  constructor
  · rintro ⟨⟨hd₁, hd₅⟩, hclosest⟩
    have hd := d.weekday_eq
    unfold daysBetween at hclosest
    refine ⟨⟨hd₁, hd₅⟩, ?_⟩
    by_cases hsunday : c.weekday = 0
    · obtain ⟨n, hn⟩ := exists_after_sunday hsunday
      have hnday := n.weekday_eq
      have hle := hclosest n ⟨by omega, by omega⟩
      exact .inr (.inl ⟨hsunday, by omega⟩)
    by_cases hsaturday : c.weekday = 6
    · obtain ⟨p, hp⟩ := exists_before_saturday hsaturday
      have hpday := p.weekday_eq
      have hle := hclosest p ⟨by omega, by omega⟩
      exact .inr (.inr ⟨hsaturday, by omega⟩)
    · have hle := hclosest c ⟨by omega, by omega⟩
      exact .inl (eq_of_dayNumber_eq (by omega))
  · rintro ⟨hworkday, hcases⟩
    refine ⟨hworkday, ?_⟩
    rintro e ⟨he₁, he₅⟩
    have he := e.weekday_eq
    unfold daysBetween
    -- Unless it is the date itself it is one day away, and only the date itself would be closer.
    rcases hcases with rfl | ⟨hsunday, hafter⟩ | ⟨hsaturday, hbefore⟩ <;> omega

/-! ## Places in a month -/

/-- How many days of its month up to a date fall on its weekday. -/
def nthOfWeekday (d : Date) : Nat :=
  Nat.count (fun j => (of? d.year d.month (j + 1)).any fun e => e.weekday == d.weekday) d.day

/-- A date is the last of its month. -/
def IsLastOfMonth (d : Date) : Prop :=
  ∀ e : Date, e.year = d.year → e.month = d.month → e.day ≤ d.day

/-- A date is the last of its month that falls on its weekday. -/
def IsLastOfWeekday (d : Date) : Prop :=
  ∀ e : Date, e.year = d.year → e.month = d.month → e.weekday = d.weekday → e.day ≤ d.day

theorem dayNumber_of_sameMonth (hyear : e.year = d.year) (hmonth : e.month = d.month) :
    e.dayNumber - d.dayNumber = (e.day : Int) - d.day := by
  have hd := d.valid.2.2.1
  have he := e.valid.2.2.1
  rw [dayNumber_eq, dayNumber_eq, hyear, hmonth]
  omega

/-- The days of the month of a date. -/
theorem exists_sameMonth (d : Date) {day : Nat} (h : 1 ≤ day)
    (hle : day ≤ monthLength d.year d.month) :
    ∃ e : Date, of? d.year d.month day = some e ∧ e.year = d.year ∧ e.month = d.month ∧
      e.day = day := by
  obtain ⟨e, he⟩ := exists_of?_eq_some ⟨d.valid.1, d.valid.2.1, h, hle⟩
  exact ⟨e, he, of?_eq_some_iff.1 he⟩

theorem nthOfWeekday_eq (d : Date) : d.nthOfWeekday = (d.day - 1) / 7 + 1 := by
  have hdays := d.valid.2.2
  have hcount : d.nthOfWeekday = Nat.count (fun j => j ≡ d.day - 1 [MOD 7]) d.day := by
    unfold nthOfWeekday
    rw [Nat.count_eq_card_filter_range, Nat.count_eq_card_filter_range]
    congr 1
    refine Finset.filter_congr fun j hj => ?_
    rw [Finset.mem_range] at hj
    obtain ⟨e, he, hyear, hmonth, hday⟩ := d.exists_sameMonth (Nat.le_add_left 1 j) (by omega)
    have hdiff := dayNumber_of_sameMonth hyear hmonth
    rw [he, Option.any_some, beq_iff_eq, weekday_eq_iff, hdiff, hday]
    unfold Nat.ModEq
    omega
  rw [hcount, Nat.count_modEq_card _ (by decide)]
  split_ifs <;> omega

theorem isLastOfMonth_iff : d.IsLastOfMonth ↔ d.day = monthLength d.year d.month := by
  have hdays := d.valid.2.2
  constructor
  · intro h
    obtain ⟨e, -, hyear, hmonth, hday⟩ := d.exists_sameMonth (le_trans hdays.1 hdays.2) le_rfl
    have hle := h e hyear hmonth
    omega
  · intro h e hyear hmonth
    have hlast := e.valid.2.2.2
    rw [hyear, hmonth] at hlast
    omega

theorem isLastOfWeekday_iff : d.IsLastOfWeekday ↔ monthLength d.year d.month < d.day + 7 := by
  constructor
  · intro h
    by_contra hlong
    obtain ⟨e, -, hyear, hmonth, hday⟩ :=
      d.exists_sameMonth (Nat.le_add_left 1 (d.day + 6)) (by omega)
    have hdiff := dayNumber_of_sameMonth hyear hmonth
    have hle := h e hyear hmonth (weekday_eq_iff.2 (by omega))
    omega
  · intro h e hyear hmonth hweekday
    have hlast := e.valid.2.2.2
    have hdiff := dayNumber_of_sameMonth hyear hmonth
    have hweeks := weekday_eq_iff.1 hweekday
    rw [hyear, hmonth] at hlast
    omega

end Date

end Ingestion
