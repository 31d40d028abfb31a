import Mathlib
import Ingestion.Cron.Schedule
import Ingestion.Proofs.Time.Calendar

/-!
# What the search finds

The search for the next minute of a schedule gives minutes at which the schedule is due, and gives
one whenever the schedule is due at all: a date at which it is due comes again at the same place of
the next cycle of 400 years, and the search reaches that far as long as it starts before the year
4000.
-/

namespace Ingestion.Cron.Schedule

variable {s : Schedule}

/-! ## Dates at the same place -/

theorem isWorkday_of_samePlace {d e : Date} (h : Date.SamePlace d e) :
    isWorkday e = isWorkday d := by
  simp only [isWorkday, h.weekday_eq]

/-- A schedule that matches a date matches those at the same place of the cycle, unless they are at
the ends of the calendar. -/
theorem matchesDate_of_samePlace {d e : Date} (h : Date.SamePlace d e)
    (hmin : Date.minYear < e.year) (hmax : e.year < Date.maxYear)
    (hd : s.matchesDate d = true) : s.matchesDate e = true := by
  have hclosest (hd : s.matchesClosest d = true) : s.matchesClosest e = true := by
    simp only [matchesClosest, Bool.and_eq_true, Bool.or_eq_true, Option.any_eq_true] at hd ⊢
    obtain ⟨hworkday, hd⟩ := hd
    refine ⟨(isWorkday_of_samePlace h).trans hworkday, ?_⟩
    rw [h.day_eq]
    rcases hd with (hd | ⟨p, hp, hweekday, hday⟩) | ⟨n, hn, hweekday, hday⟩
    · exact .inl (.inl hd)
    · obtain ⟨p', hp', hplace⟩ := h.previous? hmin hp
      exact .inl (.inr ⟨p', hp', by rw [hplace.weekday_eq]; exact hweekday,
        by rw [hplace.day_eq]; exact hday⟩)
    · obtain ⟨n', hn', hplace⟩ := h.next? hmax hn
      exact .inr ⟨n', hn', by rw [hplace.weekday_eq]; exact hweekday,
        by rw [hplace.day_eq]; exact hday⟩
  have hday (hd : s.matchesDay d = true) : s.matchesDay e = true := by
    simp only [matchesDay, Bool.or_eq_true, h.day_eq, h.monthLength_eq] at hd ⊢
    exact hd.imp_right hclosest
  have hweekday : s.matchesWeekday e = s.matchesWeekday d := by
    simp only [matchesWeekday, h.weekday_eq, h.day_eq, h.monthLength_eq]
  simp only [matchesDate, Bool.or_eq_true, Bool.and_eq_true, hweekday] at hd ⊢
  rcases hd with (⟨hd, hany⟩ | hd) | ⟨hany, hd⟩
  · exact .inl (.inl ⟨hday hd, hany⟩)
  · exact .inl (.inr hd)
  · exact .inr ⟨hany, hd.imp_left hday⟩

/-! ## Minutes of a day -/

theorem firstTime?_eq_some {minute m : Nat} (h : s.firstTime? minute = some m) :
    s.matchesTime m = true ∧ m < 1440 := by
  obtain ⟨hmatches, -, -⟩ := List.find?_eq_some_iff_append.1 h
  have hmem := List.mem_of_find?_eq_some h
  rw [List.mem_range'_1] at hmem
  exact ⟨hmatches, by omega⟩

theorem exists_firstTime? {m : Nat} (hm : m < 1440) (h : s.matchesTime m = true) :
    ∃ m', s.firstTime? 0 = some m' := by
  refine Option.isSome_iff_exists.1 (List.find?_isSome.2 ⟨m, ?_, h⟩)
  rw [List.mem_range'_1]
  omega

theorem minuteOf?_eq_some {d : Date} {m : Nat} (hm : m < 1440) :
    minuteOf? d m = some (.ofSecond d (m * 60) (by omega)) :=
  dif_pos (by omega)

theorem matches_minuteOf? {d : Date} {m : Nat} {t : Instant} (hmonth : s.months.has d.month .all)
    (hdate : s.matchesDate d = true) (htime : s.matchesTime m = true)
    (ht : minuteOf? d m = some t) : s.Matches t := by
  unfold minuteOf? at ht
  split at ht
  · cases ht
    refine ⟨rfl, ?_, ?_, hmonth, hdate⟩
    · simp [Instant.ofSecond]
    · simpa [Instant.ofSecond] using htime
  · cases ht

/-! ## Dates -/

theorem firstDay?_eq_some {year : Int} {month day : Nat} {d : Date}
    (h : s.firstDay? year month day = some d) :
    s.matchesDate d = true ∧ d.year = year ∧ d.month = month := by
  obtain ⟨day', -, hd⟩ := List.exists_of_findSome?_eq_some h
  rw [Option.filter_eq_some_iff] at hd
  obtain ⟨hyear, hmonth, -⟩ := Date.of?_eq_some_iff.1 hd.1
  exact ⟨hd.2, hyear, hmonth⟩

theorem exists_firstDay? {e : Date} {day : Nat} (he : s.matchesDate e = true)
    (hday : day ≤ e.day) : ∃ d, s.firstDay? e.year e.month day = some d := by
  refine Option.isSome_iff_exists.1 (List.findSome?_isSome_iff.2 ⟨e.day, ?_, ?_⟩)
  · have := e.valid.2.2
    rw [List.mem_range'_1]
    omega
  · rw [Date.of?_eq_some_iff.2 ⟨rfl, rfl, rfl⟩]
    simp [he]

theorem firstDate?_eq_some {months : Nat} {month : Int} {day : Nat} {d : Date}
    (h : s.firstDate? months month day = some d) :
    s.months.has d.month .all = true ∧ s.matchesDate d = true := by
  induction months generalizing month day with
  | zero => cases h
  | succ months ih =>
    rw [firstDate?] at h
    split at h
    · next hfound =>
      cases h
      split at hfound
      · next hmonth =>
        obtain ⟨hdate, -, hd⟩ := firstDay?_eq_some hfound
        exact ⟨by rw [hd]; exact hmonth, hdate⟩
      · cases hfound
    · exact ih h

/-- The search by months finds a date in the month of a matching date at the latest. -/
theorem exists_firstDate? {e : Date} (hmonth : s.months.has e.month .all = true)
    (he : s.matchesDate e = true) (months : Nat) {month : Int} {day : Nat}
    (hfirst : month ≤ e.monthNumber) (hlast : e.monthNumber < month + months)
    (hday : month = e.monthNumber → day ≤ e.day) :
    ∃ d, s.firstDate? months month day = some d ∧ d.monthNumber ≤ e.monthNumber := by
  induction months generalizing month day with
  | zero => omega
  | succ months ih =>
    rw [firstDate?]
    split
    · next d hfound =>
      refine ⟨d, rfl, ?_⟩
      split at hfound
      · obtain ⟨-, hyear, hd⟩ := firstDay?_eq_some hfound
        have : d.monthNumber = month := by
          unfold Date.monthNumber
          omega
        omega
      · cases hfound
    · next hnone =>
      rcases eq_or_lt_of_le hfirst with rfl | hlt
      · -- The month of the matching date itself is not passed over.
        rw [Date.monthNumber_emod, Date.monthNumber_ediv, if_pos hmonth] at hnone
        obtain ⟨d, hd⟩ := exists_firstDay? he (hday rfl)
        rw [hd] at hnone
        cases hnone
      · exact ih (by omega) (by push_cast at hlast; omega) fun _ => e.valid.2.2.1

/-! ## Minutes -/

/-- The schedule is due at what the search finds. -/
theorem matches_of_next? {now t : Instant} (hnow : now.date.year < limitYear)
    (h : s.next? now = some t) : s.Matches t := by
  unfold next? at h
  rw [if_neg (by omega)] at h
  dsimp only at h
  split at h
  · next t' htoday =>
    cases h
    split at htoday
    · next hdate =>
      rw [Bool.and_eq_true] at hdate
      obtain ⟨m, hm, ht⟩ := Option.bind_eq_some_iff.1 htoday
      exact matches_minuteOf? hdate.1 hdate.2 (firstTime?_eq_some hm).1 ht
    · cases htoday
  · simp only [bind, Option.bind_eq_some_iff] at h
    obtain ⟨m, hm, tomorrow, -, d, hd, ht⟩ := h
    rw [firstDateFrom?, Option.filter_eq_some_iff] at hd
    obtain ⟨hmonth, hdate⟩ := firstDate?_eq_some hd.1
    exact matches_minuteOf? hmonth hdate (firstTime?_eq_some hm).1 ht

/-- The search finds something if the schedule is due at a later date before the year at which the
search ends. -/
theorem exists_next?_of_date {now : Instant} {e : Date} {m : Nat}
    (hmonth : s.months.has e.month .all = true) (hdate : s.matchesDate e = true)
    (hm : m < 1440) (htime : s.matchesTime m = true)
    (hlt : now.date.ordinal < e.ordinal) (hyear : e.year < limitYear) :
    ∃ t, s.next? now = some t := by
  have hnow : now.date.year < limitYear := by
    by_contra hnow
    have := Date.ordinal_lt_of_year_lt (d := e) (e := now.date) (by omega)
    omega
  unfold next?
  rw [if_neg (by omega)]
  dsimp only
  split
  · exact ⟨_, rfl⟩
  · -- Nothing is found today. Tomorrow is not after the date, so the search by months reaches it.
    obtain ⟨m', hm'⟩ := exists_firstTime? hm htime
    obtain ⟨tomorrow, htomorrow⟩ := now.date.exists_next?
      (hnow.trans_le (by decide : limitYear ≤ Date.maxYear))
    have hle := Date.next?_le htomorrow hlt
    have hnumber := Date.monthNumber_le_of_ordinal_le hle
    obtain ⟨d, hd, hdle⟩ := exists_firstDate? hmonth hdate
      (limitYear * 12 + 1 - tomorrow.monthNumber).toNat hnumber
      (by
        have hmonths := e.valid.2.1
        unfold Date.monthNumber at hnumber ⊢
        omega)
      (Date.day_le_of_ordinal_le hle)
    have hdyear : d.year < limitYear := by
      have := d.valid.2.1
      have := e.valid.2.1
      unfold Date.monthNumber at hdle
      omega
    have hfrom : s.firstDateFrom? tomorrow = some d := by
      rw [firstDateFrom?, Option.filter_eq_some_iff]
      exact ⟨hd, by simp [hdyear]⟩
    refine ⟨.ofSecond d (m' * 60) ?_, ?_⟩
    · have := (firstTime?_eq_some hm').2
      omega
    · simp only [hm', htomorrow, hfrom, bind, Option.bind_some]
      exact minuteOf?_eq_some (firstTime?_eq_some hm').2

/-- Before the year 4000 the search finds something just if the schedule is ever due. -/
theorem exists_next?_iff {now : Instant} (hnow : now.date.year < 4000) :
    (∃ t, s.next? now = some t) ↔ ∃ t, s.Matches t := by
  constructor
  · rintro ⟨t, ht⟩
    exact ⟨t, matches_of_next? (hnow.trans (by decide)) ht⟩
  · rintro ⟨t, ht⟩
    have hmin := now.date.valid.1.1
    -- The date comes again in the 400 years from the next year on, before the search ends.
    obtain ⟨e, hplace, hfirst, hlast⟩ := t.date.exists_samePlace (now.date.year + 1)
      (by omega) (by have : Date.maxYear = 262142 := rfl; omega)
    refine exists_next?_of_date (e := e) (m := t.second / 60) ?_ ?_ ?_ ht.time ?_ ?_
    · rw [hplace.month_eq]
      exact ht.month
    · refine matchesDate_of_samePlace hplace (by omega) ?_ ht.date
      have : Date.maxYear = 262142 := rfl
      omega
    · have := t.second_lt
      omega
    · exact Date.ordinal_lt_of_year_lt (by omega)
    · have : limitYear = 5000 := rfl
      omega

end Ingestion.Cron.Schedule
