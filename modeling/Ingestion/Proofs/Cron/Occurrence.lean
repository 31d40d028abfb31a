import Mathlib
import Ingestion.Proofs.Cron.Search
import Ingestion.Proofs.Time.Instant

/-!
# The first occurrence after an instant

What a search gives is the first instant after the one it starts from at which the schedule is due
(`Schedule.isNext_of_next?`), in every year. Before the year `limitYear` it gives one whenever there
is one up to the first day of that year (`Schedule.exists_next?_of_matches`).

So a search that starts later comes to the same instant as long as that instant still lies ahead
(`Schedule.next?_eq_of_between`). This also holds from the year `limitYear` on, where a search takes
no carry and may miss an occurrence: what one search has found is not missed by a later one.
-/

namespace Ingestion.Cron.Schedule

/-! ## Searching a range of numbers -/

theorem find?_range'_eq_some_iff {p : Nat → Bool} {a n i : Nat} :
    (List.range' a n).find? p = some i ↔
      p i = true ∧ a ≤ i ∧ i < a + n ∧ ∀ j, a ≤ j → p j = true → i ≤ j := by
  rw [List.find?_range'_eq_some, List.mem_range'_1]
  constructor
  · rintro ⟨hi, ⟨hai, hin⟩, hnone⟩
    refine ⟨hi, hai, hin, ?_⟩
    intro j haj hj
    by_contra hlt
    have hfalse := hnone j haj (by omega)
    rw [hj] at hfalse
    cases hfalse
  · rintro ⟨hi, hai, hin, hleast⟩
    refine ⟨hi, ⟨hai, hin⟩, ?_⟩
    intro j haj hji
    rw [Bool.not_eq_true', Bool.eq_false_iff]
    intro hj
    have hle := hleast j haj hj
    omega

theorem exists_find?_range' {p : Nat → Bool} {a n j : Nat} (haj : a ≤ j) (hjn : j < a + n)
    (hj : p j = true) : ∃ i, (List.range' a n).find? p = some i :=
  Option.isSome_iff_exists.1 (List.find?_isSome.2 ⟨j, List.mem_range'_1.2 ⟨haj, hjn⟩, hj⟩)

/-- The first number of a range that is mapped to something. -/
theorem findSome?_range' {α : Type} {f : Nat → Option α} {a n : Nat} {x : α}
    (h : (List.range' a n).findSome? f = some x) :
    ∃ i, a ≤ i ∧ f i = some x ∧ ∀ j, a ≤ j → j < i → f j = none := by
  obtain ⟨before, i, after, hrange, hi, hnone⟩ := List.findSome?_eq_some_iff.1 h
  obtain ⟨k, hk, rfl, hrest⟩ := List.range'_eq_append_iff.1 hrange
  have hik : i = a + k := by
    have hhead := congrArg List.head? hrest
    rw [List.head?_range'] at hhead
    split at hhead
    · cases hhead
    · simpa using hhead
  refine ⟨i, by omega, hi, ?_⟩
  intro j haj hji
  exact hnone j (List.mem_range'_1.2 ⟨haj, by omega⟩)

variable {s : Schedule} {t u v : Instant}

/-! ## The first time of a day -/

theorem firstTime?_eq_some_iff {minute m : Nat} :
    s.firstTime? minute = some m ↔ s.matchesTime m = true ∧ minute ≤ m ∧ m < 1440 ∧
      ∀ j, minute ≤ j → s.matchesTime j = true → m ≤ j := by
  rw [firstTime?, find?_range'_eq_some_iff]
  constructor
  · rintro ⟨hm, hle, hlt, hleast⟩
    exact ⟨hm, hle, by omega, hleast⟩
  · rintro ⟨hm, hle, hlt, hleast⟩
    exact ⟨hm, hle, by omega, hleast⟩

theorem exists_firstTime?_from {minute m : Nat} (hle : minute ≤ m) (hm : m < 1440)
    (h : s.matchesTime m = true) : ∃ m', s.firstTime? minute = some m' :=
  exists_find?_range' hle (by omega) h

theorem minuteOf?_eq_some_iff {d : Date} {m : Nat} :
    minuteOf? d m = some u ↔ u.date = d ∧ u.second = m * 60 ∧ u.nanos = 0 := by
  unfold minuteOf?
  constructor
  · intro h
    split at h
    · cases h
      exact ⟨rfl, rfl, rfl⟩
    · cases h
  · rintro ⟨rfl, hsecond, hnanos⟩
    have hlt := u.second_lt
    rw [dif_pos (by omega)]
    have hu : u = .ofSecond u.date (m * 60) (by omega) := by
      apply Instant.eq_of_rank_eq
      rw [Instant.rank_eq, Instant.rank_eq, hsecond, hnanos]
      rfl
    exact congrArg some hu.symm

/-! ## The first date -/

theorem firstDay?_first {year : Int} {month day : Nat} {d : Date}
    (h : s.firstDay? year month day = some d) : day ≤ d.day ∧
      ∀ e : Date, e.year = year → e.month = month → day ≤ e.day → s.matchesDate e = true →
        d.day ≤ e.day := by
  obtain ⟨i, hi, hd, hnone⟩ := findSome?_range' h
  rw [Option.filter_eq_some_iff] at hd
  have hday : d.day = i := (Date.of?_eq_some_iff.1 hd.1).2.2
  constructor
  · omega
  · rintro e rfl rfl hle hmatches
    by_contra hlt
    have hfound := hnone e.day hle (by omega)
    rw [Date.of?_eq_some_iff.2 ⟨rfl, rfl, rfl⟩] at hfound
    simp [hmatches] at hfound

/-- The search by months comes to the first matching date. -/
theorem firstDate?_first {months : Nat} {month : Int} {day : Nat} {d : Date}
    (h : s.firstDate? months month day = some d) :
    month ≤ d.monthNumber ∧ (month = d.monthNumber → day ≤ d.day) ∧
      ∀ e : Date, s.months.has e.month .all = true → s.matchesDate e = true →
        month ≤ e.monthNumber → (month = e.monthNumber → day ≤ e.day) →
        d.ordinal ≤ e.ordinal := by
  induction months generalizing month day with
  | zero => cases h
  | succ months ih =>
    rw [firstDate?] at h
    split at h
    · next hfound =>
      cases h
      split at hfound
      · next hmonth =>
        obtain ⟨-, hyear, hname⟩ := firstDay?_eq_some hfound
        obtain ⟨hday, hfirst⟩ := firstDay?_first hfound
        have hnumber : d.monthNumber = month := by
          unfold Date.monthNumber
          omega
        refine ⟨hnumber.ge, fun _ => hday, ?_⟩
        intro e _ hmatches hle hsame
        rcases Int.lt_or_eq_of_le hle with hlt | heq
        · have hlong := monthLength_le d.year d.month
          have hvalid := d.valid.2.2
          unfold Date.ordinal
          omega
        · -- In the month of the found date itself the day decides.
          have hed : e.year = month / 12 := by rw [heq, Date.monthNumber_ediv]
          have hem : e.month = (month % 12).toNat + 1 := by rw [heq, Date.monthNumber_emod]
          have hle' := hfirst e hed hem (hsame heq) hmatches
          unfold Date.ordinal
          omega
      · cases hfound
    · next hnone =>
      obtain ⟨hle, -, hfirst⟩ := ih h
      refine ⟨by omega, fun heq => absurd heq (by omega), ?_⟩
      intro e hmonth hmatches hle' hsame
      rcases Int.lt_or_eq_of_le hle' with hlt | heq
      · exact hfirst e hmonth hmatches (by omega) fun _ => e.valid.2.2.1
      · -- The month that was passed over holds no matching date.
        rw [heq, Date.monthNumber_emod, Date.monthNumber_ediv, if_pos hmonth] at hnone
        obtain ⟨d', hd'⟩ := exists_firstDay? hmatches (hsame heq)
        rw [hd'] at hnone
        cases hnone

/-- The search by months ends after the given number of them. -/
theorem firstDate?_lt {months : Nat} {month : Int} {day : Nat} {d : Date}
    (h : s.firstDate? months month day = some d) : d.monthNumber < month + months := by
  induction months generalizing month day with
  | zero => cases h
  | succ months ih =>
    rw [firstDate?] at h
    split at h
    · next hfound =>
      cases h
      split at hfound
      · obtain ⟨-, hyear, hname⟩ := firstDay?_eq_some hfound
        unfold Date.monthNumber
        omega
      · cases hfound
    · have hlt := ih h
      omega

/-- The last date that a search with carries comes to. -/
def lastDate : Date :=
  ⟨limitYear, 1, 1, by decide⟩

theorem lastDate_ordinal : lastDate.ordinal = limitYear * 12 * 31 := by
  decide

theorem lastDate_ordinal_le {d : Date} (h : limitYear ≤ d.year) :
    lastDate.ordinal ≤ d.ordinal := by
  rw [lastDate_ordinal]
  unfold Date.ordinal Date.monthNumber
  omega

theorem ordinal_le_lastDate_iff {d : Date} :
    d.ordinal ≤ lastDate.ordinal ↔
      d.year < limitYear ∨ d.year = limitYear ∧ d.month = 1 ∧ d.day = 1 := by
  obtain ⟨-, hmonth, hday⟩ := d.valid
  have hlong := monthLength_le d.year d.month
  have hlimit : limitYear = 5000 := rfl
  rw [lastDate_ordinal]
  unfold Date.ordinal Date.monthNumber
  omega

/-- The search by dates comes to the first matching date. -/
theorem firstDateFrom?_first {from_ d : Date} (h : s.firstDateFrom? from_ = some d) :
    (s.months.has d.month .all = true ∧ s.matchesDate d = true) ∧
      from_.ordinal ≤ d.ordinal ∧ d.ordinal ≤ lastDate.ordinal ∧
      ∀ e : Date, s.months.has e.month .all = true → s.matchesDate e = true →
        from_.ordinal ≤ e.ordinal → d.ordinal ≤ e.ordinal := by
  rw [firstDateFrom?, Option.filter_eq_some_iff] at h
  obtain ⟨hfound, hlimit⟩ := h
  obtain ⟨hmonth, hday, hfirst⟩ := firstDate?_first hfound
  refine ⟨firstDate?_eq_some hfound, ?_, ?_, ?_⟩
  · have hvalid := d.valid.2.2
    have hfrom := from_.valid.2.2
    have hlong := monthLength_le from_.year from_.month
    unfold Date.ordinal
    omega
  · have hyear := Date.monthNumber_ediv d
    have hbelow := firstDate?_lt hfound
    rw [ordinal_le_lastDate_iff]
    simp at hlimit
    omega
  · intro e hmonth' hmatches hle
    exact hfirst e hmonth' hmatches (Date.monthNumber_le_of_ordinal_le hle)
      (Date.day_le_of_ordinal_le hle)

/-- The search by dates comes to one if there is a matching date up to the last one. -/
theorem exists_firstDateFrom? {from_ e : Date} (hmonth : s.months.has e.month .all = true)
    (hdate : s.matchesDate e = true) (hle : from_.ordinal ≤ e.ordinal)
    (hlast : e.ordinal ≤ lastDate.ordinal) : ∃ d, s.firstDateFrom? from_ = some d := by
  have hnumber := Date.monthNumber_le_of_ordinal_le hle
  have hnumber' := Date.monthNumber_le_of_ordinal_le hlast
  have hlimit : lastDate.monthNumber = limitYear * 12 := rfl
  obtain ⟨d, hd, -⟩ := exists_firstDate? hmonth hdate
    (limitYear * 12 + 1 - from_.monthNumber).toNat hnumber (by omega)
    (Date.day_le_of_ordinal_le hle)
  obtain ⟨-, -, hfirst⟩ := firstDate?_first hd
  have hde := hfirst e hmonth hdate hnumber (Date.day_le_of_ordinal_le hle)
  have hcases := ordinal_le_lastDate_iff.1 (Int.le_trans hde hlast)
  refine ⟨d, ?_⟩
  rw [firstDateFrom?, Option.filter_eq_some_iff]
  refine ⟨hd, ?_⟩
  rcases hcases with hyear | ⟨-, hmonth, hday⟩
  · simp [hyear]
  · simp [hmonth, hday]

/-! ## The next occurrence -/

/-- An instant is the first one after `t` at which the schedule is due. -/
structure IsNext (s : Schedule) (t u : Instant) : Prop where
  due : s.Matches u
  later : t < u
  first : ∀ v, s.Matches v → t < v → u ≤ v

theorem IsNext.unique (h : s.IsNext t u) (h' : s.IsNext t v) : u = v :=
  Instant.le_antisymm (h.first v h'.due h'.later) (h'.first u h.due h.later)

/-- The next occurrence stays the next one until it comes. -/
theorem IsNext.of_le_of_lt {t₀ : Instant} (h : s.IsNext t₀ u) (hle : t₀ ≤ t) (hlt : t < u) :
    s.IsNext t u :=
  ⟨h.due, hlt, fun v hv htv => h.first v hv (Instant.lt_of_le_of_lt hle htv)⟩

/-! ## Searches with carries -/

/-- The first occurrence after an instant on its own date. -/
def today? (s : Schedule) (t : Instant) : Option Instant :=
  if s.months.has t.date.month .all && s.matchesDate t.date then
    (s.firstTime? (t.second / 60 + 1)).bind (minuteOf? t.date)
  else none

/-- The first occurrence on a date after that of an instant. -/
def afterToday? (s : Schedule) (t : Instant) : Option Instant := do
  let minute ← s.firstTime? 0
  let tomorrow ← t.date.next?
  let date ← s.firstDateFrom? tomorrow
  minuteOf? date minute

theorem next?_of_lt (ht : t.date.year < limitYear) :
    s.next? t = (s.today? t).or (s.afterToday? t) := by
  unfold next?
  rw [if_neg (by omega)]
  dsimp only
  rw [← today?]
  cases s.today? t with
  | none => rfl
  | some u => rfl

/-- On the date of an instant a later occurrence is one in a later minute. -/
theorem Matches.minute_lt_iff (h : s.Matches u) (hdate : u.date = t.date) :
    t < u ↔ t.second / 60 + 1 ≤ u.second / 60 := by
  have hzero := h.second_eq
  rw [Instant.lt_iff_second_lt hdate.symm h.nanos_eq]
  omega

theorem today?_eq_some (h : s.today? t = some u) : s.Matches u ∧ u.date = t.date ∧ t < u ∧
    ∀ v, s.Matches v → v.date = t.date → t < v → u ≤ v := by
  unfold today? at h
  split at h
  · next hmatches =>
    rw [Bool.and_eq_true] at hmatches
    obtain ⟨m, hm, hu⟩ := Option.bind_eq_some_iff.1 h
    obtain ⟨hdate, hsecond, hnanos⟩ := minuteOf?_eq_some_iff.1 hu
    obtain ⟨htime, hle, -, hfirst⟩ := firstTime?_eq_some_iff.1 hm
    have hdue : s.Matches u := matches_minuteOf? hmatches.1 hmatches.2 htime hu
    refine ⟨hdue, hdate, ?_, ?_⟩
    · rw [hdue.minute_lt_iff hdate]
      omega
    · intro v hv hvdate htv
      have hvm := hfirst _ ((hv.minute_lt_iff hvdate).1 htv) hv.time
      rw [Instant.le_iff_second_le (hdate.trans hvdate.symm) hnanos hv.nanos_eq]
      omega
  · cases h

theorem exists_today? (hv : s.Matches v) (hdate : v.date = t.date) (htv : t < v) :
    ∃ u, s.today? t = some u := by
  obtain ⟨m, hm⟩ := exists_firstTime?_from ((hv.minute_lt_iff hdate).1 htv) v.minute_lt hv.time
  unfold today?
  rw [← hdate, hv.month, hv.date, hm]
  exact ⟨_, minuteOf?_eq_some (firstTime?_eq_some hm).2⟩

theorem afterToday?_eq_some (h : s.afterToday? t = some u) : s.Matches u ∧
    t.date.ordinal < u.date.ordinal ∧ u.date.ordinal ≤ lastDate.ordinal ∧
    ∀ v, s.Matches v → t.date.ordinal < v.date.ordinal → u ≤ v := by
  simp only [afterToday?, bind, Option.bind_eq_some_iff] at h
  obtain ⟨m, hm, tomorrow, htomorrow, d, hd, hu⟩ := h
  obtain ⟨hdate, hsecond, hnanos⟩ := minuteOf?_eq_some_iff.1 hu
  obtain ⟨htime, -, -, hfirstTime⟩ := firstTime?_eq_some_iff.1 hm
  obtain ⟨⟨hmonth, hmatches⟩, hfrom, hlast, hfirst⟩ := firstDateFrom?_first hd
  have hlt := Date.lt_next? htomorrow
  have hdue : s.Matches u := matches_minuteOf? hmonth hmatches htime hu
  refine ⟨hdue, by rw [hdate]; omega, by rw [hdate]; exact hlast, ?_⟩
  intro v hv htv
  have hle := hfirst v.date hv.month hv.date (Date.next?_le htomorrow htv)
  rw [← hdate] at hle
  rcases Int.lt_or_eq_of_le hle with hord | hord
  · exact Instant.le_of_lt (Instant.lt_of_ordinal_lt hord)
  · have hvm := hfirstTime _ (Nat.zero_le _) hv.time
    rw [Instant.le_iff_second_le (Date.eq_of_ordinal_eq hord) hnanos hv.nanos_eq]
    omega

theorem exists_afterToday? (hv : s.Matches v) (htv : t.date.ordinal < v.date.ordinal)
    (hlast : v.date.ordinal ≤ lastDate.ordinal) : ∃ u, s.afterToday? t = some u := by
  obtain ⟨m, hm⟩ := exists_firstTime? v.minute_lt hv.time
  obtain ⟨tomorrow, htomorrow⟩ := Date.exists_next?_of_lt htv
  obtain ⟨d, hd⟩ := exists_firstDateFrom? hv.month hv.date (Date.next?_le htomorrow htv) hlast
  unfold afterToday?
  rw [hm, htomorrow]
  dsimp only [bind, Option.bind]
  rw [hd]
  exact ⟨_, minuteOf?_eq_some (firstTime?_eq_some hm).2⟩

/-- Before the year `limitYear` a search gives the next occurrence, which is not after the last
date. -/
theorem isNext_of_next?_of_lt (ht : t.date.year < limitYear) (h : s.next? t = some u) :
    s.IsNext t u ∧ u.date.ordinal ≤ lastDate.ordinal := by
  rw [next?_of_lt ht, Option.or_eq_some_iff] at h
  rcases h with htoday | ⟨hnone, hafter⟩
  · obtain ⟨hdue, hdate, hlt, hfirst⟩ := today?_eq_some htoday
    refine ⟨⟨hdue, hlt, ?_⟩, ?_⟩
    · intro v hv htv
      rcases Int.lt_or_eq_of_le (Instant.ordinal_le_of_le (Instant.le_of_lt htv)) with hord | hord
      · rw [← hdate] at hord
        exact Instant.le_of_lt (Instant.lt_of_ordinal_lt hord)
      · exact hfirst v hv (Date.eq_of_ordinal_eq hord).symm htv
    · rw [hdate, ordinal_le_lastDate_iff]
      exact .inl ht
  · obtain ⟨hdue, hlt, hlast, hfirst⟩ := afterToday?_eq_some hafter
    refine ⟨⟨hdue, Instant.lt_of_ordinal_lt hlt, ?_⟩, hlast⟩
    intro v hv htv
    rcases Int.lt_or_eq_of_le (Instant.ordinal_le_of_le (Instant.le_of_lt htv)) with hord | hord
    · exact hfirst v hv hord
    · -- An occurrence on the date itself would have been found today.
      obtain ⟨w, hw⟩ := exists_today? hv (Date.eq_of_ordinal_eq hord).symm htv
      rw [hnone] at hw
      cases hw

/-- Before the year `limitYear` a search gives an instant if there is an occurrence up to the last
date. -/
theorem exists_next?_of_matches (ht : t.date.year < limitYear) (hv : s.Matches v) (htv : t < v)
    (hlast : v.date.ordinal ≤ lastDate.ordinal) : ∃ u, s.next? t = some u := by
  rw [next?_of_lt ht]
  rcases Int.lt_or_eq_of_le (Instant.ordinal_le_of_le (Instant.le_of_lt htv)) with hord | hord
  · obtain ⟨u, hu⟩ := exists_afterToday? hv hord hlast
    cases htoday : s.today? t with
    | some w => exact ⟨w, rfl⟩
    | none => exact ⟨u, hu⟩
  · obtain ⟨u, hu⟩ := exists_today? hv (Date.eq_of_ordinal_eq hord).symm htv
    exact ⟨u, by rw [hu]; rfl⟩

/-! ## Searches without carries -/

theorem firstHour?_eq_some_iff {hour h : Nat} :
    s.firstHour? hour = some h ↔ s.hours.has h .all = true ∧ hour ≤ h ∧ h < 24 ∧
      ∀ j, hour ≤ j → s.hours.has j .all = true → h ≤ j := by
  rw [firstHour?, find?_range'_eq_some_iff]
  constructor
  · rintro ⟨hh, hle, hlt, hleast⟩
    exact ⟨hh, hle, by omega, hleast⟩
  · rintro ⟨hh, hle, hlt, hleast⟩
    exact ⟨hh, hle, by omega, hleast⟩

theorem firstMinute?_eq_some_iff {minute m : Nat} :
    s.firstMinute? minute = some m ↔ s.minutes.has m .all = true ∧ minute ≤ m ∧ m < 60 ∧
      ∀ j, minute ≤ j → s.minutes.has j .all = true → m ≤ j := by
  rw [firstMinute?, find?_range'_eq_some_iff]
  constructor
  · rintro ⟨hm, hle, hlt, hleast⟩
    exact ⟨hm, hle, by omega, hleast⟩
  · rintro ⟨hm, hle, hlt, hleast⟩
    exact ⟨hm, hle, by omega, hleast⟩

/-- A search without carries comes to the first hour, and to the first minute in it, if that is not
before the start. -/
theorem nextWithoutCarry?_eq_some_iff {start : Instant} :
    s.nextWithoutCarry? start = some u ↔
      (s.months.has start.date.month .all = true ∧ s.matchesDate start.date = true) ∧
      u.date = start.date ∧ u.nanos = 0 ∧ start.second ≤ u.second ∧
      ∃ hour minute, u.second = (hour * 60 + minute) * 60 ∧
        s.firstHour? (start.second / 3600) = some hour ∧
        s.firstMinute? (if start.second / 3600 < hour then 0 else start.second / 60 % 60) =
          some minute := by
  constructor
  · intro h
    simp only [nextWithoutCarry?, bind, Option.bind_eq_some_iff] at h
    obtain ⟨_, hguard, hour, hhour, h⟩ := h
    have hmatches : s.months.has start.date.month .all = true ∧
        s.matchesDate start.date = true := by
      simpa [guard] using hguard
    obtain ⟨-, hle, -, -⟩ := firstHour?_eq_some_iff.1 hhour
    split at h
    · next hlt =>
      obtain ⟨minute, hminute, hu⟩ := Option.bind_eq_some_iff.1 h
      obtain ⟨hdate, hsecond, hnanos⟩ := minuteOf?_eq_some_iff.1 hu
      refine ⟨hmatches, hdate, hnanos, by omega, hour, minute, hsecond, hhour, ?_⟩
      rw [if_pos hlt]
      exact hminute
    · next hlt =>
      simp only [Option.bind_eq_some_iff] at h
      obtain ⟨minute, hminute, _, hguard', hu⟩ := h
      obtain ⟨hdate, hsecond, hnanos⟩ := minuteOf?_eq_some_iff.1 hu
      obtain ⟨-, hle', -, -⟩ := firstMinute?_eq_some_iff.1 hminute
      have hlate : start.second / 60 % 60 < minute ∨ start.second % 60 = 0 := by
        by_contra hnot
        rw [guard, if_neg hnot] at hguard'
        cases hguard'
      have heq : start.second / 3600 = hour := by omega
      rw [heq] at hsecond
      refine ⟨hmatches, hdate, hnanos, by omega, hour, minute, hsecond, hhour, ?_⟩
      rw [if_neg hlt]
      exact hminute
  · rintro ⟨⟨hmonth, hdate'⟩, hdate, hnanos, hle, hour, minute, hsecond, hhour, hminute⟩
    obtain ⟨-, hle', -, -⟩ := firstHour?_eq_some_iff.1 hhour
    have hu : minuteOf? start.date (hour * 60 + minute) = some u :=
      minuteOf?_eq_some_iff.2 ⟨hdate, hsecond, hnanos⟩
    unfold nextWithoutCarry?
    simp only [hmonth, hdate', hhour, bind, Option.bind, guard, Bool.and_self, if_true]
    split_ifs at hminute ⊢
    · rw [hminute]
      exact hu
    · obtain ⟨-, hle'', hlt, -⟩ := firstMinute?_eq_some_iff.1 hminute
      have heq : start.second / 3600 = hour := by omega
      rw [hminute, heq]
      dsimp only
      rw [if_pos (by omega)]
      exact hu

/-- A search without carries comes to the first occurrence from its start on, on the same date. -/
theorem nextWithoutCarry?_first {start : Instant} (h : s.nextWithoutCarry? start = some u)
    (hstart : start.nanos = 0) :
    s.Matches u ∧ start ≤ u ∧ ∀ v, s.Matches v → start ≤ v → u ≤ v := by
  obtain ⟨⟨hmonth, hmatches⟩, hdate, hnanos, hle, hour, minute, hsecond, hhour, hminute⟩ :=
    nextWithoutCarry?_eq_some_iff.1 h
  obtain ⟨hhas, hhle, -, hhfirst⟩ := firstHour?_eq_some_iff.1 hhour
  obtain ⟨hhas', hmle, hmlt, hmfirst⟩ := firstMinute?_eq_some_iff.1 hminute
  refine ⟨⟨hnanos, by omega, ?_, ?_, ?_⟩, ?_, ?_⟩
  · rw [matchesTime, show u.second / 60 / 60 = hour by omega,
      show u.second / 60 % 60 = minute by omega, hhas, hhas']
    rfl
  · rw [hdate]
    exact hmonth
  · rw [hdate]
    exact hmatches
  · rw [Instant.le_iff_second_le hdate.symm hstart hnanos]
    exact hle
  · intro v hv hsv
    rcases Int.lt_or_eq_of_le (Instant.ordinal_le_of_le hsv) with hord | hord
    · rw [← hdate] at hord
      exact Instant.le_of_lt (Instant.lt_of_ordinal_lt hord)
    · have hvdate := Date.eq_of_ordinal_eq hord
      have hsecond' := Instant.second_le_of_le hsv hvdate
      have hzero := hv.second_eq
      have htime := hv.time
      rw [matchesTime, Bool.and_eq_true] at htime
      have hvhour := hhfirst _ (by omega) htime.1
      rw [Instant.le_iff_second_le (hdate.trans hvdate) hnanos hv.nanos_eq]
      rcases Nat.lt_or_eq_of_le hvhour with hlater | hsame
      · omega
      · -- In the same hour the minutes decide.
        have hvminute := hmfirst (v.second / 60 % 60) (by split <;> omega) htime.2
        omega

/-- From a later start that is not after the occurrence found a search without carries comes to the
same one. -/
theorem nextWithoutCarry?_of_le {start start' : Instant}
    (h : s.nextWithoutCarry? start = some u) (hdate : start'.date = start.date)
    (hle : start.second ≤ start'.second) (hle' : start'.second ≤ u.second) :
    s.nextWithoutCarry? start' = some u := by
  obtain ⟨hmatches, hudate, hnanos, -, hour, minute, hsecond, hhour, hminute⟩ :=
    nextWithoutCarry?_eq_some_iff.1 h
  obtain ⟨hhas, -, hhlt, hhfirst⟩ := firstHour?_eq_some_iff.1 hhour
  obtain ⟨hhas', -, hmlt, hmfirst⟩ := firstMinute?_eq_some_iff.1 hminute
  rw [nextWithoutCarry?_eq_some_iff, hdate]
  refine ⟨hmatches, hudate, hnanos, hle', hour, minute, hsecond, ?_, ?_⟩
  · rw [firstHour?_eq_some_iff]
    exact ⟨hhas, by omega, hhlt, fun j hj => hhfirst j (by omega)⟩
  · rw [firstMinute?_eq_some_iff]
    refine ⟨hhas', by split <;> omega, hmlt, ?_⟩
    intro j hj
    refine hmfirst j ?_
    split_ifs at hj ⊢ <;> omega

/-- A search without carries that starts on the date of an occurrence comes to it, if the schedule
is not due earlier on this date. -/
theorem nextWithoutCarry?_of_first {start : Instant} (hu : s.Matches u)
    (hdate : u.date = start.date) (hle : start.second ≤ u.second)
    (hfirst : ∀ v, s.Matches v → v.date = u.date → u ≤ v) :
    s.nextWithoutCarry? start = some u := by
  have hlt := u.second_lt
  have hzero := hu.second_eq
  have htime := hu.time
  rw [matchesTime, Bool.and_eq_true] at htime
  have hfirst' : ∀ hour minute, hour < 24 → minute < 60 → s.hours.has hour .all = true →
      s.minutes.has minute .all = true → u.second ≤ (hour * 60 + minute) * 60 := by
    intro hour minute hhour hminute hhas hhas'
    obtain ⟨v, hv⟩ : ∃ v, minuteOf? u.date (hour * 60 + minute) = some v :=
      ⟨_, minuteOf?_eq_some (by omega)⟩
    obtain ⟨hvdate, hvsecond, hvnanos⟩ := minuteOf?_eq_some_iff.1 hv
    have hdue : s.Matches v := by
      refine matches_minuteOf? hu.month hu.date ?_ hv
      rw [matchesTime, show (hour * 60 + minute) / 60 = hour by omega,
        show (hour * 60 + minute) % 60 = minute by omega, hhas, hhas']
      rfl
    rw [← hvsecond, ← Instant.le_iff_second_le hvdate.symm hu.nanos_eq hvnanos]
    exact hfirst v hdue hvdate
  rw [nextWithoutCarry?_eq_some_iff, ← hdate]
  refine ⟨⟨hu.month, hu.date⟩, rfl, hu.nanos_eq, hle, u.second / 3600, u.second / 60 % 60,
    by omega, ?_, ?_⟩
  · rw [firstHour?_eq_some_iff]
    refine ⟨?_, by omega, by omega, ?_⟩
    · rw [← Nat.div_div_eq_div_mul u.second 60 60]
      exact htime.1
    · intro j _ hj
      by_contra hjlt
      have hge := hfirst' j (u.second / 60 % 60) (by omega) (by omega) hj htime.2
      omega
  · rw [firstMinute?_eq_some_iff]
    refine ⟨htime.2, by split <;> omega, by omega, ?_⟩
    intro j _ hj
    by_contra hjlt
    have hge := hfirst' (u.second / 60 / 60) j (by omega) (by omega) htime.1 hj
    omega

/-! ## All searches -/

theorem next?_of_le (ht : limitYear ≤ t.date.year) :
    s.next? t = t.nextSecond?.bind s.nextWithoutCarry? :=
  if_pos ht

/-- What a search gives is the next occurrence. -/
theorem isNext_of_next? (h : s.next? t = some u) : s.IsNext t u := by
  by_cases ht : t.date.year < limitYear
  · exact (isNext_of_next?_of_lt ht h).1
  · rw [next?_of_le (by omega)] at h
    obtain ⟨start, hstart, hu⟩ := Option.bind_eq_some_iff.1 h
    obtain ⟨hnanos, -⟩ := Instant.nextSecond?_cases hstart
    obtain ⟨hdue, hle, hfirst⟩ := nextWithoutCarry?_first hu hnanos
    refine ⟨hdue, Instant.lt_of_lt_of_le (Instant.lt_nextSecond? hstart) hle, ?_⟩
    intro v hv htv
    exact hfirst v hv (Instant.nextSecond?_le hstart hv.nanos_eq htv)

/-- Before the year `limitYear` a search comes to the next occurrence, if there is one. -/
theorem IsNext.next?_eq (h : s.IsNext t u) (hyear : u.date.year < limitYear) :
    s.next? t = some u := by
  have htyear := Instant.year_le_of_le (Instant.le_of_lt h.later)
  obtain ⟨v, hv⟩ := exists_next?_of_matches (by omega) h.due h.later
    (ordinal_le_lastDate_iff.2 (.inl hyear))
  rw [hv, (isNext_of_next? hv).unique h]

/-- A search that starts later comes to the same occurrence, as long as it lies ahead. -/
theorem next?_eq_of_between {t₀ : Instant} (h : s.next? t₀ = some u) (hle : t₀ ≤ t)
    (hlt : t < u) : s.next? t = some u := by
  have hnext := (isNext_of_next? h).of_le_of_lt hle hlt
  by_cases ht : t.date.year < limitYear
  · have hyear := Instant.year_le_of_le hle
    obtain ⟨-, hlast⟩ := isNext_of_next?_of_lt (by omega) h
    obtain ⟨v, hv⟩ := exists_next?_of_matches ht hnext.due hlt hlast
    rw [hv, (isNext_of_next? hv).unique hnext]
  · obtain ⟨start, hstart⟩ := Instant.exists_nextSecond? hnext.due.nanos_eq hlt
    obtain ⟨hnanos, -⟩ := Instant.nextSecond?_cases hstart
    have hstart' : start ≤ u := Instant.nextSecond?_le hstart hnext.due.nanos_eq hlt
    have htstart := Instant.ordinal_le_of_le (Instant.le_of_lt (Instant.lt_nextSecond? hstart))
    have hstartu := Instant.ordinal_le_of_le hstart'
    rw [next?_of_le (by omega), hstart]
    show s.nextWithoutCarry? start = some u
    by_cases ht₀ : t₀.date.year < limitYear
    · -- The occurrence is on the last date, and the first one there.
      obtain ⟨hfirst, hlast⟩ := isNext_of_next?_of_lt ht₀ h
      have hlate : lastDate.ordinal ≤ t.date.ordinal := lastDate_ordinal_le (by omega)
      have hdate : u.date = start.date := Date.eq_of_ordinal_eq (by omega)
      refine nextWithoutCarry?_of_first hnext.due hdate ?_ ?_
      · exact Instant.second_le_of_le hstart' hdate.symm
      · intro v hv hvdate
        refine hfirst.first v hv (Instant.lt_of_ordinal_lt ?_)
        rw [hvdate]
        have hyear := Date.ordinal_lt_of_year_lt (d := t₀.date) (e := t.date) (by omega)
        omega
    · rw [next?_of_le (by omega)] at h
      obtain ⟨start₀, hstart₀, hu⟩ := Option.bind_eq_some_iff.1 h
      obtain ⟨hnanos₀, -⟩ := Instant.nextSecond?_cases hstart₀
      have hle₀ : start₀ ≤ start := Instant.nextSecond?_le hstart₀ hnanos
        (Instant.lt_of_le_of_lt hle (Instant.lt_nextSecond? hstart))
      obtain ⟨-, hudate, -⟩ := nextWithoutCarry?_eq_some_iff.1 hu
      have hord := Instant.ordinal_le_of_le hle₀
      rw [hudate] at hstartu
      have hdate : start.date = start₀.date := Date.eq_of_ordinal_eq (by omega)
      refine nextWithoutCarry?_of_le hu hdate ?_ ?_
      · exact Instant.second_le_of_le hle₀ hdate.symm
      · exact Instant.second_le_of_le hstart' (hdate.trans hudate.symm)

end Ingestion.Cron.Schedule
