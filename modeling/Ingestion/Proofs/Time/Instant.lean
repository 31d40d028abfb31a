import Mathlib
import Ingestion.Proofs.Time.Calendar

/-!
# The order of instants

Instants are ordered by their numbers `Instant.rank`, and these facts are stated so that `omega` can
go on with the numbers. An instant on an earlier date is earlier; on the same date the second counts
first, and then the fraction.

The second part is about the whole second that follows an instant: it is the first whole second that
is later (`Instant.nextSecond?_le`).
-/

namespace Ingestion

namespace Date

/-- The next day is later. -/
theorem lt_next? {d n : Date} (h : d.next? = some n) : d.ordinal < n.ordinal := by
  obtain ⟨hy, hm, hd⟩ := d.valid
  have hlen := monthLength_le d.year d.month
  unfold next? at h
  unfold ordinal monthNumber
  split_ifs at h <;>
    obtain ⟨h1, h2, h3⟩ := of?_eq_some_iff.1 h <;>
    rw [h1, h2, h3] <;> omega

/-- After a date there is a next one if there is any later one. -/
theorem exists_next?_of_lt {d e : Date} (h : d.ordinal < e.ordinal) : ∃ n, d.next? = some n := by
  obtain ⟨hy, hm, hd⟩ := d.valid
  obtain ⟨hey, hem, hed⟩ := e.valid
  have hlen := le_monthLength
  have hmost := monthLength_le e.year e.month
  have hsame : d.year = e.year → d.month = e.month →
      monthLength e.year e.month = monthLength d.year d.month := by
    intro hy hm
    rw [hy, hm]
  unfold ordinal monthNumber at h
  unfold next?
  split_ifs
  · exact exists_of?_eq_some ⟨hy, hm, by omega, by omega⟩
  · have := hlen d.year (d.month + 1)
    exact exists_of?_eq_some ⟨hy, by omega, by omega, by omega⟩
  · have := hlen (d.year + 1) 1
    exact exists_of?_eq_some ⟨by omega, by omega, by omega, by omega⟩

theorem addDays?_zero (d : Date) : d.addDays? 0 = some d := by
  have hsame : of? (d.year + 400 * (0 / cycleDays : Nat)) d.month d.day = some d :=
    of?_eq_some_iff.2 ⟨by simp, rfl, rfl⟩
  rw [addDays?, hsame]
  rfl

theorem addDays?_one (d : Date) : d.addDays? 1 = d.next? := by
  have hsame : of? (d.year + 400 * (1 / cycleDays : Nat)) d.month d.day = some d :=
    of?_eq_some_iff.2 ⟨by simp [cycleDays], rfl, rfl⟩
  rw [addDays?, hsame]
  show stepDays 1 d = d.next?
  unfold stepDays
  cases d.next? with
  | none => rfl
  | some n => rfl

end Date

namespace Instant

variable {s t u : Instant}

theorem lt_iff_rank : s < t ↔ s.rank < t.rank :=
  Iff.rfl

theorem le_iff_rank : s ≤ t ↔ s.rank ≤ t.rank :=
  Iff.rfl

/-- The number of an instant, written out. -/
theorem rank_eq (t : Instant) :
    t.rank = (t.date.ordinal * 86400 + t.second) * 2000000000 + t.nanos :=
  rfl

theorem le_refl (t : Instant) : t ≤ t :=
  Int.le_refl _

theorem le_trans (h : s ≤ t) (h' : t ≤ u) : s ≤ u :=
  Int.le_trans h h'

theorem lt_of_le_of_lt (h : s ≤ t) (h' : t < u) : s < u :=
  Int.lt_of_le_of_lt h h'

theorem lt_of_lt_of_le (h : s < t) (h' : t ≤ u) : s < u :=
  Int.lt_of_lt_of_le h h'

theorem le_of_lt (h : s < t) : s ≤ t :=
  Int.le_of_lt h

theorem not_lt : ¬ s < t ↔ t ≤ s :=
  Int.not_lt

theorem not_le : ¬ s ≤ t ↔ t < s :=
  Int.not_le

theorem le_antisymm (h : s ≤ t) (h' : t ≤ s) : s = t :=
  eq_of_rank_eq (Int.le_antisymm h h')

/-- The minute of the day. -/
theorem minute_lt (t : Instant) : t.second / 60 < 1440 := by
  have hlt := t.second_lt
  omega

theorem lt_of_ordinal_lt (h : s.date.ordinal < t.date.ordinal) : s < t := by
  have hs := s.second_lt
  have hs' := s.nanos_lt
  rw [lt_iff_rank, rank_eq, rank_eq]
  omega

theorem ordinal_le_of_le (h : s ≤ t) : s.date.ordinal ≤ t.date.ordinal := by
  by_contra hlt
  have hts : t < s := lt_of_ordinal_lt (by omega)
  rw [lt_iff_rank] at hts
  rw [le_iff_rank] at h
  omega

theorem second_le_of_le (h : s ≤ t) (hdate : s.date = t.date) : s.second ≤ t.second := by
  have hs' := s.nanos_lt
  have ht' := t.nanos_lt
  rw [le_iff_rank, rank_eq, rank_eq, hdate] at h
  omega

theorem year_le_of_le (h : s ≤ t) : s.date.year ≤ t.date.year := by
  by_contra hlt
  have hyear := Date.ordinal_lt_of_year_lt (d := t.date) (e := s.date) (by omega)
  have hle := ordinal_le_of_le h
  omega

/-- On the same date a whole second is later just if its number is greater. -/
theorem lt_iff_second_lt (hdate : s.date = t.date) (ht : t.nanos = 0) :
    s < t ↔ s.second < t.second := by
  have hs' := s.nanos_lt
  rw [lt_iff_rank, rank_eq, rank_eq, hdate, ht]
  omega

theorem le_iff_second_le (hdate : s.date = t.date) (hs : s.nanos = 0) (ht : t.nanos = 0) :
    s ≤ t ↔ s.second ≤ t.second := by
  rw [le_iff_rank, rank_eq, rank_eq, hdate, hs, ht]
  omega

/-! ## The next whole second -/

/-- The whole second after the one that the instant lies in, if there still are dates then. -/
def nextSecond? (t : Instant) : Option Instant :=
  t.wholeSecond.addSeconds? 1

/-- The parts of an instant some seconds later. -/
theorem addSeconds?_eq_some {seconds : Nat} (h : t.addSeconds? seconds = some u) :
    t.date.addDays? ((t.second + seconds) / 86400) = some u.date ∧
      u.second = (t.second + seconds) % 86400 ∧ u.nanos = t.nanos % 1000000000 := by
  unfold addSeconds? at h
  dsimp only at h
  split at h
  · next date hdate =>
    cases h
    exact ⟨hdate, rfl, rfl⟩
  · cases h

/-- The next whole second is on the same date, unless the date is over. -/
theorem nextSecond?_cases (h : t.nextSecond? = some u) : u.nanos = 0 ∧
    (u.date = t.date ∧ u.second = t.second + 1 ∨
      t.second = 86399 ∧ t.date.next? = some u.date ∧ u.second = 0) := by
  have hlt := t.second_lt
  obtain ⟨hdate, hsecond, hnanos⟩ := addSeconds?_eq_some h
  change t.date.addDays? ((t.second + 1) / 86400) = some u.date at hdate
  change u.second = (t.second + 1) % 86400 at hsecond
  refine ⟨hnanos, ?_⟩
  by_cases hlast : t.second = 86399
  · right
    rw [hlast] at hdate hsecond
    rw [show (86399 + 1) / 86400 = 1 from rfl, Date.addDays?_one] at hdate
    exact ⟨hlast, hdate, hsecond⟩
  · left
    rw [show (t.second + 1) / 86400 = 0 by omega, Date.addDays?_zero] at hdate
    constructor
    · exact (Option.some.inj hdate).symm
    · omega

/-- There is a next whole second if there is any later one. -/
theorem exists_nextSecond? {v : Instant} (hv : v.nanos = 0) (h : t < v) :
    ∃ u, t.nextSecond? = some u := by
  have hvsecond := v.second_lt
  have hexists : ∃ d, t.date.addDays? ((t.second + 1) / 86400) = some d := by
    by_cases hlast : t.second = 86399
    · rw [hlast, show (86399 + 1) / 86400 = 1 from rfl, Date.addDays?_one]
      rcases Int.lt_or_eq_of_le (ordinal_le_of_le (le_of_lt h)) with hord | hord
      · exact Date.exists_next?_of_lt hord
      · have hlt := (lt_iff_second_lt (Date.eq_of_ordinal_eq hord) hv).1 h
        omega
    · have hsecond := t.second_lt
      rw [show (t.second + 1) / 86400 = 0 by omega, Date.addDays?_zero]
      exact ⟨_, rfl⟩
  obtain ⟨d, hd⟩ := hexists
  unfold nextSecond? addSeconds?
  dsimp only
  split
  · exact ⟨_, rfl⟩
  · next hnone =>
    change t.date.addDays? ((t.second + 1) / 86400) = none at hnone
    rw [hd] at hnone
    cases hnone

theorem lt_nextSecond? (h : t.nextSecond? = some u) : t < u := by
  have hnanos := t.nanos_lt
  obtain ⟨-, ⟨hdate, hsecond⟩ | ⟨-, hnext, -⟩⟩ := nextSecond?_cases h
  · rw [lt_iff_rank, rank_eq, rank_eq, hdate, hsecond]
    push_cast
    omega
  · exact lt_of_ordinal_lt (Date.lt_next? hnext)

/-- No whole second lies between an instant and its next whole second. -/
theorem nextSecond?_le (h : t.nextSecond? = some u) {v : Instant} (hv : v.nanos = 0)
    (hlt : t < v) : u ≤ v := by
  have hvsecond := v.second_lt
  obtain ⟨hnanos, hcases⟩ := nextSecond?_cases h
  rcases Int.lt_or_eq_of_le (ordinal_le_of_le (le_of_lt hlt)) with hord | hord
  · rcases hcases with ⟨hdate, -⟩ | ⟨-, hnext, hsecond⟩
    · exact le_of_lt (lt_of_ordinal_lt (by rw [hdate]; exact hord))
    · have hle := Date.next?_le hnext hord
      rw [le_iff_rank, rank_eq, rank_eq, hnanos, hv, hsecond]
      omega
  · have hdate : t.date = v.date := Date.eq_of_ordinal_eq hord
    have hsecond := (lt_iff_second_lt hdate hv).1 hlt
    rcases hcases with ⟨hdate', hsecond'⟩ | ⟨hlast, -, -⟩
    · rw [le_iff_second_le (hdate'.trans hdate) hnanos hv]
      omega
    · omega

end Instant

end Ingestion
