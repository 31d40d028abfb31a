import Mathlib
import Ingestion.Cron.Expression
import Ingestion.Proofs.Cron.Occurrence
import Ingestion.Proofs.Plugin.Catalog
import Ingestion.Proofs.Time.Weekday
import Ingestion.Schedule.Engine

/-!
# What an expression asks for

The conditions of an expression, told from the texts of its fields and the calendar alone
(`FieldTexts.DueAt`): which values a field names, which dates are the last ones of a month, the n-th
or the last ones of a weekday or the workdays closest to a day, and how the fields of days and
weekdays go together. The schedule that is read from the expression is due at just these instants
(`Schedule.matches_iff_dueAt`), so that a search for its next occurrence finds the first of them
(`Schedule.next?_first_due`).
-/

namespace Ingestion.Cron

/-! ## Parts -/

/-- A computation that succeeds has succeeded in its first step. -/
theorem exists_of_bind_eq_ok {ε α β : Type} {x : Except ε α} {f : α → Except ε β} {b : β}
    (h : x >>= f = .ok b) : ∃ a, x = .ok a ∧ f a = .ok b := by
  cases x with
  | error e => cases h
  | ok a => exact ⟨a, rfl, h⟩

/-- Whatever a computation gives if it succeeds has a property. -/
def Yields {ε α : Type} (P : α → Prop) (x : Except ε α) : Prop :=
  ∀ a, x = .ok a → P a

namespace Yields

variable {ε α β : Type} {P : β → Prop}

theorem pure {b : β} (h : P b) : Yields P (Pure.pure b : Except ε β) := by
  rintro _ ⟨⟩
  exact h

theorem bind {x : Except ε α} {f : α → Except ε β} (h : ∀ a, Yields P (f a)) :
    Yields P (x >>= f) := by
  intro b hb
  obtain ⟨a, -, hb⟩ := exists_of_bind_eq_ok hb
  exact h a b hb

/-- What is refused under a condition and goes on otherwise. -/
theorem guard {c : Prop} [Decidable c] {e : ε} {next : PUnit → Except ε β}
    (h : Yields P (next ⟨⟩)) : Yields P (if c then throw e >>= next else next ⟨⟩) := by
  split
  · exact nofun
  · exact h

end Yields

namespace Part

variable {slot : Slot} {cs : List Char} {p : Part}

theorem marking_lastDay {mark : Mark} {values : List Nat} :
    Yields (·.lastDay = false) (marking slot mark values) := by
  unfold marking
  split
  · exact .pure rfl
  · exact nofun

theorem readStepped_lastDay : Yields (·.lastDay = false) (readStepped slot cs) := by
  unfold readStepped
  refine .bind fun mark => ?_
  split
  · refine .bind fun step => .guard ?_
    -- However the ends of the range are read, the rest is the same.
    have hrest : ∀ start stop, Yields (·.lastDay = false) (do
        if start < slot.least ∨ slot.greatest < stop ∨ stop < start then throw .stepOutOfBounds
        let part ← marking slot mark []
        return { part with values := ← steps start stop step }) := by
      intro start stop
      refine .guard fun p hp => ?_
      obtain ⟨part, hpart, hp⟩ := exists_of_bind_eq_ok hp
      obtain ⟨values, -, hp⟩ := exists_of_bind_eq_ok hp
      cases hp
      exact marking_lastDay part hpart
    split_ifs
    · exact .bind fun (start, stop) => hrest start stop
    · split
      · exact .bind fun a => .bind fun b => .bind fun (start, stop) => hrest start stop
      · exact nofun
    · exact .bind fun a => .bind fun (start, stop) => hrest start stop
  · exact nofun

theorem readRange_lastDay : Yields (·.lastDay = false) (readRange slot cs) := by
  unfold readRange
  refine .bind fun mark => ?_
  split
  · exact .bind fun start => .bind fun stop => .guard marking_lastDay
  · exact nofun

theorem readClosest_lastDay : Yields (·.lastDay = false) (readClosest slot cs) :=
  .bind fun _ => .guard marking_lastDay

theorem readValue_lastDay : Yields (·.lastDay = false) (readValue slot cs) := by
  unfold readValue
  exact .guard (.guard (.bind fun mark => .bind fun value => .guard marking_lastDay))

/-- Only the part `l` asks for the last day of the month. It names no value. -/
theorem read_lastDay_iff (h : read slot cs = .ok p) : p.lastDay = true ↔ cs = ['l'] := by
  unfold read at h
  split_ifs at h with hslash hhyphen hclosest hlast
  · have hne : cs ≠ ['l'] := by
      rintro rfl
      exact absurd hslash (by decide)
    simp [readStepped_lastDay p h, hne]
  · have hne : cs ≠ ['l'] := by
      rintro rfl
      exact absurd hhyphen (by decide)
    simp [readRange_lastDay p h, hne]
  · have hne : cs ≠ ['l'] := by
      rintro rfl
      exact absurd hclosest (by decide)
    simp [readClosest_lastDay p h, hne]
  · cases h
    simp [hlast]
  · simp [readValue_lastDay p h, hlast]

end Part

/-! ## Fields -/

/-- The text of a field gives a mark to a value: it is `*` and names every value of the field, or
one of its parts does. -/
def Gives (slot : Slot) (text : List Char) (value : Nat) (mark : Mark) : Prop :=
  if text = ['*'] then (slot.least ≤ value ∧ value ≤ slot.greatest) ∧ mark = .all
  else ∃ piece ∈ Text.splitAt ',' text, piece ≠ [] ∧
    ∃ p, Part.read slot piece = .ok p ∧ value ∈ p.values ∧ p.mark = mark

/-- The results of a traversal that succeeds are those of the elements. -/
theorem mem_of_mapM_eq_ok_iff {α β ε : Type} {f : α → Except ε β} {xs : List α} {ys : List β}
    (h : xs.mapM f = .ok ys) {y : β} : y ∈ ys ↔ ∃ x ∈ xs, f x = .ok y := by
  replace h := mapM_eq_ok_iff.1 h
  induction h with
  | nil => simp
  | cons hxy _ ih => simp [ih, hxy, eq_comm]

namespace Field

variable {slot : Slot} {text : List Char} {f : Field}

/-- A field whose text is not `*` is made of parts, one for each piece of the text that is not
empty. -/
theorem exists_parts_of_read (htext : text ≠ ['*']) (h : read slot text = .ok f) :
    ∃ parts, ofParts parts = f ∧ ∀ p, p ∈ parts ↔
      ∃ piece ∈ Text.splitAt ',' text, piece ≠ [] ∧ Part.read slot piece = .ok p := by
  unfold read at h
  rw [if_neg htext] at h
  cases hparts : ((Text.splitAt ',' text).filter fun p => !p.isEmpty).mapM (Part.read slot) with
  | error e =>
    rw [hparts] at h
    cases h
  | ok parts =>
    rw [hparts] at h
    refine ⟨parts, Except.ok.inj h, fun p => ?_⟩
    simp [mem_of_mapM_eq_ok_iff hparts, and_assoc]

/-- A field that has been read has the marks that its text gives. -/
theorem has_iff_gives (h : read slot text = .ok f) {value : Nat} {mark : Mark} :
    f.has value mark = true ↔ Gives slot text value mark := by
  unfold Gives has
  rw [List.contains_iff_mem]
  split
  · next htext =>
    rw [read, if_pos htext] at h
    cases h
    simp only [values, List.mem_map, List.mem_range'_1, Prod.mk.injEq]
    constructor
    · rintro ⟨v, hv, rfl, rfl⟩
      exact ⟨by omega, rfl⟩
    · rintro ⟨hvalue, rfl⟩
      exact ⟨value, by omega, rfl, rfl⟩
  · next htext =>
    obtain ⟨parts, rfl, hparts⟩ := exists_parts_of_read htext h
    simp only [ofParts, List.mem_flatMap, List.mem_map, Prod.mk.injEq, hparts]
    constructor
    · rintro ⟨p, ⟨piece, hpiece, hne, hp⟩, v, hv, rfl, rfl⟩
      exact ⟨piece, hpiece, hne, p, hp, hv, rfl⟩
    · rintro ⟨piece, hpiece, hne, p, hp, hv, rfl⟩
      exact ⟨p, ⟨piece, hpiece, hne, hp⟩, value, hv, rfl, rfl⟩

/-- A field that has been read asks for the last day of the month if `l` is one of its parts. -/
theorem lastDay_iff (h : read slot text = .ok f) :
    f.lastDay = true ↔ ['l'] ∈ Text.splitAt ',' text := by
  by_cases htext : text = ['*']
  · rw [read, if_pos htext] at h
    cases h
    subst htext
    simp [Text.splitAt]
  · obtain ⟨parts, rfl, hparts⟩ := exists_parts_of_read htext h
    simp only [ofParts, List.any_eq_true, hparts]
    constructor
    · rintro ⟨p, ⟨piece, hpiece, -, hp⟩, hlast⟩
      rw [← (Part.read_lastDay_iff hp).1 hlast]
      exact hpiece
    · intro hpiece
      have hlast : Part.read slot ['l'] = .ok { values := [], mark := .last, lastDay := true } :=
        rfl
      exact ⟨_, ⟨_, hpiece, by decide, hlast⟩, rfl⟩

end Field

/-! ## The conditions of an expression -/

/-- The texts of the five fields of an expression, with numbers in place of names. -/
structure FieldTexts where
  minute : List Char
  hour : List Char
  day : List Char
  month : List Char
  weekday : List Char

namespace FieldTexts

/-- The texts of the fields of an expression, if there are five. -/
def of? (expression : String) : Option FieldTexts :=
  match Text.fields (normalize expression.toList) with
  | [minute, hour, day, month, weekday] => some { minute, hour, day, month, weekday }
  | _ => none

/-- The field of days asks for a date: for its day, for the last day of the month, or for the
workday closest to some date. -/
def OnDay (x : FieldTexts) (d : Date) : Prop :=
  Gives .day x.day d.day .all ∨ ['l'] ∈ Text.splitAt ',' x.day ∧ d.IsLastOfMonth ∨
    ∃ c : Date, Gives .day x.day c.day .closest ∧ d.IsClosestWorkday c

/-- The field of weekdays asks for a date: for its weekday, or for the n-th or the last date of the
month that falls on it. Sunday is 0 and can also be written 7, but not to ask for the last one. -/
def OnWeekday (x : FieldTexts) (d : Date) : Prop :=
  (∃ w, (w = d.weekday ∨ w = 7 ∧ d.weekday = 0) ∧
      (Gives .weekday x.weekday w .all ∨ Gives .weekday x.weekday w (.nth d.nthOfWeekday))) ∨
    Gives .weekday x.weekday d.weekday .last ∧ d.IsLastOfWeekday

/-- The fields of days and weekdays together ask for a date. If one of them is `*`, the other one
decides; otherwise it is enough that one of them asks for the date. -/
def OnDate (x : FieldTexts) (d : Date) : Prop :=
  if x.day = ['*'] then x.OnWeekday d
  else if x.weekday = ['*'] then x.OnDay d
  else x.OnDay d ∨ x.OnWeekday d

/-- The expression asks for an instant: a whole minute whose minute, hour, month and date its fields
name. -/
structure DueAt (x : FieldTexts) (t : Instant) : Prop where
  nanos_eq : t.nanos = 0
  second_eq : t.second % 60 = 0
  minute : Gives .minute x.minute (t.second / 60 % 60) .all
  hour : Gives .hour x.hour (t.second / 3600) .all
  month : Gives .month x.month t.date.month .all
  date : x.OnDate t.date

end FieldTexts

/-! ## What the schedule makes of them -/

theorem read_eq_ok_iff {expression : String} {s : Schedule} :
    Cron.read expression = .ok s ↔ Schedule.read expression = .ok s := by
  unfold Cron.read
  cases Schedule.read expression with
  | error fault => exact ⟨nofun, nofun⟩
  | ok s' => simp only [Except.ok.injEq]

namespace Schedule

variable {expression : String} {s : Schedule} {x : FieldTexts} {d : Date} {t u v : Instant}

/-- A schedule has the fields of an expression. -/
structure Of (x : FieldTexts) (s : Schedule) : Prop where
  minutes : Field.read .minute x.minute = .ok s.minutes
  hours : Field.read .hour x.hour = .ok s.hours
  days : Field.read .day x.day = .ok s.days
  months : Field.read .month x.month = .ok s.months
  weekdays : Field.read .weekday x.weekday = .ok s.weekdays
  anyDay : s.anyDay = (x.day == ['*'])
  anyWeekday : s.anyWeekday = (x.weekday == ['*'])

theorem readField_eq_ok {slot : Slot} {text : List Char} {f : Field}
    (h : readField slot text = .ok f) : Field.read slot text = .ok f := by
  unfold readField at h
  split at h
  · next hf =>
    cases h
    exact hf
  · cases h

/-- A schedule that has been read has the fields of its expression. -/
theorem exists_of_read (h : Cron.read expression = .ok s) :
    ∃ x, FieldTexts.of? expression = some x ∧ Of x s := by
  have hpattern : ofPattern (normalize expression.toList) = .ok s := by
    rw [read_eq_ok_iff, read] at h
    split_ifs at h
    exact h
  unfold ofPattern at hpattern
  rw [FieldTexts.of?]
  split at hpattern
  · next minute hour day month weekday hfields =>
    obtain ⟨minutes, hminutes, hpattern⟩ := exists_of_bind_eq_ok hpattern
    obtain ⟨hours, hhours, hpattern⟩ := exists_of_bind_eq_ok hpattern
    obtain ⟨days, hdays, hpattern⟩ := exists_of_bind_eq_ok hpattern
    obtain ⟨months, hmonths, hpattern⟩ := exists_of_bind_eq_ok hpattern
    obtain ⟨weekdays, hweekdays, hpattern⟩ := exists_of_bind_eq_ok hpattern
    obtain rfl := Except.ok.inj hpattern
    rw [hfields]
    exact ⟨_, rfl, readField_eq_ok hminutes, readField_eq_ok hhours, readField_eq_ok hdays,
      readField_eq_ok hmonths, readField_eq_ok hweekdays, rfl, rfl⟩
  · cases hpattern
  · cases hpattern

theorem isWorkday_iff : isWorkday d = true ↔ d.IsWorkday := by
  simp [isWorkday, Date.IsWorkday]

/-- The mark for the closest workday matches the workdays closest to the dates of its day. -/
theorem Of.matchesClosest_iff (h : Of x s) : s.matchesClosest d = true ↔
    ∃ c : Date, Gives .day x.day c.day .closest ∧ d.IsClosestWorkday c := by
  simp only [matchesClosest, Bool.and_eq_true, Bool.or_eq_true, Option.any_eq_true, beq_iff_eq,
    isWorkday_iff, Field.has_iff_gives h.days, Date.isClosestWorkday_iff,
    Date.previous?_eq_some_iff, Date.next?_eq_some_iff]
  constructor
  · rintro ⟨hworkday, (hday | ⟨p, hp, hsunday, hday⟩) | ⟨n, hn, hsaturday, hday⟩⟩
    · exact ⟨d, hday, hworkday, .inl rfl⟩
    · exact ⟨p, hday, hworkday, .inr (.inl ⟨hsunday, hp.symm⟩)⟩
    · exact ⟨n, hday, hworkday, .inr (.inr ⟨hsaturday, hn.symm⟩)⟩
  · rintro ⟨c, hday, hworkday, rfl | ⟨hsunday, hc⟩ | ⟨hsaturday, hc⟩⟩
    · exact ⟨hworkday, .inl (.inl hday)⟩
    · exact ⟨hworkday, .inl (.inr ⟨c, hc.symm, hsunday, hday⟩)⟩
    · exact ⟨hworkday, .inr ⟨c, hc.symm, hsaturday, hday⟩⟩

theorem Of.matchesDay_iff (h : Of x s) : s.matchesDay d = true ↔ x.OnDay d := by
  simp only [matchesDay, FieldTexts.OnDay, Bool.or_eq_true, Bool.and_eq_true, beq_iff_eq,
    Field.has_iff_gives h.days, Field.lastDay_iff h.days, h.matchesClosest_iff,
    Date.isLastOfMonth_iff, or_assoc]

theorem Of.hasWeekday_iff (h : Of x s) {mark : Mark} (hmark : mark ≠ .last) :
    s.hasWeekday d.weekday mark = true ↔
      ∃ w, (w = d.weekday ∨ w = 7 ∧ d.weekday = 0) ∧ Gives .weekday x.weekday w mark := by
  simp only [hasWeekday, Bool.or_eq_true, Bool.and_eq_true, beq_iff_eq, bne_iff_ne,
    Field.has_iff_gives h.weekdays]
  constructor
  · rintro (hgives | ⟨⟨hsunday, -⟩, hgives⟩)
    · exact ⟨_, .inl rfl, hgives⟩
    · exact ⟨7, .inr ⟨rfl, hsunday⟩, hgives⟩
  · rintro ⟨w, rfl | ⟨rfl, hsunday⟩, hgives⟩
    · exact .inl hgives
    · exact .inr ⟨⟨hsunday, hmark⟩, hgives⟩

theorem Of.matchesWeekday_iff (h : Of x s) : s.matchesWeekday d = true ↔ x.OnWeekday d := by
  have hlast : s.hasWeekday d.weekday .last = true ↔ Gives .weekday x.weekday d.weekday .last := by
    simp [hasWeekday, Field.has_iff_gives h.weekdays]
  simp only [matchesWeekday, FieldTexts.OnWeekday, Bool.or_eq_true, Bool.and_eq_true,
    decide_eq_true_eq, ← Date.nthOfWeekday_eq, h.hasWeekday_iff (show Mark.all ≠ .last by decide),
    h.hasWeekday_iff (show Mark.nth d.nthOfWeekday ≠ .last by simp), hlast,
    Date.isLastOfWeekday_iff]
  refine or_congr_left ⟨?_, ?_⟩
  · rintro (⟨w, hw, hgives⟩ | ⟨w, hw, hgives⟩)
    · exact ⟨w, hw, .inl hgives⟩
    · exact ⟨w, hw, .inr hgives⟩
  · rintro ⟨w, hw, hgives | hgives⟩
    · exact .inl ⟨w, hw, hgives⟩
    · exact .inr ⟨w, hw, hgives⟩

/-- The field `*` of weekdays asks for every date. -/
theorem onWeekday_of_any (h : x.weekday = ['*']) (d : Date) : x.OnWeekday d := by
  have hlt := d.weekday_lt
  refine .inl ⟨d.weekday, .inl rfl, .inl ?_⟩
  rw [Gives, if_pos h]
  exact ⟨⟨Nat.zero_le _, by show d.weekday ≤ 7; omega⟩, rfl⟩

theorem Of.matchesDate_iff (h : Of x s) : s.matchesDate d = true ↔ x.OnDate d := by
  simp only [matchesDate, FieldTexts.OnDate, Bool.or_eq_true, Bool.and_eq_true,
    Bool.not_eq_true', h.matchesDay_iff, h.matchesWeekday_iff, h.anyDay, h.anyWeekday]
  by_cases hday : x.day = ['*'] <;> by_cases hweekday : x.weekday = ['*']
  · simp [hday, hweekday, onWeekday_of_any hweekday d]
  · simp [hday, hweekday]
  · simp [hday, hweekday]
  · simp [hday, hweekday]

/-- The schedule that is read from an expression is due when the expression asks for it. -/
theorem Of.matches_iff_dueAt (h : Of x s) : s.Matches t ↔ x.DueAt t := by
  have htime : s.matchesTime (t.second / 60) = true ↔
      Gives .hour x.hour (t.second / 3600) .all ∧
        Gives .minute x.minute (t.second / 60 % 60) .all := by
    rw [matchesTime, Bool.and_eq_true, Field.has_iff_gives h.hours, Field.has_iff_gives h.minutes,
      Nat.div_div_eq_div_mul]
  constructor
  · rintro ⟨hnanos, hsecond, hminute, hmonth, hdate⟩
    obtain ⟨hhour, hminute⟩ := htime.1 hminute
    exact ⟨hnanos, hsecond, hminute, hhour, (Field.has_iff_gives h.months).1 hmonth,
      h.matchesDate_iff.1 hdate⟩
  · rintro ⟨hnanos, hsecond, hminute, hhour, hmonth, hdate⟩
    exact ⟨hnanos, hsecond, htime.2 ⟨hhour, hminute⟩, (Field.has_iff_gives h.months).2 hmonth,
      h.matchesDate_iff.2 hdate⟩

/-! ## The search for the next occurrence -/

/-- Let an expression be accepted. From any instant on a search gives either the first later instant
that the expression asks for, or nothing. It gives one whenever the expression asks for a later
instant before the year 5000. -/
theorem next?_first_due (h : Cron.read expression = .ok s) :
    ∃ x, FieldTexts.of? expression = some x ∧ ∀ t,
      (∀ u, s.next? t = some u → t < u ∧ x.DueAt u ∧ ∀ v, t < v → v < u → ¬ x.DueAt v) ∧
      ((∃ v, t < v ∧ v.date.year < 5000 ∧ x.DueAt v) → ∃ u, s.next? t = some u) := by
  obtain ⟨x, hx, hof⟩ := exists_of_read h
  refine ⟨x, hx, fun t => ⟨?_, ?_⟩⟩
  · intro u hu
    have hnext := isNext_of_next? hu
    refine ⟨hnext.later, hof.matches_iff_dueAt.1 hnext.due, ?_⟩
    intro v htv hvu hv
    exact Instant.not_le.2 hvu (hnext.first v (hof.matches_iff_dueAt.2 hv) htv)
  · rintro ⟨v, htv, hyear, hv⟩
    have htyear := Instant.year_le_of_le (Instant.le_of_lt htv)
    have hlimit : limitYear = 5000 := rfl
    exact exists_next?_of_matches (by omega) (hof.matches_iff_dueAt.2 hv) htv
      (ordinal_le_lastDate_iff.2 (.inl (by omega)))

end Schedule

/-! ## Half past nine on the workday closest to the 15th -/

namespace Sample

/-- Half past nine on the workday closest to the 15th, on the last day and on the last Monday of
every month. -/
def midmonth : String :=
  "30 9 15W,L * MONL"

/-- The schedule of this expression. -/
def midmonthSchedule : Schedule where
  pattern := "30 9 15w,l * 1l"
  minutes := { marks := [(30, .all)], lastDay := false }
  hours := { marks := [(9, .all)], lastDay := false }
  days := { marks := [(15, .closest)], lastDay := true }
  months := { marks := (Field.values .month).map fun m => (m, .all), lastDay := false }
  weekdays := { marks := [(1, .last)], lastDay := false }
  anyDay := false
  anyWeekday := false

/-- The beginning of June 2024. -/
def june : Instant :=
  .midnight ⟨2024, 6, 1, by decide⟩

/-- Half past nine on the 14th of June, the Friday before a Saturday. -/
def fourteenth : Instant :=
  .ofSecond ⟨2024, 6, 14, by decide⟩ 34200 (by decide)

end Sample

theorem Schedule.midmonth_first_due : ∃ x, FieldTexts.of? Sample.midmonth = some x ∧
    x.DueAt Sample.fourteenth ∧
    ∀ v, Sample.june < v → v < Sample.fourteenth → ¬ x.DueAt v := by
  have hread : Cron.read Sample.midmonth = .ok Sample.midmonthSchedule := by decide +kernel
  have hnext : Sample.midmonthSchedule.next? Sample.june = some Sample.fourteenth := by
    decide +kernel
  obtain ⟨x, hx, hsearch⟩ := next?_first_due hread
  obtain ⟨-, hdue, hfirst⟩ := (hsearch Sample.june).1 _ hnext
  exact ⟨x, hx, hdue, hfirst⟩

end Ingestion.Cron
