import Mathlib
import Ingestion.Proofs.Cron.Occurrence
import Ingestion.Schedule.Engine

/-!
# Laws of the cron engine

What each operation does to the entries. An entry that has been registered waits for the first
instant of its schedule after some reading of the clock, and the timer fires it when the clock has
come to that instant.

The timer sleeps until the earliest instant that an entry waits for
(`Engine.wakeTime?_le_iff`). So it misses nothing: a timer that runs and sees the clock fires
exactly the entries that are due (`Engine.wake_of_running`).
-/

namespace Ingestion

variable {J : Type}

namespace Entry

variable {e : Entry J} {now now' : Instant}

theorem isDue_iff : e.isDue now = true ↔ ∃ u, e.nextFire = some u ∧ u ≤ now := by
  rw [isDue, Option.any_eq_true]
  constructor
  · rintro ⟨u, hu, hle⟩
    exact ⟨u, hu, of_decide_eq_true hle⟩
  · rintro ⟨u, hu, hle⟩
    exact ⟨u, hu, decide_eq_true hle⟩

/-- The schedule of an entry is the one that its expression is read as, and the entry is due at the
first instant of it after a reading of the clock that is not later than `now`. -/
structure Waits (e : Entry J) (now : Instant) : Prop where
  read : Cron.read e.expression = .ok e.schedule
  since : ∃ a ≤ now, e.nextFire = e.schedule.next? a

theorem Waits.mono (h : e.Waits now) (hle : now ≤ now') : e.Waits now' := by
  obtain ⟨a, ha, hnext⟩ := h.since
  exact ⟨h.read, a, Instant.le_trans ha hle, hnext⟩

theorem Waits.reschedule (h : e.Waits now) (now' : Instant) : (e.reschedule now').Waits now' :=
  ⟨h.read, now', Instant.le_refl now', rfl⟩

/-- An entry waits for an instant at which its schedule is due. -/
theorem Waits.due (h : e.Waits now) {u : Instant} (hu : e.nextFire = some u) :
    e.schedule.Matches u := by
  obtain ⟨a, -, hnext⟩ := h.since
  rw [hu] at hnext
  exact (Cron.Schedule.isNext_of_next? hnext.symm).due

/-- What an entry waits for is what a search from the clock on gives, as long as it lies ahead. -/
theorem Waits.next?_eq (h : e.Waits now) {u : Instant} (hu : e.nextFire = some u)
    (hle : now ≤ now') (hlt : now' < u) : e.schedule.next? now' = some u := by
  obtain ⟨a, ha, hnext⟩ := h.since
  rw [hu] at hnext
  exact Cron.Schedule.next?_eq_of_between hnext.symm (Instant.le_trans ha hle) hlt

end Entry

namespace Engine

variable {e e' : Engine J} {now : Instant}

/-! ## Registration -/

theorem add_eq_ok_iff {expression : String} {job : J} :
    e.add now expression job = .ok e' ↔
      ∃ schedule next, Cron.read expression = .ok schedule ∧ schedule.next? now = some next ∧
        e' = { e with
          entries := e.entries ++ [⟨e.lastId + 1, expression, schedule, job, some next⟩]
          lastId := e.lastId + 1 } := by
  unfold add
  cases hread : Cron.read expression with
  | error source =>
    constructor
    · intro h
      cases h
    · rintro ⟨schedule, next, hread', -⟩
      cases hread'
  | ok schedule =>
    cases hnext : schedule.next? now with
    | none =>
      constructor
      · intro h
        simp [hnext, bind, Except.bind, throw, throwThe, MonadExceptOf.throw] at h
      · rintro ⟨schedule', next, hread', hnext', -⟩
        cases hread'
        rw [hnext] at hnext'
        cases hnext'
    | some next =>
      simp only [bind, Except.bind, hnext, pure, Except.pure, Except.ok.injEq]
      constructor
      · rintro rfl
        exact ⟨schedule, next, rfl, hnext, rfl⟩
      · rintro ⟨schedule', next', rfl, hnext', rfl⟩
        rw [hnext] at hnext'
        cases hnext'
        rfl

/-! ## The entries after each operation -/

variable {entry : Entry J}

theorem mem_remove {id : Nat} :
    entry ∈ (e.remove id).entries ↔ entry ∈ e.entries ∧ entry.id ≠ id := by
  rw [remove, List.mem_filter, bne_iff_ne]

theorem mem_due : entry ∈ e.due now ↔ entry ∈ e.entries ∧ entry.isDue now = true :=
  List.mem_filter

/-- After the timer has fired what is due, an entry is as before if it was not due, and else due
again after the clock. -/
theorem mem_fireDue : entry ∈ (e.fireDue now).entries ↔
    entry ∈ e.entries ∧ entry.isDue now = false ∨
      ∃ old ∈ e.due now, entry = old.reschedule now := by
  rw [fireDue, List.mem_map]
  constructor
  · rintro ⟨old, hold, rfl⟩
    cases hdue : old.isDue now with
    | false => exact .inl ⟨by simpa using hold, by simpa using hdue⟩
    | true => exact .inr ⟨old, mem_due.2 ⟨hold, hdue⟩, rfl⟩
  · rintro (⟨hentry, hdue⟩ | ⟨old, hold, rfl⟩)
    · exact ⟨entry, hentry, if_neg (by rw [hdue]; decide)⟩
    · obtain ⟨hmem, hdue⟩ := mem_due.1 hold
      exact ⟨old, hmem, if_pos hdue⟩

/-- If nothing is due, nothing is changed. -/
theorem fireDue_of_due_eq_nil (h : e.due now = []) : e.fireDue now = e := by
  have hnone : ∀ old ∈ e.entries, ¬ old.isDue now = true := List.filter_eq_nil_iff.1 h
  have hmap : (e.entries.map fun old => if old.isDue now then old.reschedule now else old) =
      e.entries := by
    rw [List.map_congr_left fun old hold => if_neg (hnone old hold), List.map_id']
  rw [fireDue, hmap]

/-! ## What is registered -/

/-- The numbers, schedules and jobs of the entries. -/
def table (e : Engine J) : List (Nat × Cron.Schedule × J) :=
  e.entries.map fun entry => (entry.id, entry.schedule, entry.job)

theorem mem_table {e : Engine J} {id : Nat} {schedule : Cron.Schedule} {job : J} :
    (id, schedule, job) ∈ e.table ↔
      ∃ entry ∈ e.entries, entry.id = id ∧ entry.schedule = schedule ∧ entry.job = job := by
  simp only [table, List.mem_map, Prod.mk.injEq]

/-- A job that is registered gets the last number that has been given out. -/
theorem table_add {expression : String} {job : J} {schedule : Cron.Schedule}
    (h : e.add now expression job = .ok e') (hread : Cron.read expression = .ok schedule) :
    e'.table = e.table ++ [(e'.lastId, schedule, job)] := by
  obtain ⟨schedule', next, hread', -, rfl⟩ := add_eq_ok_iff.1 h
  rw [hread] at hread'
  cases hread'
  rw [table, table, List.map_append]
  rfl

theorem mem_table_remove {id : Nat} {x : Nat × Cron.Schedule × J} :
    x ∈ (e.remove id).table ↔ x ∈ e.table ∧ x.1 ≠ id := by
  simp only [table, List.mem_map, mem_remove]
  constructor
  · rintro ⟨entry, ⟨hentry, hid⟩, rfl⟩
    exact ⟨⟨entry, hentry, rfl⟩, hid⟩
  · rintro ⟨⟨entry, hentry, rfl⟩, hid⟩
    exact ⟨entry, ⟨hentry, hid⟩, rfl⟩

theorem table_start (e : Engine J) (now : Instant) : (e.start now).table = e.table := by
  unfold start
  split
  · rfl
  · rw [table, table, List.map_map]
    rfl

theorem table_fireDue (e : Engine J) (now : Instant) : (e.fireDue now).table = e.table := by
  rw [table, table, fireDue, List.map_map]
  refine List.map_congr_left fun entry _ => ?_
  rw [Function.comp_apply]
  split <;> rfl

/-! ## The timer -/

/-- The earlier one of an instant and the one that an entry waits for, where there may be none. -/
def earlier? (earliest : Option Instant) (entry : Entry J) : Option Instant :=
  match earliest, entry.nextFire with
  | some a, some b => if b < a then some b else some a
  | none, next => next
  | some a, none => some a

theorem earlier?_le_iff {earliest : Option Instant} :
    (∃ w, earlier? earliest entry = some w ∧ w ≤ now) ↔
      (∃ a, earliest = some a ∧ a ≤ now) ∨ entry.isDue now = true := by
  rw [Entry.isDue_iff]
  cases earliest with
  | none =>
    constructor
    · exact .inr
    · rintro (⟨a, ha, -⟩ | hdue)
      · cases ha
      · exact hdue
  | some a =>
    cases hnext : entry.nextFire with
    | none => simp [earlier?, hnext]
    | some b =>
      have hearlier : earlier? (some a) entry = if b < a then some b else some a := by
        simp only [earlier?, hnext]
      simp only [hearlier, Instant.lt_iff_rank, Instant.le_iff_rank]
      constructor
      · rintro ⟨w, hw, hle⟩
        split at hw
        · exact .inr ⟨w, hw, hle⟩
        · exact .inl ⟨w, hw, hle⟩
      · rintro (⟨w, hw, hle⟩ | ⟨w, hw, hle⟩) <;> cases hw
        · split
          · exact ⟨b, rfl, by omega⟩
          · exact ⟨a, rfl, hle⟩
        · split
          · exact ⟨b, rfl, hle⟩
          · exact ⟨a, rfl, by omega⟩

/-- The sleep of the timer is over just when some entry is due. -/
theorem wakeTime?_le_iff :
    (∃ w, e.wakeTime? = some w ∧ w ≤ now) ↔ ∃ entry ∈ e.entries, entry.isDue now = true := by
  have hfold : ∀ (entries : List (Entry J)) (earliest : Option Instant),
      (∃ w, entries.foldl earlier? earliest = some w ∧ w ≤ now) ↔
        (∃ a, earliest = some a ∧ a ≤ now) ∨ ∃ entry ∈ entries, entry.isDue now = true := by
    intro entries
    induction entries with
    | nil =>
      intro earliest
      simp
    | cons entry rest ih =>
      intro earliest
      rw [List.foldl_cons, ih, earlier?_le_iff, List.exists_mem_cons_iff, or_assoc]
  have hwake : (∃ w, e.wakeTime? = some w ∧ w ≤ now) ↔ _ := hfold e.entries none
  rw [hwake]
  constructor
  · rintro (⟨a, ha, -⟩ | hdue)
    · cases ha
    · exact hdue
  · exact .inr

/-- No entry is due before the timer wakes up. -/
theorem wakeTime?_le {w u : Instant} (hw : e.wakeTime? = some w) (hentry : entry ∈ e.entries)
    (hu : entry.nextFire = some u) : w ≤ u := by
  obtain ⟨w', hw', hle⟩ := wakeTime?_le_iff.2
    ⟨entry, hentry, Entry.isDue_iff.2 ⟨u, hu, Instant.le_refl u⟩⟩
  rw [hw] at hw'
  cases hw'
  exact hle

/-- If an entry waits for an instant, the timer wakes up at some time. -/
theorem exists_wakeTime? {u : Instant} (hentry : entry ∈ e.entries)
    (hu : entry.nextFire = some u) : ∃ w, e.wakeTime? = some w := by
  obtain ⟨w, hw, -⟩ := wakeTime?_le_iff.2
    ⟨entry, hentry, Entry.isDue_iff.2 ⟨u, hu, Instant.le_refl u⟩⟩
  exact ⟨w, hw⟩

/-- A timer that runs and sees the clock fires exactly what is due. -/
theorem wake_of_running (h : e.isRunning = true) : e.wake now = (e.due now, e.fireDue now) := by
  rw [wake, h, Bool.true_and]
  split
  · rfl
  · next hsleep =>
    -- The sleep is not over, so nothing is due and nothing would be fired.
    have hdue : e.due now = [] := by
      rw [due, List.filter_eq_nil_iff]
      intro entry hentry hdue
      obtain ⟨w, hw, hle⟩ := wakeTime?_le_iff.2 ⟨entry, hentry, hdue⟩
      rw [hw, Option.any_some, decide_eq_true hle] at hsleep
      exact hsleep rfl
    rw [hdue, fireDue_of_due_eq_nil hdue]

theorem table_wake (e : Engine J) (now : Instant) : (e.wake now).2.table = e.table := by
  unfold wake
  split
  · exact table_fireDue e now
  · rfl

theorem isRunning_wake (e : Engine J) (now : Instant) : (e.wake now).2.isRunning = e.isRunning := by
  cases h : e.isRunning with
  | false =>
    rw [wake, h, Bool.false_and]
    exact h
  | true =>
    rw [wake_of_running h]
    exact h

theorem wake_of_stopped (h : e.isRunning = false) : e.wake now = ([], e) := by
  rw [wake, h, Bool.false_and]
  rfl

end Engine

end Ingestion
