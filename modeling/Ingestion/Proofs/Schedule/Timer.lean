import Mathlib
import Ingestion.Proofs.Schedule.Engine

/-!
# The timer

The timer of an engine is a task of its own. It looks for the earliest instant that an entry waits
for, sleeps until then, fires what is due, and looks again. It is told when entries are added or
removed while it sleeps, and looks again then. Time moves on only when the task has nothing left to
do: it has looked since it was told, and its sleep does not end before.

While it runs, all entries wait for the next instant at which their schedules are due
(`Timer.Sound`). So between two readings of the clock no schedule is due but at the second one, and
what is fired then are the entries whose schedules are (`Timer.Sound.mem_fired_iff`).
-/

namespace Ingestion

variable {J : Type}

/-- An engine with its clock and the task that is its timer. -/
structure Timer (J : Type) where
  engine : Engine J := {}
  clock : Instant
  /-- The instant until which the task sleeps, if it waits for one. -/
  sleep : Option Instant := none
  /-- The task is to look at the entries, and has not done so yet. -/
  told : Bool := false

namespace Timer

/-- A call of the engine, or something that happens to its timer. -/
inductive Action (J : Type) where
  | add (expression : String) (job : J)
  | remove (id : Nat)
  | start
  | stop
  /-- The task wakes up at the present reading of the clock. -/
  | wake
  /-- The clock moves on. -/
  | pass (now : Instant)

/-- The task wakes up: it fires what is due, and sleeps until an entry is due again. There is no
task while the timer is stopped. -/
def wake (t : Timer J) : List (Entry J) × Timer J :=
  if t.engine.isRunning then
    let woken := t.engine.wake t.clock
    (woken.1, { t with engine := woken.2, sleep := woken.2.wakeTime?, told := false })
  else ([], t)

/-- The clock can move on to an instant if the task has nothing left to do and its sleep is not
over before. -/
def canPass (t : Timer J) (now : Instant) : Bool :=
  decide (t.clock ≤ now) &&
    (!t.engine.isRunning || (!t.told && t.sleep.all fun w => decide (now ≤ w)))

/-- What an action fires, and what it makes of the timer. Time does not move on while the task has
something left to do. -/
def step (t : Timer J) : Action J → Option (List (Entry J) × Timer J)
  | .add expression job =>
    match t.engine.add t.clock expression job with
    | .ok engine => some ([], { t with engine, told := true })
    | .error _ => some ([], t)
  | .remove id => some ([], { t with engine := t.engine.remove id, told := true })
  | .start =>
    if t.engine.isRunning then some ([], t)
    else some ([], { t with engine := t.engine.start t.clock, sleep := none, told := true })
  | .stop => some ([], { t with engine := t.engine.stop, sleep := none })
  | .wake => some t.wake
  | .pass now =>
    if t.canPass now then
      let later := { t with clock := now }
      if t.engine.isRunning && t.sleep.any (· ≤ now) then some later.wake else some ([], later)
    else none

variable {t t' : Timer J} {a : Action J} {fired : List (Entry J)} {e : Entry J} {now : Instant}

/-! ## What an action changes -/

/-- A call registers a job: it gets a number and runs by the schedule that its expression is read
as. -/
def Registers (t : Timer J) (a : Action J) (id : Nat) (schedule : Cron.Schedule) (job : J) : Prop :=
  ∃ expression engine, a = .add expression job ∧ Cron.read expression = .ok schedule ∧
    t.engine.add t.clock expression job = .ok engine ∧ engine.lastId = id

/-- The effects that actions can have. What the passing of time does is told by `step_pass` and
`Sound.step_pass_eq`. -/
inductive Effect (t : Timer J) : Action J → List (Entry J) → Timer J → Prop
  | added {expression : String} {job : J} {engine : Engine J}
    (h : t.engine.add t.clock expression job = .ok engine) :
    Effect t (.add expression job) [] { t with engine, told := true }
  | refused {expression : String} {job : J} {source : CronError}
    (h : t.engine.add t.clock expression job = .error source) :
    Effect t (.add expression job) [] t
  | removed (id : Nat) :
    Effect t (.remove id) [] { t with engine := t.engine.remove id, told := true }
  /-- A timer that runs is not started again. -/
  | running (h : t.engine.isRunning = true) : Effect t .start [] t
  | started (h : ¬ t.engine.isRunning = true) :
    Effect t .start [] { t with engine := t.engine.start t.clock, sleep := none, told := true }
  | stopped : Effect t .stop [] { t with engine := t.engine.stop, sleep := none }
  | woken : Effect t .wake t.wake.1 t.wake.2
  | passed {now : Instant} {fired : List (Entry J)} {t' : Timer J}
    (h : t.step (.pass now) = some (fired, t')) : Effect t (.pass now) fired t'

theorem effect_of_step (h : t.step a = some (fired, t')) : t.Effect a fired t' := by
  cases a with
  | add expression job =>
    rw [step] at h
    split at h
    · next engine hadd =>
      cases h
      exact .added hadd
    · next source hadd =>
      cases h
      exact .refused hadd
  | remove id =>
    cases h
    exact .removed id
  | start =>
    rw [step] at h
    split at h
    · next hrunning =>
      cases h
      exact .running hrunning
    · next hstopped =>
      cases h
      exact .started hstopped
  | stop =>
    cases h
    exact .stopped
  | wake =>
    have hwake : t.wake = (fired, t') := Option.some.inj h
    have hwoken : t.Effect .wake t.wake.1 t.wake.2 := .woken
    rw [hwake] at hwoken
    exact hwoken
  | pass now => exact .passed h

/-- The registration of a job. -/
theorem registers_add_iff {expression : String} {job job' : J} {engine : Engine J} {id : Nat}
    {schedule : Cron.Schedule} (hadd : t.engine.add t.clock expression job' = .ok engine) :
    t.Registers (.add expression job') id schedule job ↔
      engine.lastId = id ∧ Cron.read expression = .ok schedule ∧ job' = job := by
  constructor
  · rintro ⟨expression', engine', ha, hread, hadd', hid⟩
    cases ha
    rw [hadd] at hadd'
    cases hadd'
    exact ⟨hid, hread, rfl⟩
  · rintro ⟨hid, hread, rfl⟩
    exact ⟨expression, engine, rfl, hread, hadd, hid⟩

theorem not_registers (ha : ∀ expression job, a ≠ .add expression job) {id : Nat}
    {schedule : Cron.Schedule} {job : J} : ¬ t.Registers a id schedule job := by
  rintro ⟨expression, -, hadd, -⟩
  exact ha expression job hadd

theorem canPass_iff : t.canPass now = true ↔ t.clock ≤ now ∧
    (t.engine.isRunning = true → t.told = false ∧ ∀ w, t.sleep = some w → now ≤ w) := by
  cases hrunning : t.engine.isRunning <;> simp [canPass, hrunning, Option.all_eq_true]

theorem wake_clock (t : Timer J) : t.wake.2.clock = t.clock := by
  unfold wake
  split <;> rfl

theorem table_wake (t : Timer J) : t.wake.2.engine.table = t.engine.table := by
  unfold wake
  split
  · exact t.engine.table_wake t.clock
  · rfl

theorem isRunning_wake (t : Timer J) : t.wake.2.engine.isRunning = t.engine.isRunning := by
  unfold wake
  split
  · exact t.engine.isRunning_wake t.clock
  · rfl

/-- The clock moves on, and the task may wake up then. -/
theorem step_pass (h : t.step (.pass now) = some (fired, t')) :
    t.canPass now = true ∧ t'.clock = now ∧ t'.engine.table = t.engine.table ∧
      t'.engine.isRunning = t.engine.isRunning := by
  rw [step] at h
  split at h
  · next hpass =>
    refine ⟨hpass, ?_⟩
    dsimp only at h
    split at h
    · obtain ⟨-, rfl⟩ := Prod.mk.inj (Option.some.inj h)
      exact ⟨wake_clock _, table_wake _, isRunning_wake _⟩
    · obtain ⟨-, rfl⟩ := Prod.mk.inj (Option.some.inj h)
      exact ⟨rfl, rfl, rfl⟩
  · cases h

/-- Only the passing of time moves the clock. -/
theorem step_clock (h : t.step a = some (fired, t')) (ha : ∀ now, a ≠ .pass now) :
    t'.clock = t.clock := by
  cases effect_of_step h with
  | woken => exact wake_clock t
  | @passed now => exact absurd rfl (ha now)
  | _ => rfl

/-- The clock never goes back. -/
theorem clock_le_step (h : t.step a = some (fired, t')) : t.clock ≤ t'.clock := by
  by_cases ha : ∃ now, a = .pass now
  · obtain ⟨now, rfl⟩ := ha
    obtain ⟨hpass, hclock, -⟩ := step_pass h
    rw [hclock]
    exact (canPass_iff.1 hpass).1
  · rw [step_clock h (not_exists.1 ha)]
    exact Instant.le_refl _

/-- If the clock has moved, time has passed. -/
theorem eq_pass_of_clock_lt (h : t.step a = some (fired, t')) (hlt : t.clock < t'.clock) :
    a = .pass t'.clock := by
  by_cases ha : ∃ now, a = .pass now
  · obtain ⟨now, rfl⟩ := ha
    rw [(step_pass h).2.1]
  · rw [step_clock h (not_exists.1 ha)] at hlt
    exact absurd hlt (Instant.not_lt.2 (Instant.le_refl _))

/-- What is registered after an action was registered before and has not been removed, or is
registered by the action. -/
theorem mem_table_step {id : Nat} {schedule : Cron.Schedule} {job : J}
    (h : t.step a = some (fired, t')) :
    (id, schedule, job) ∈ t'.engine.table ↔
      (id, schedule, job) ∈ t.engine.table ∧ a ≠ .remove id ∨
        t.Registers a id schedule job := by
  -- An action that neither adds nor removes leaves the table as it is.
  have hsame (htable : t'.engine.table = t.engine.table)
      (hadd : ∀ expression job, a ≠ .add expression job) (hremove : a ≠ .remove id) :
      (id, schedule, job) ∈ t'.engine.table ↔
        (id, schedule, job) ∈ t.engine.table ∧ a ≠ .remove id ∨
          t.Registers a id schedule job := by
    rw [htable, and_iff_left hremove, or_iff_left (not_registers hadd)]
  cases effect_of_step h with
  | @added expression job' engine hadd =>
    obtain ⟨schedule', next, hread, -⟩ := Engine.add_eq_ok_iff.1 hadd
    show (id, schedule, job) ∈ engine.table ↔ _
    rw [Engine.table_add hadd hread, List.mem_append, List.mem_singleton, registers_add_iff hadd,
      hread]
    simp [eq_comm]
  | @refused expression job' source hadd =>
    have hnot : ¬ t.Registers (.add expression job') id schedule job := by
      rintro ⟨expression', engine', ha, -, hadd', -⟩
      cases ha
      rw [hadd] at hadd'
      cases hadd'
    rw [or_iff_left hnot]
    simp
  | removed id' =>
    rw [Engine.mem_table_remove, or_iff_left (not_registers (by simp))]
    simp [eq_comm]
  | running => exact hsame rfl (by simp) (by simp)
  | started => exact hsame (t.engine.table_start t.clock) (by simp) (by simp)
  | stopped => exact hsame rfl (by simp) (by simp)
  | woken => exact hsame (table_wake t) (by simp) (by simp)
  | passed hpass => exact hsame (step_pass hpass).2.2.1 (by simp) (by simp)

/-- The timer runs after an action that starts it, and after any other one but a stop if it has been
running. -/
theorem isRunning_step (h : t.step a = some (fired, t')) :
    t'.engine.isRunning = true ↔
      t.engine.isRunning = true ∧ a ≠ .stop ∨ a = .start := by
  cases effect_of_step h with
  | added hadd =>
    obtain ⟨-, -, -, -, rfl⟩ := Engine.add_eq_ok_iff.1 hadd
    simp
  | refused => simp
  | removed id => simp [Engine.remove]
  | running hrunning => simp [hrunning]
  | started hstopped =>
    rw [Engine.start, if_neg hstopped]
    simp
  | stopped => simp [Engine.stop]
  | woken =>
    rw [isRunning_wake]
    simp
  | passed hpass =>
    rw [(step_pass hpass).2.2.2]
    simp

/-! ## What the task keeps -/

/-- Entries have different numbers that have been given out, and schedules that are due at some
time. While the timer runs, each entry waits for the next instant of its schedule, and the task
sleeps until the earliest of these instants, or is to look for it. -/
structure Sound (t : Timer J) : Prop where
  ids_nodup : (t.engine.entries.map (·.id)).Nodup
  id_le : ∀ e ∈ t.engine.entries, e.id ≤ t.engine.lastId
  everDue : ∀ e ∈ t.engine.entries, ∃ u, e.schedule.Matches u
  waits : t.engine.isRunning = true → ∀ e ∈ t.engine.entries,
    ∃ u, e.nextFire = some u ∧ e.schedule.IsNext t.clock u
  sleep : t.engine.isRunning = true → t.told = true ∨ t.sleep = t.engine.wakeTime?

/-- Before the year 4000 an entry that is ever due waits for the next instant of its schedule when
it has been rescheduled. -/
theorem isNext_of_reschedule (hnow : now.date.year < 4000) (hdue : ∃ u, e.schedule.Matches u) :
    ∃ u, (e.reschedule now).nextFire = some u ∧ e.schedule.IsNext now u := by
  obtain ⟨u, hu⟩ := (Cron.Schedule.exists_next?_iff hnow).2 hdue
  exact ⟨u, hu, Cron.Schedule.isNext_of_next? hu⟩

namespace Sound

theorem of_empty (h : t.engine = {}) : t.Sound := by
  refine ⟨?_, ?_, ?_, ?_, ?_⟩ <;> rw [h]
  · exact List.nodup_nil
  · intro e he
    cases he
  · intro e he
    cases he
  · intro hrunning
    cases hrunning
  · intro hrunning
    cases hrunning

theorem add {expression : String} {job : J} {engine : Engine J} (h : t.Sound)
    (hadd : t.engine.add t.clock expression job = .ok engine) :
    Sound { t with engine, told := true } := by
  obtain ⟨schedule, next, -, hnext, rfl⟩ := Engine.add_eq_ok_iff.1 hadd
  have hisNext := Cron.Schedule.isNext_of_next? hnext
  refine ⟨?_, ?_, ?_, ?_, fun _ => .inl rfl⟩
  · dsimp only
    rw [List.map_append, List.nodup_append]
    refine ⟨h.ids_nodup, List.nodup_singleton _, ?_⟩
    intro id hid id' hid' heq
    obtain ⟨e, he, rfl⟩ := List.mem_map.1 hid
    obtain rfl := List.mem_singleton.1 hid'
    have hle := h.id_le e he
    dsimp only at heq
    omega
  · intro e he
    rcases List.mem_append.1 he with hold | hnew
    · exact Nat.le_succ_of_le (h.id_le e hold)
    · obtain rfl := List.mem_singleton.1 hnew
      exact Nat.le_refl _
  · intro e he
    rcases List.mem_append.1 he with hold | hnew
    · exact h.everDue e hold
    · obtain rfl := List.mem_singleton.1 hnew
      exact ⟨next, hisNext.due⟩
  · intro hrunning e he
    rcases List.mem_append.1 he with hold | hnew
    · exact h.waits hrunning e hold
    · obtain rfl := List.mem_singleton.1 hnew
      exact ⟨next, rfl, hisNext⟩

theorem remove (h : t.Sound) (id : Nat) :
    Sound { t with engine := t.engine.remove id, told := true } := by
  have hmem : ∀ e ∈ (t.engine.remove id).entries, e ∈ t.engine.entries :=
    fun e he => (Engine.mem_remove.1 he).1
  refine ⟨?_, ?_, ?_, ?_, fun _ => .inl rfl⟩
  · exact h.ids_nodup.sublist (List.filter_sublist.map _)
  · exact fun e he => h.id_le e (hmem e he)
  · exact fun e he => h.everDue e (hmem e he)
  · exact fun hrunning e he => h.waits hrunning e (hmem e he)

theorem start (h : t.Sound) (hclock : t.clock.date.year < 4000)
    (hstopped : ¬ t.engine.isRunning = true) :
    Sound { t with engine := t.engine.start t.clock, sleep := none, told := true } := by
  have hentries :
      (t.engine.start t.clock).entries = t.engine.entries.map (·.reschedule t.clock) := by
    rw [Engine.start, if_neg hstopped]
  have hlast : (t.engine.start t.clock).lastId = t.engine.lastId := by
    rw [Engine.start, if_neg hstopped]
  refine ⟨?_, ?_, ?_, ?_, fun _ => .inl rfl⟩ <;> dsimp only <;> rw [hentries]
  · rw [List.map_map]
    exact h.ids_nodup
  · intro e he
    obtain ⟨old, hold, rfl⟩ := List.mem_map.1 he
    rw [hlast]
    exact h.id_le old hold
  · intro e he
    obtain ⟨old, hold, rfl⟩ := List.mem_map.1 he
    exact h.everDue old hold
  · intro _ e he
    obtain ⟨old, hold, rfl⟩ := List.mem_map.1 he
    exact isNext_of_reschedule hclock (h.everDue old hold)

theorem stop (h : t.Sound) : Sound { t with engine := t.engine.stop, sleep := none } := by
  refine ⟨h.ids_nodup, h.id_le, h.everDue, ?_, ?_⟩
  · intro hrunning
    cases hrunning
  · intro hrunning
    cases hrunning

/-- While the task has not been woken at an instant of a schedule, nothing is due. -/
theorem due_eq_nil (h : t.Sound) (hrunning : t.engine.isRunning = true) :
    t.engine.due t.clock = [] := by
  rw [Engine.due, List.filter_eq_nil_iff]
  intro e he hdue
  obtain ⟨u, hu, hnext⟩ := h.waits hrunning e he
  obtain ⟨u', hu', hle⟩ := Entry.isDue_iff.1 hdue
  rw [hu] at hu'
  cases hu'
  exact absurd hle (Instant.not_le.2 hnext.later)

/-- A task that wakes up before anything is due fires nothing and changes no entry. -/
theorem wake_eq (h : t.Sound) (hrunning : t.engine.isRunning = true) :
    t.wake = ([], { t with sleep := t.engine.wakeTime?, told := false }) := by
  have hdue := h.due_eq_nil hrunning
  have hwake : t.engine.wake t.clock = ([], t.engine) := by
    rw [Engine.wake_of_running hrunning, hdue, Engine.fireDue_of_due_eq_nil hdue]
  rw [Timer.wake, if_pos hrunning, hwake]

theorem wake (h : t.Sound) : t.wake.2.Sound := by
  cases hrunning : t.engine.isRunning with
  | false =>
    have hwake : t.wake = ([], t) := by
      rw [Timer.wake, hrunning]
      rfl
    rw [hwake]
    exact h
  | true =>
    rw [h.wake_eq hrunning]
    exact ⟨h.ids_nodup, h.id_le, h.everDue, h.waits, fun _ => .inr rfl⟩

/-- Time passes while the timer runs: what is due at the new reading is fired, and the task sleeps
until the next instant that an entry waits for. -/
theorem step_pass_eq (h : t.Sound) (hrunning : t.engine.isRunning = true)
    (hpass : t.canPass now = true) :
    t.step (.pass now) = some (t.engine.due now,
      { engine := t.engine.fireDue now, clock := now,
        sleep := (t.engine.fireDue now).wakeTime?, told := false }) := by
  obtain ⟨-, htask⟩ := canPass_iff.1 hpass
  obtain ⟨htold, -⟩ := htask hrunning
  have hsleep : t.sleep = t.engine.wakeTime? := by
    rcases h.sleep hrunning with htold' | hsleep
    · rw [htold] at htold'
      cases htold'
    · exact hsleep
  rw [step, if_pos hpass, hrunning, Bool.true_and]
  dsimp only
  split
  · rw [Timer.wake, if_pos hrunning]
    dsimp only
    rw [Engine.wake_of_running hrunning]
  · next hover =>
    have hdue : t.engine.due now = [] := by
      rw [Engine.due, List.filter_eq_nil_iff]
      intro e he hdue
      obtain ⟨w, hw, hle⟩ := Engine.wakeTime?_le_iff.2 ⟨e, he, hdue⟩
      rw [hsleep, hw, Option.any_some, decide_eq_true hle] at hover
      exact hover rfl
    rw [hdue, Engine.fireDue_of_due_eq_nil hdue, ← hsleep, ← htold]

/-- While the timer runs, the clock does not move past an instant that an entry waits for. -/
theorem le_of_canPass (h : t.Sound) (hrunning : t.engine.isRunning = true)
    (hpass : t.canPass now = true) (he : e ∈ t.engine.entries) {u : Instant}
    (hu : e.nextFire = some u) : now ≤ u := by
  obtain ⟨-, htask⟩ := canPass_iff.1 hpass
  obtain ⟨htold, hle⟩ := htask hrunning
  obtain ⟨w, hw⟩ := Engine.exists_wakeTime? he hu
  rcases h.sleep hrunning with htold' | hsleep
  · rw [htold] at htold'
    cases htold'
  · rw [hw] at hsleep
    exact Instant.le_trans (hle w hsleep) (Engine.wakeTime?_le hw he hu)

theorem pass (h : t.Sound) (hnow : now.date.year < 4000)
    (hstep : t.step (.pass now) = some (fired, t')) : t'.Sound := by
  obtain ⟨hpass, hclock, -, hsame⟩ := step_pass hstep
  cases hrunning : t.engine.isRunning with
  | false =>
    have hlater : t' = { t with clock := now } := by
      rw [step, if_pos hpass, hrunning, Bool.false_and] at hstep
      exact (Prod.mk.inj (Option.some.inj hstep)).2.symm
    have hstopped : t'.engine.isRunning = false := hsame.trans hrunning
    have hengine : t'.engine = t.engine := by
      rw [hlater]
    refine ⟨?_, ?_, ?_, ?_, ?_⟩
    · rw [hengine]
      exact h.ids_nodup
    · rw [hengine]
      exact h.id_le
    · rw [hengine]
      exact h.everDue
    · intro hrunning'
      rw [hstopped] at hrunning'
      cases hrunning'
    · intro hrunning'
      rw [hstopped] at hrunning'
      cases hrunning'
  | true =>
    rw [h.step_pass_eq hrunning hpass] at hstep
    obtain ⟨-, rfl⟩ := Prod.mk.inj (Option.some.inj hstep)
    have hids : (t.engine.fireDue now).entries.map (·.id) = t.engine.entries.map (·.id) := by
      have htable := congrArg (List.map Prod.fst) (t.engine.table_fireDue now)
      rw [Engine.table, Engine.table, List.map_map, List.map_map] at htable
      exact htable
    refine ⟨?_, ?_, ?_, ?_, fun _ => .inr rfl⟩
    · dsimp only
      rw [hids]
      exact h.ids_nodup
    · intro e he
      rcases Engine.mem_fireDue.1 he with ⟨hheld, -⟩ | ⟨old, hold, rfl⟩
      · exact h.id_le e hheld
      · exact h.id_le old (Engine.mem_due.1 hold).1
    · intro e he
      rcases Engine.mem_fireDue.1 he with ⟨hheld, -⟩ | ⟨old, hold, rfl⟩
      · exact h.everDue e hheld
      · exact h.everDue old (Engine.mem_due.1 hold).1
    · intro _ e he
      rcases Engine.mem_fireDue.1 he with ⟨hheld, hdue⟩ | ⟨old, hold, rfl⟩
      · obtain ⟨u, hu, hnext⟩ := h.waits hrunning e hheld
        refine ⟨u, hu, hnext.of_le_of_lt (canPass_iff.1 hpass).1 ?_⟩
        rw [← Instant.not_le]
        intro hle
        rw [Entry.isDue_iff.2 ⟨u, hu, hle⟩] at hdue
        cases hdue
      · exact isNext_of_reschedule hnow (h.everDue old (Engine.mem_due.1 hold).1)

/-- Every action before the year 4000 keeps the timer sound. -/
theorem step (h : t.Sound) (hclock : t.clock.date.year < 4000) (hclock' : t'.clock.date.year < 4000)
    (hstep : t.step a = some (fired, t')) : t'.Sound := by
  cases effect_of_step hstep with
  | added hadd => exact h.add hadd
  | refused => exact h
  | removed id => exact h.remove id
  | running => exact h
  | started hstopped => exact h.start hclock hstopped
  | stopped => exact h.stop
  | woken => exact h.wake
  | passed hpass =>
    rw [(step_pass hpass).2.1] at hclock'
    exact h.pass hclock' hpass

/-- Between two readings of the clock while the timer runs, a schedule is due at the second one at
the earliest. -/
theorem eq_clock_of_matches (h : t.Sound) (hrunning : t.engine.isRunning = true)
    (hstep : t.step a = some (fired, t')) (he : e ∈ t.engine.entries) {u : Instant}
    (hu : e.schedule.Matches u) (hlt : t.clock < u) (hle : u ≤ t'.clock) : u = t'.clock := by
  have ha := eq_pass_of_clock_lt hstep (Instant.lt_of_lt_of_le hlt hle)
  subst ha
  obtain ⟨v, hv, hnext⟩ := h.waits hrunning e he
  have hnow := h.le_of_canPass hrunning (step_pass hstep).1 he hv
  exact Instant.le_antisymm hle (Instant.le_trans hnow (hnext.first u hu hlt))

/-- Nothing is fired unless time passes. -/
theorem fired_eq_nil (h : t.Sound) (hstep : t.step a = some (fired, t'))
    (ha : ∀ now, a ≠ .pass now) : fired = [] := by
  cases effect_of_step hstep with
  | woken =>
    cases hrunning : t.engine.isRunning with
    | false =>
      rw [Timer.wake, hrunning]
      rfl
    | true => rw [h.wake_eq hrunning]
  | @passed now => exact absurd rfl (ha now)
  | _ => rfl

/-- When the clock moves on, it is as if the engine had just seen the new reading. -/
theorem pass_eq_wake (h : t.Sound) (hstep : t.step (.pass now) = some (fired, t')) :
    (fired, t'.engine) = t.engine.wake now := by
  obtain ⟨hpass, -⟩ := step_pass hstep
  cases hrunning : t.engine.isRunning with
  | false =>
    rw [Timer.step, if_pos hpass, hrunning, Bool.false_and] at hstep
    cases hstep
    rw [Engine.wake_of_stopped hrunning]
  | true =>
    rw [h.step_pass_eq hrunning hpass] at hstep
    cases hstep
    rw [Engine.wake_of_running hrunning]

theorem fired_ids_nodup (h : t.Sound) (hstep : t.step a = some (fired, t')) :
    (fired.map (·.id)).Nodup := by
  by_cases ha : ∃ now, a = .pass now
  · obtain ⟨now, rfl⟩ := ha
    rw [show fired = (t.engine.wake now).1 from congrArg Prod.fst (h.pass_eq_wake hstep)]
    cases hrunning : t.engine.isRunning with
    | false =>
      rw [Engine.wake_of_stopped hrunning]
      exact List.nodup_nil
    | true =>
      rw [Engine.wake_of_running hrunning]
      exact h.ids_nodup.sublist (List.filter_sublist.map _)
  · rw [h.fired_eq_nil hstep (not_exists.1 ha)]
    exact List.nodup_nil

/-- What an action fires are the entries of a running timer whose schedules are due at the new
reading of the clock. -/
theorem mem_fired_iff (h : t.Sound) (hstep : t.step a = some (fired, t')) :
    e ∈ fired ↔ t.engine.isRunning = true ∧ e ∈ t.engine.entries ∧ t.clock < t'.clock ∧
      e.schedule.Matches t'.clock := by
  by_cases ha : ∃ now, a = .pass now
  · obtain ⟨now, rfl⟩ := ha
    obtain ⟨hpass, hclock, -⟩ := step_pass hstep
    rw [hclock, show fired = (t.engine.wake now).1 from congrArg Prod.fst (h.pass_eq_wake hstep)]
    cases hrunning : t.engine.isRunning with
    | false =>
      rw [Engine.wake_of_stopped hrunning]
      simp
    | true =>
      rw [Engine.wake_of_running hrunning, Engine.mem_due, Entry.isDue_iff]
      constructor
      · rintro ⟨he, u, hu, hle⟩
        obtain ⟨u', hu', hnext⟩ := h.waits hrunning e he
        rw [hu] at hu'
        cases hu'
        have hnow : u = now := Instant.le_antisymm hle (h.le_of_canPass hrunning hpass he hu)
        rw [← hnow]
        exact ⟨rfl, he, hnext.later, hnext.due⟩
      · rintro ⟨-, he, hlt, hmatches⟩
        obtain ⟨u, hu, hnext⟩ := h.waits hrunning e he
        exact ⟨he, u, hu, hnext.first now hmatches hlt⟩
  · rw [h.fired_eq_nil hstep (not_exists.1 ha), step_clock hstep (not_exists.1 ha)]
    constructor
    · intro he
      cases he
    · rintro ⟨-, -, hlt, -⟩
      exact absurd hlt (Instant.not_lt.2 (Instant.le_refl _))

end Sound

end Timer

end Ingestion
