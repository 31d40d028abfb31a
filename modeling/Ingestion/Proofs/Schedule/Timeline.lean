import Mathlib
import Ingestion.Proofs.Schedule.Timer

/-!
# Timelines

A timeline is what happens to an engine and its timer: calls, and the passing of time. Over a whole
timeline each job is run at the instants that its schedule, its registration and the calls declare,
once at each of them, and at no other time (`Timeline.spawned_once`).

The clock comes past an instant in one step (`Timeline.exists_passing`). What has been called before
that step has been called before the instant, and so the declaration can be read off the state in
which the clock comes past it.
-/

namespace Ingestion

variable {J : Type}

/-- What happens to an engine without entries: one action after another, each of them possible. -/
structure Timeline (J : Type) where
  timer : Nat → Timer J
  action : Nat → Timer.Action J
  /-- The entries that each action fires. -/
  fired : Nat → List (Entry J)
  initial : (timer 0).engine = {}
  step : ∀ i, (timer i).step (action i) = some (fired i, timer (i + 1))

namespace Timer

/-- What the last one of some actions fires, and the timer that they lead to one after another.
After them the task wakes up again and again. An action that is not possible changes nothing. -/
def trace (actions : List (Action J)) (t : Timer J) : Nat → List (Entry J) × Timer J
  | 0 => ([], t)
  | i + 1 =>
    let s := (trace actions t i).2
    (s.step (actions.getD i .wake)).getD ([], s)

/-- All actions of a list are possible one after another. -/
def allows (t : Timer J) (actions : List (Action J)) : Bool :=
  (List.range actions.length).all fun i =>
    ((trace actions t i).2.step (actions.getD i .wake)).isSome

end Timer

namespace Timeline

/-- The timeline of the given actions. -/
def ofActions (t : Timer J) (actions : List (Timer.Action J)) (ht : t.engine = {})
    (h : t.allows actions = true) : Timeline J where
  timer i := (t.trace actions i).2
  action i := actions.getD i .wake
  fired i := (t.trace actions (i + 1)).1
  initial := ht
  step i := by
    have hsome : ((t.trace actions i).2.step (actions.getD i .wake)).isSome := by
      rcases Nat.lt_or_ge i actions.length with hi | hi
      · exact List.all_eq_true.1 h i (List.mem_range.2 hi)
      · rw [List.getD_eq_default _ _ hi]
        rfl
    exact (Option.getD_of_ne_none (Option.isSome_iff_ne_none.1 hsome) _).symm

variable (T : Timeline J)

/-- The reading of the clock at a moment. -/
def clock (i : Nat) : Instant :=
  (T.timer i).clock

/-- The jobs that have been spawned up to a moment: the reading of the clock at which each was, the
number of its entry, and the job. -/
def spawned (n : Nat) : List (Instant × Nat × J) :=
  (List.range n).flatMap fun i => (T.fired i).map fun e => (T.clock (i + 1), e.id, e.job)

/-- The action `i` registers a job: it gets a number, and runs by the schedule that its expression
is read as. -/
def Registers (i id : Nat) (schedule : Cron.Schedule) (job : J) : Prop :=
  (T.timer i).Registers (T.action i) id schedule job

variable {T} {i j n id : Nat} {schedule : Cron.Schedule} {job : J} {t : Instant}

theorem mem_spawned : (t, id, job) ∈ T.spawned n ↔
    ∃ i < n, ∃ e ∈ T.fired i, T.clock (i + 1) = t ∧ e.id = id ∧ e.job = job := by
  simp only [spawned, List.mem_flatMap, List.mem_range, List.mem_map, Prod.mk.injEq]

theorem clock_mono (hij : i ≤ j) : T.clock i ≤ T.clock j := by
  induction j, hij using Nat.le_induction with
  | base => exact Instant.le_refl _
  | succ j _ ih => exact Instant.le_trans ih (Timer.clock_le_step (T.step j))

/-- The clock comes past every instant between two readings in one step. -/
theorem exists_passing (hij : i ≤ j) (hlt : T.clock i < t) (hle : t ≤ T.clock j) :
    ∃ k, i ≤ k ∧ k < j ∧ T.clock k < t ∧ t ≤ T.clock (k + 1) := by
  induction j, hij using Nat.le_induction with
  | base => exact absurd hle (Instant.not_le.2 hlt)
  | succ j hij ih =>
    by_cases hj : t ≤ T.clock j
    · obtain ⟨k, hik, hkj, hk⟩ := ih hj
      exact ⟨k, hik, by omega, hk⟩
    · exact ⟨j, hij, by omega, Instant.not_le.1 hj, hle⟩

/-- An entry is in the table if it has been registered and not removed since. -/
theorem mem_table_iff : (id, schedule, job) ∈ (T.timer n).engine.table ↔
    ∃ a < n, T.Registers a id schedule job ∧
      ∀ q, a < q → q < n → T.action q ≠ .remove id := by
  induction n with
  | zero =>
    rw [T.initial]
    constructor
    · intro hmem
      cases hmem
    · rintro ⟨a, ha, -⟩
      exact absurd ha (Nat.not_lt_zero a)
  | succ n ih =>
    rw [Timer.mem_table_step (T.step n), ih]
    constructor
    · rintro (⟨⟨a, ha, hregisters, hkept⟩, hn⟩ | hregisters)
      · refine ⟨a, by omega, hregisters, ?_⟩
        intro q haq hqn
        rcases Nat.lt_succ_iff_lt_or_eq.1 hqn with hq | rfl
        · exact hkept q haq hq
        · exact hn
      · exact ⟨n, by omega, hregisters, fun q hnq hqn => absurd hqn (by omega)⟩
    · rintro ⟨a, ha, hregisters, hkept⟩
      rcases Nat.lt_succ_iff_lt_or_eq.1 ha with ha | rfl
      · refine .inl ⟨⟨a, ha, hregisters, ?_⟩, hkept n ha (by omega)⟩
        exact fun q haq hqn => hkept q haq (by omega)
      · exact .inr hregisters

/-- The timer runs if it has been started and not stopped since. -/
theorem isRunning_iff : (T.timer n).engine.isRunning = true ↔
    ∃ s < n, T.action s = .start ∧ ∀ q, s < q → q < n → T.action q ≠ .stop := by
  induction n with
  | zero =>
    rw [T.initial]
    constructor
    · intro hrunning
      cases hrunning
    · rintro ⟨s, hs, -⟩
      exact absurd hs (Nat.not_lt_zero s)
  | succ n ih =>
    rw [Timer.isRunning_step (T.step n), ih]
    constructor
    · rintro (⟨⟨s, hs, hstart, hkept⟩, hn⟩ | hstart)
      · refine ⟨s, by omega, hstart, ?_⟩
        intro q hsq hqn
        rcases Nat.lt_succ_iff_lt_or_eq.1 hqn with hq | rfl
        · exact hkept q hsq hq
        · exact hn
      · exact ⟨n, by omega, hstart, fun q hnq hqn => absurd hqn (by omega)⟩
    · rintro ⟨s, hs, hstart, hkept⟩
      rcases Nat.lt_succ_iff_lt_or_eq.1 hs with hs | rfl
      · refine .inl ⟨⟨s, hs, hstart, ?_⟩, hkept n hs (by omega)⟩
        exact fun q hsq hqn => hkept q hsq (by omega)
      · exact .inr hstart

variable (hclock : ∀ i, (T.clock i).date.year < 4000)

include hclock

theorem sound (i : Nat) : (T.timer i).Sound := by
  induction i with
  | zero => exact .of_empty T.initial
  | succ i ih => exact ih.step (hclock i) (hclock (i + 1)) (T.step i)

/-- What is fired when the clock comes past an instant: the jobs that are registered and whose
schedules are due at it. -/
theorem mem_spawned_iff_of_passing : (t, id, job) ∈ T.spawned n ↔
    ∃ i < n, T.clock i < t ∧ t ≤ T.clock (i + 1) ∧ (T.timer i).engine.isRunning = true ∧
      ∃ schedule, (id, schedule, job) ∈ (T.timer i).engine.table ∧ schedule.Matches t := by
  rw [mem_spawned]
  constructor
  · rintro ⟨i, hi, e, he, rfl, rfl, rfl⟩
    obtain ⟨hrunning, hheld, hlt, hmatches⟩ :=
      ((sound hclock i).mem_fired_iff (T.step i)).1 he
    exact ⟨i, hi, hlt, Instant.le_refl _, hrunning, e.schedule,
      Engine.mem_table.2 ⟨e, hheld, rfl, rfl, rfl⟩, hmatches⟩
  · rintro ⟨i, hi, hlt, hle, hrunning, schedule, hmem, hmatches⟩
    obtain ⟨e, hheld, rfl, rfl, rfl⟩ := Engine.mem_table.1 hmem
    obtain rfl := (sound hclock i).eq_clock_of_matches hrunning (T.step i) hheld hmatches hlt hle
    refine ⟨i, hi, e, ?_, rfl, rfl, rfl⟩
    rw [(sound hclock i).mem_fired_iff (T.step i)]
    exact ⟨hrunning, hheld, hlt, hmatches⟩

/-- No entry is fired twice at one reading of the clock. -/
theorem spawned_nodup (n : Nat) : ((T.spawned n).map fun x => (x.1, x.2.1)).Nodup := by
  rw [spawned, List.map_flatMap, List.nodup_flatMap]
  constructor
  · intro i _
    rw [List.map_map]
    have hids := (sound hclock i).fired_ids_nodup (T.step i)
    exact List.Nodup.of_map Prod.snd (by rw [List.map_map]; exact hids)
  · refine List.pairwise_lt_range.imp ?_
    intro i j hij x hi hj
    dsimp only at hi hj
    rw [List.map_map, List.mem_map] at hi hj
    obtain ⟨e, he, rfl⟩ := hi
    obtain ⟨e', he', heq⟩ := hj
    -- The clock has moved on before the second one is fired.
    obtain ⟨-, -, hlt, -⟩ := ((sound hclock j).mem_fired_iff (T.step j)).1 he'
    have hle : T.clock (i + 1) ≤ T.clock j := clock_mono hij
    have hclocks : T.clock (j + 1) = T.clock (i + 1) := congrArg Prod.fst heq
    rw [← hclocks] at hle
    exact absurd hle (Instant.not_le.2 hlt)

omit hclock in
/-- Nothing of a kind has happened before the clock comes past an instant if and only if nothing of
the kind happens before the instant at all. -/
theorem never_iff_of_passing {P : Timer.Action J → Prop} (hpass : ∀ now, ¬ P (.pass now)) {a : Nat}
    (hi : i < n) (hlt : T.clock i < t) (hle : t ≤ T.clock (i + 1)) :
    (∀ q, a < q → q < i → ¬ P (T.action q)) ↔
      ∀ q, a < q → q < n → P (T.action q) → t ≤ T.clock q := by
  constructor
  · intro hnever q haq _ hq
    rcases Nat.lt_trichotomy q i with hqi | rfl | hiq
    · exact absurd hq (hnever q haq hqi)
    · rw [Timer.eq_pass_of_clock_lt (T.step q) (Instant.lt_of_lt_of_le hlt hle)] at hq
      exact absurd hq (hpass _)
    · exact Instant.le_trans hle (clock_mono hiq)
  · intro hlate q haq hqi hq
    have hq' := hlate q haq (by omega) hq
    exact absurd (Instant.le_trans hq' (clock_mono hqi.le)) (Instant.not_le.2 hlt)

/-- A job is spawned at an instant just if its schedule is due at it, it is registered and the timer
runs when the clock comes past the instant. -/
theorem mem_spawned_iff : (t, id, job) ∈ T.spawned n ↔ t ≤ T.clock n ∧
    (∃ a < n, ∃ schedule, T.Registers a id schedule job ∧ schedule.Matches t ∧ T.clock a < t ∧
      ∀ q, a < q → q < n → T.action q = .remove id → t ≤ T.clock q) ∧
    ∃ s < n, T.action s = .start ∧ T.clock s < t ∧
      ∀ q, s < q → q < n → T.action q = .stop → t ≤ T.clock q := by
  rw [mem_spawned_iff_of_passing hclock]
  constructor
  · rintro ⟨i, hi, hlt, hle, hrunning, schedule, hmem, hmatches⟩
    obtain ⟨a, ha, hregisters, hkept⟩ := mem_table_iff.1 hmem
    obtain ⟨s, hs, hstart, hkept'⟩ := isRunning_iff.1 hrunning
    refine ⟨Instant.le_trans hle (clock_mono hi), ?_, ?_⟩
    · exact ⟨a, by omega, schedule, hregisters, hmatches,
        Instant.lt_of_le_of_lt (clock_mono ha.le) hlt,
        (never_iff_of_passing (P := (· = .remove id)) (by simp) hi hlt hle).1 hkept⟩
    · exact ⟨s, by omega, hstart, Instant.lt_of_le_of_lt (clock_mono hs.le) hlt,
        (never_iff_of_passing (P := (· = .stop)) (by simp) hi hlt hle).1 hkept'⟩
  · rintro ⟨hle, ⟨a, ha, schedule, hregisters, hmatches, halt, hkept⟩,
      ⟨s, hs, hstart, hslt, hkept'⟩⟩
    have hmax : T.clock (max a s) < t := by
      rcases Nat.le_total a s with has | hsa
      · rw [Nat.max_eq_right has]
        exact hslt
      · rw [Nat.max_eq_left hsa]
        exact halt
    obtain ⟨i, hmaxi, hi, hlt, hle'⟩ := exists_passing (by omega) hmax hle
    -- In the step in which the clock comes past the instant there is no call.
    have hpass := Timer.eq_pass_of_clock_lt (T.step i) (Instant.lt_of_lt_of_le hlt hle')
    have hai : a ≠ i := by
      rintro rfl
      obtain ⟨_, _, hadd, -⟩ := hregisters
      rw [hpass] at hadd
      cases hadd
    have hsi : s ≠ i := by
      rintro rfl
      rw [hpass] at hstart
      cases hstart
    refine ⟨i, hi, hlt, hle', ?_, schedule, ?_, hmatches⟩
    · rw [isRunning_iff]
      exact ⟨s, by omega, hstart,
        (never_iff_of_passing (P := (· = .stop)) (by simp) hi hlt hle').2 hkept'⟩
    · rw [mem_table_iff]
      exact ⟨a, by omega, hregisters,
        (never_iff_of_passing (P := (· = .remove id)) (by simp) hi hlt hle').2 hkept⟩

/-- A task that wakes up while no time passes is early. -/
theorem woken_early (hwake : T.action i = .wake) :
    T.fired i = [] ∧ (T.timer (i + 1)).engine = (T.timer i).engine := by
  have hstep := T.step i
  rw [hwake] at hstep
  refine ⟨(sound hclock i).fired_eq_nil hstep (by simp), ?_⟩
  cases hrunning : (T.timer i).engine.isRunning with
  | false =>
    rw [Timer.step, Timer.wake, hrunning] at hstep
    rw [← (Prod.mk.inj (Option.some.inj hstep)).2]
  | true =>
    rw [Timer.step, (sound hclock i).wake_eq hrunning] at hstep
    rw [← (Prod.mk.inj (Option.some.inj hstep)).2]

end Timeline

/-! ## Two jobs and a removal -/

/-- The clock shows what it showed at first, or what it was last moved on to. -/
theorem Timeline.clock_ofActions {t : Timer J} {actions : List (Timer.Action J)}
    (ht : t.engine = {}) (h : t.allows actions = true) (i : Nat) :
    (ofActions t actions ht h).clock i = t.clock ∨
      .pass ((ofActions t actions ht h).clock i) ∈ actions := by
  induction i with
  | zero => exact .inl rfl
  | succ i ih =>
    have hstep := (ofActions t actions ht h).step i
    by_cases ha : ∃ now, (ofActions t actions ht h).action i = .pass now
    · right
      obtain ⟨now, ha⟩ := ha
      rw [ha] at hstep
      have hclock : (ofActions t actions ht h).clock (i + 1) = now := (Timer.step_pass hstep).2.1
      rw [hclock, ← ha]
      have hi : i < actions.length := by
        by_contra hi
        have hwake : (ofActions t actions ht h).action i = .wake :=
          List.getD_eq_default _ _ (Nat.le_of_not_lt hi)
        rw [hwake] at ha
        cases ha
      show actions.getD i .wake ∈ actions
      rw [List.getD_eq_getElem _ _ hi]
      exact List.getElem_mem hi
    · have hclock : (ofActions t actions ht h).clock (i + 1) = (ofActions t actions ht h).clock i :=
        Timer.step_clock hstep (not_exists.1 ha)
      rw [hclock]
      exact ih

namespace Sample

/-- An instant of the first hour of a day. -/
def minute (m : Nat) (h : m < 60) : Instant :=
  .ofSecond .epoch (m * 60) (by omega)

/-- A second job is added while the task sleeps. Both are due at the same minute, and then the first
one is removed. -/
def twoJobsActions : List (Timer.Action String) :=
  [.add "*/5 * * * *" "five", .start, .wake, .pass (minute 19 (by decide)),
    .add "*/4 * * * *" "four", .wake, .pass (minute 20 (by decide)), .remove 1, .wake,
    .pass (minute 24 (by decide)), .stop]

theorem twoJobs_allowed :
    Timer.allows { clock := minute 18 (by decide) } twoJobsActions = true := by
  decide +kernel

/-- What happens to the two jobs. -/
def twoJobs : Timeline String :=
  .ofActions { clock := minute 18 (by decide) } twoJobsActions rfl twoJobs_allowed

theorem twoJobs_year (i : Nat) : (twoJobs.clock i).date.year < 4000 := by
  rcases Timeline.clock_ofActions (J := String) rfl twoJobs_allowed i with hclock | hpass
  · rw [twoJobs, hclock]
    decide
  · change Timer.Action.pass (twoJobs.clock i) ∈ twoJobsActions at hpass
    simp only [twoJobsActions, List.mem_cons, List.not_mem_nil, or_false, reduceCtorEq, false_or,
      Timer.Action.pass.injEq] at hpass
    rcases hpass with hclock | hclock | hclock <;> rw [hclock] <;> decide

end Sample

namespace Timeline

/-- While the clock stays before the year 4000, a job is spawned at an instant just if its schedule
is due at it, the instant is later than the registration of the job and than a start of the timer,
and no removal of the job and no stop of the timer comes before the instant. It does not matter
whether the task sleeps when the job is added or removed. No entry is fired twice at an instant, and
a task that wakes up early fires nothing and changes no entry. -/
theorem spawned_once {T : Timeline J} (hclock : ∀ i, (T.clock i).date.year < 4000) (n : Nat) :
    ((T.spawned n).map fun x => (x.1, x.2.1)).Nodup ∧
    (∀ t id job, (t, id, job) ∈ T.spawned n ↔ t ≤ T.clock n ∧
      (∃ a < n, ∃ schedule, T.Registers a id schedule job ∧ schedule.Matches t ∧ T.clock a < t ∧
        ∀ q, a < q → q < n → T.action q = .remove id → t ≤ T.clock q) ∧
      ∃ s < n, T.action s = .start ∧ T.clock s < t ∧
        ∀ q, s < q → q < n → T.action q = .stop → t ≤ T.clock q) ∧
    ∀ i, T.action i = .wake →
      T.fired i = [] ∧ (T.timer (i + 1)).engine = (T.timer i).engine := by
  exact ⟨spawned_nodup hclock n, fun _ _ _ => mem_spawned_iff hclock, fun _ => woken_early hclock⟩

/-- Both jobs are spawned at the minute at which both are due, and the removal ends the first. -/
theorem twoJobs_spawned_once : Sample.twoJobs.spawned 11 =
      [(Sample.minute 20 (by decide), 1, "five"), (Sample.minute 20 (by decide), 2, "four"),
        (Sample.minute 24 (by decide), 2, "four")] ∧
    ∃ a < 11, ∃ schedule, Sample.twoJobs.Registers a 2 schedule "four" ∧
      schedule.Matches (Sample.minute 24 (by decide)) := by
  have hspawned : Sample.twoJobs.spawned 11 =
      [(Sample.minute 20 (by decide), 1, "five"), (Sample.minute 20 (by decide), 2, "four"),
        (Sample.minute 24 (by decide), 2, "four")] := by
    decide +kernel
  refine ⟨hspawned, ?_⟩
  obtain ⟨-, hiff, -⟩ := spawned_once Sample.twoJobs_year 11
  obtain ⟨-, ⟨a, ha, schedule, hregisters, hmatches, -⟩, -⟩ :=
    (hiff (Sample.minute 24 (by decide)) 2 "four").1 (by rw [hspawned]; simp)
  exact ⟨a, ha, schedule, hregisters, hmatches⟩

end Timeline

end Ingestion
