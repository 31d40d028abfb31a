import Mathlib
import Ingestion.Proofs.Concurrent.Records
import Ingestion.Proofs.Cron.Search

/-!
# Accepted expressions

Validation accepts every expression that can be read, also one that is never due, such as the 30th
of February. A rebuild refuses it, and with it everything else. So if the store has been filled by
requests only, a rebuild fails just if some blueprint that is to run by its cron expression is never
due (`Run.reconcile_refused_iff`).
-/

namespace Ingestion

namespace Blueprint

/-- The cron expression of a blueprint can be read, but no instant matches it. -/
def NeverDue (b : Blueprint) : Prop :=
  ∃ s, Cron.read b.cronConfig = .ok s ∧ ∀ t, ¬ s.Matches t

/-- The cron expression of a blueprint can be read. -/
def Readable (b : Blueprint) : Prop :=
  ∃ s, Cron.read b.cronConfig = .ok s

/-- Before the year 4000 an expression that can be read is refused just if it is never due. -/
theorem cronFault?_eq_some_iff {b : Blueprint} {now : Instant} {source : CronError}
    (hread : b.Readable) (hnow : now.date.year < 4000) :
    b.cronFault? now = some source ↔ b.NeverDue ∧ source = .noUpcomingFire b.cronConfig := by
  obtain ⟨s, hs⟩ := hread
  -- The schedule that is read is the only one.
  have hnever : b.NeverDue ↔ ∀ t, ¬ s.Matches t := by
    constructor
    · rintro ⟨s', hs', h⟩
      rw [hs] at hs'
      cases hs'
      exact h
    · exact fun h => ⟨s, hs, h⟩
  have hnext : (s.next? now).isNone = true ↔ ∀ t, ¬ s.Matches t := by
    rw [Option.isNone_iff_eq_none, Option.eq_none_iff_forall_ne_some, ← not_exists, ← not_exists]
    exact not_congr (Cron.Schedule.exists_next?_iff hnow)
  rw [cronFault?, hs, hnever, ← hnext]
  by_cases h : (s.next? now).isNone = true
  · simp [h, eq_comm]
  · simp [h]

/-- Validation lets a blueprint through that is to run by its cron expression only if the
expression can be read. -/
theorem Completes.readable {replies : (c : Call) → c.Reply → Prop} {b b' : Blueprint}
    (h : b.Completes replies b') (hmanual : b'.isManual = false) : b'.Readable := by
  have hcron := h.cron
  rw [h.fields] at hmanual ⊢
  unfold checkCron at hcron
  rw [if_neg (by rw [hmanual]; decide)] at hcron
  split at hcron
  · next s hs => exact ⟨s, hs⟩
  · cases hcron

end Blueprint

/-- Before the year 4000 a rebuild for blueprints whose expressions can be read is refused by one
that is never due, or else the agenda shows them all. -/
theorem Agenda.rebuild_readable {s : Surroundings} (hs : ∀ n, s.refusal n = none)
    (hclock : ∀ n, (s.clock n).date.year < 4000) {bs : List Blueprint}
    (hread : ∀ b ∈ bs, b.Readable) {a : Agenda} (ha : a.Consistent) :
    (∃ b ∈ bs, b.NeverDue ∧ (a.rebuild s bs).2.Cleared ∧
        (a.rebuild s bs).1 = .error (.schedule b.id (.noUpcomingFire b.cronConfig))) ∨
      (∀ b ∈ bs, ¬ b.NeverDue) ∧ (a.rebuild s bs).2.Shows bs ∧
        (a.rebuild s bs).1 = .ok bs.length := by
  have houtcome := rebuild_outcome s bs ha
  split at houtcome
  · next hrefused =>
    obtain ⟨hresult, hconsistent, hjobs, -⟩ := houtcome
    have hshows := hconsistent.shows
    rw [hjobs] at hshows
    refine .inr ⟨fun b hb hnever => ?_, hshows, hresult⟩
    obtain ⟨n, hnone⟩ := accepted_of_refused? hrefused hb
    rw [Surroundings.fault?_eq_cronFault? (hs n),
      (Blueprint.cronFault?_eq_some_iff (hread b hb) (hclock n)).2 ⟨hnever, rfl⟩] at hnone
    cases hnone
  · next b source hrefused =>
    obtain ⟨hresult, hcleared⟩ := houtcome
    obtain ⟨hb, n, hsource⟩ := mem_of_refused? hrefused
    rw [Surroundings.fault?_eq_cronFault? (hs n)] at hsource
    obtain ⟨hnever, rfl⟩ :=
      (Blueprint.cronFault?_eq_some_iff (hread b hb) (hclock n)).1 hsource
    exact .inl ⟨b, hb, hnever, hcleared, hresult⟩

namespace Run

variable {registry : Registry} {r : Run registry}

/-- If the store is empty at first, only what validation lets through gets stored. -/
theorem readable_of_stored (hempty : (r.memory 0).blueprints = Table.empty) {i : Nat} {id : Uuid}
    {b : Blueprint} (h : (r.memory i).findBlueprint id = some b) (hmanual : b.isManual = false) :
    b.Readable := by
  obtain ⟨-, w, -, k, he⟩ := exists_save_of_stored hempty h
  obtain ⟨c, b₀, -, -, hcompletes⟩ := he.save_origin
  exact hcompletes.readable hmanual

end Run

namespace Shared

/-- Carries out a program of the request `k` while nothing else happens. -/
def perform {α : Type} (registry : Registry) (k : Nat) (chance : Chance) (p : Program α) :
    StateT Shared Option α :=
  p.run (m := StateT Shared Option) fun c s => s.answer registry k chance c

variable {registry : Registry} {k : Nat} {chance : Chance} {s : Shared}

theorem perform_call {α : Type} (c : Call) (next : c.Reply → Program α) :
    perform registry k chance (.call c next) s =
      (s.answer registry k chance c).bind fun x => perform registry k chance (next x.1) x.2 :=
  rfl

/-- A rebuild that nothing else comes in between is one for what the store holds. -/
theorem perform_reconcile (hfree : s.holder = none) :
    perform registry k chance Service.reconcile.run s =
      let rebuilt := s.agenda.rebuild { clock := chance.readings } s.memory.scheduled
      some (rebuilt.1, { s with agenda := rebuilt.2 }) := by
  let held : Shared := { s with holder := some k }
  obtain ⟨next, hreconcile, -, hnext⟩ := Service.reconcile_calls
  have hlock : s.answer registry k chance .lockAgenda = some ((), held) := by
    simp only [answer, hfree, if_true, held]
  have hfetch : held.answer registry k chance (.findBlueprints .schedulable) =
      some (.ok (s.memory.scheduled, .ofNat s.memory.scheduled.length), held) := by
    rw [← Memory.findBlueprints_schedulable]
    rfl
  rw [hreconcile, perform_call, hlock, Option.bind_some, perform_call, hfetch, Option.bind_some,
    hnext]
  simp only [perform_call, answer, Option.bind_some, held, ← hfree]
  rfl

end Shared

namespace Run

variable {registry : Registry} {r : Run registry}

/-- If the store is empty at first, what it is to run has expressions that can be read. -/
theorem readable_of_scheduled (hempty : (r.memory 0).blueprints = Table.empty) {i : Nat}
    {b : Blueprint} (hb : b ∈ (r.memory i).scheduled) : b.Readable := by
  obtain ⟨⟨id, hstored⟩, hschedulable⟩ := Memory.mem_scheduled.1 hb
  refine readable_of_stored hempty hstored ?_
  rw [Blueprint.isSchedulable, Bool.and_eq_true, Bool.not_eq_true'] at hschedulable
  exact hschedulable.2

end Run

/-! ## The 30th of February -/

namespace Sample

/-- A new blueprint that is to run on the 30th of February. -/
def thirtieth : Draft :=
  { midnightly with cronConfig := "0 0 30 2 *" }

/-- The schedule of this blueprint. -/
def thirtiethSchedule : Cron.Schedule where
  pattern := "0 0 30 2 *"
  minutes := { marks := [(0, .all)], lastDay := false }
  hours := { marks := [(0, .all)], lastDay := false }
  days := { marks := [(30, .all)], lastDay := false }
  months := { marks := [(2, .all)], lastDay := false }
  weekdays := { marks := (Cron.Field.values .weekday).map fun d => (d, .all), lastDay := false }
  anyDay := false
  anyWeekday := true

theorem not_matches_thirtiethSchedule (t : Instant) : ¬ thirtiethSchedule.Matches t := by
  intro h
  have hmonth : t.date.month = 2 := by
    simpa [thirtiethSchedule, Cron.Field.has] using h.month
  have hday : t.date.day = 30 := by
    simpa [thirtiethSchedule, Cron.Schedule.matchesDate, Cron.Schedule.matchesDay,
      Cron.Schedule.matchesClosest, Cron.Field.has] using h.date
  have hlength := t.date.valid.2.2.2
  rw [hmonth, hday, monthLength, if_pos rfl] at hlength
  split at hlength <;> omega

theorem neverDue_of_cronConfig {b : Blueprint} (h : b.cronConfig = thirtieth.cronConfig) :
    b.NeverDue := by
  have hread : Cron.read thirtieth.cronConfig = .ok thirtiethSchedule := by decide +kernel
  exact ⟨thirtiethSchedule, h ▸ hread, not_matches_thirtiethSchedule⟩

/-- A request creates a blueprint and is carried on to its end. Another one creates a blueprint
that is to run on the 30th of February, and is carried on until that is stored. -/
def acceptance : Run {} :=
  .ofActions {} empty
    (.arrive (.create midnightly) :: List.replicate 7 (.proceed 0 chance) ++
      .arrive (.create thirtieth) :: List.replicate 3 (.proceed 1 { chance with id := .ofNat 2 }))
    empty_initial (by decide +kernel)

theorem acceptance_stored : ∃ b, (acceptance.memory 12).findBlueprint (.ofNat 2) = some b ∧
    b.isSchedulable = true ∧ b.cronConfig = thirtieth.cronConfig := by
  have h : ((acceptance.memory 12).findBlueprint (.ofNat 2)).any (fun b =>
      b.isSchedulable && b.cronConfig == thirtieth.cronConfig) = true := by
    decide +kernel
  obtain ⟨b, hb, h⟩ := (Option.any_eq_true _ _).1 h
  rw [Bool.and_eq_true, beq_iff_eq] at h
  exact ⟨b, hb, h.1, h.2⟩

end Sample

namespace Run

variable {registry : Registry} {r : Run registry}

/-- Let the store be empty at first and the clock not yet show the year 4000, and let nobody hold
the agenda, as is the case while no request is under way (`free_of_quiet`). Then a rebuild fails
with an error of the schedule just if a stored blueprint that is enabled and not manual is never
due. In that case the error is for such a blueprint, and the agenda is left empty and stopped.
Otherwise the agenda shows all that the store is to run. -/
theorem reconcile_refused_iff (hempty : (r.memory 0).blueprints = Table.empty) {i : Nat}
    (hfree : (r.state i).shared.holder = none) (k : Nat) (chance : Chance)
    (hclock : ∀ n, (chance.readings n).date.year < 4000) :
    ∃ result shared, Shared.perform registry k chance Service.reconcile.run (r.state i).shared =
        some (result, shared) ∧
      ((∃ id source, result = .error (.schedule id source)) ↔
        ∃ id b, (r.memory i).findBlueprint id = some b ∧ b.isSchedulable = true ∧ b.NeverDue) ∧
      (∀ e, result = .error e → shared.agenda.Cleared ∧
        ∃ b ∈ (r.memory i).scheduled, b.NeverDue ∧
          e = .schedule b.id (.noUpcomingFire b.cronConfig)) ∧
      (∀ n, result = .ok n → n = (r.memory i).scheduled.length ∧
        shared.agenda.Shows (r.memory i).scheduled) := by
  let s : Surroundings := { clock := chance.readings }
  have hread : ∀ b ∈ (r.memory i).scheduled, b.Readable := fun b => readable_of_scheduled hempty
  have houtcome := Agenda.rebuild_readable (s := s) (fun _ => rfl) hclock hread
    (r.agenda_consistent i)
  refine ⟨((r.agenda i).rebuild s (r.memory i).scheduled).1, _, Shared.perform_reconcile hfree, ?_⟩
  change (_ ↔ _) ∧ (∀ e, _ → ((r.agenda i).rebuild s (r.memory i).scheduled).2.Cleared ∧ _) ∧
    ∀ n, _ → n = _ ∧ ((r.agenda i).rebuild s (r.memory i).scheduled).2.Shows _
  rcases houtcome with ⟨b, hb, hnever, hcleared, hresult⟩ | ⟨hdue, hshows, hresult⟩
  · rw [hresult]
    refine ⟨⟨fun _ => ?_, fun _ => ⟨_, _, rfl⟩⟩, ?_, ?_⟩
    · obtain ⟨⟨id, hstored⟩, hschedulable⟩ := Memory.mem_scheduled.1 hb
      exact ⟨id, b, hstored, hschedulable, hnever⟩
    · rintro e ⟨⟩
      exact ⟨hcleared, b, hb, hnever, rfl⟩
    · rintro n ⟨⟩
  · rw [hresult]
    refine ⟨⟨?_, ?_⟩, ?_, ?_⟩
    · rintro ⟨id, source, ⟨⟩⟩
    · rintro ⟨id, b, hstored, hschedulable, hnever⟩
      exact absurd hnever (hdue b (Memory.mem_scheduled.2 ⟨⟨id, hstored⟩, hschedulable⟩))
    · rintro e ⟨⟩
    · rintro n ⟨⟩
      exact ⟨rfl, hshows⟩

theorem acceptance_refused : (Sample.acceptance.agenda 12).owners.values = [.ofNat 1] ∧
    ∃ (b : Blueprint) (shared : Shared), b.NeverDue ∧ shared.agenda.Cleared ∧
      Shared.perform {} 2 Sample.chance Service.reconcile.run (Sample.acceptance.state 12).shared =
        some (.error (.schedule b.id (.noUpcomingFire b.cronConfig)), shared) := by
  refine ⟨by decide +kernel, ?_⟩
  obtain ⟨result, shared, hperform, hrefused, herror, -⟩ :=
    reconcile_refused_iff (r := Sample.acceptance) (i := 12) rfl (by decide +kernel) 2
      Sample.chance fun _ => (by decide : (1970 : Int) < 4000)
  obtain ⟨b, hb, hschedulable, hcron⟩ := Sample.acceptance_stored
  obtain ⟨id, source, rfl⟩ :=
    hrefused.2 ⟨_, b, hb, hschedulable, Sample.neverDue_of_cronConfig hcron⟩
  obtain ⟨hcleared, b', -, hnever, he⟩ := herror _ rfl
  exact ⟨b', shared, hnever, hcleared, he ▸ hperform⟩

end Run

end Ingestion
