import Mathlib
import Ingestion.Proofs.Schedule.History

/-!
# Pending runs and rebuilds

A rebuild makes a new entry for a blueprint that has been waiting, and starts the timer anew. What
counts is the reading of the clock at this start, the last one of the rebuild. If the instant that
the blueprint has been waiting for still lies ahead then, the new entry waits for it again. If not,
it is passed over, and the blueprint is never run for it (`History.pending_kept_or_passed`): what
would have been due while the timer did not run is not made up for.
-/

namespace Ingestion

namespace Agenda

theorem Consistent.registers_of_entries_ne {a a' : Agenda} (ha : a.Consistent)
    {s : Surroundings} {bs : List Blueprint} (h : (a.rebuild s bs).2 = a')
    (hne : a'.engine.entries ≠ []) :
    (a.rebuild s bs).1 = .ok bs.length ∧ a'.Registers bs := by
  subst h
  rcases ha.rebuild_cases s bs with ⟨hresult, hregisters, -⟩ | ⟨-, -, -, -, -, -, -, hcleared⟩
  · exact ⟨hresult, hregisters⟩
  · exact absurd hcleared.entries hne

namespace History

variable {h : History} {i n : Nat} {m : Memory} {readings : Nat → Instant}

/-- After a rebuild that succeeds, a blueprint that is scheduled has one entry, which waits from the
reading of the start on. -/
theorem exists_rebuilt {b : Blueprint} {schedule : Cron.Schedule}
    (hok : conduct (fun q => .ok (m.findBlueprints q)) readings Service.reconcile.run
      (h.agenda i) = some (.ok n, h.agenda (i + 1)))
    (hb : b ∈ m.scheduled) (hread : Cron.read b.cronConfig = .ok schedule) :
    ∃ e ∈ (h.agenda (i + 1)).engine.entries, e.job = b ∧
      e.nextFire = schedule.next? (readings m.scheduled.length) := by
  rw [conduct_reconcile] at hok
  simp only [Memory.findBlueprints_schedulable, Option.some.injEq] at hok
  have hagenda := congrArg Prod.snd hok
  have hresult := congrArg Prod.fst hok
  dsimp only at hagenda hresult
  have hconsistent := (h.reachable i).consistent
  have hjobs : (h.agenda (i + 1)).jobs = m.scheduled := by
    rcases hconsistent.rebuild_cases { clock := readings } m.scheduled with
      ⟨-, hregisters, -⟩ | ⟨_, _, _, -, -, -, herror, -⟩
    · rw [← hagenda]
      exact hregisters.jobs
    · rw [hresult] at herror
      cases herror
  rw [← hjobs] at hb
  obtain ⟨e, he, rfl⟩ := List.mem_map.1 hb
  refine ⟨e, he, rfl, ?_⟩
  have hexpression := (h.reachable (i + 1)).consistent.expression e he
  rw [← hagenda] at he
  obtain ⟨hread', hnext⟩ := rebuild_waits hconsistent he
  rw [hexpression, hread] at hread'
  cases hread'
  exact hnext

/-- If the entries that are held for a blueprint after an event other than a tick wait for instants
after the one that its entry waits for before, it is never fired for this instant. -/
theorem fired_ne_of_later {e : Entry Blueprint} {u : Instant}
    (he : e ∈ (h.agenda i).engine.entries) (hu : e.nextFire = some u) (hevent : h.event i ≠ .tick)
    (hlater : ∀ j > i, ∀ e' ∈ (h.agenda j).engine.entries, e'.job.id = e.job.id →
      ∀ v, e'.nextFire = some v → u < v) (k : Nat) :
    ∀ f ∈ h.fired k, f.job.id = e.job.id → f.nextFire ≠ some u := by
  intro f hf hid hfu
  obtain ⟨htick, -, hheld, hdue⟩ := mem_fired.1 hf
  obtain ⟨u', hu', hdue'⟩ := Entry.isDue_iff.1 hdue
  rw [hfu] at hu'
  cases hu'
  rcases Nat.lt_trichotomy k i with hki | rfl | hik
  · -- The entry would not wait for the instant any more.
    exact absurd hdue' (Instant.not_le.2 (later_of_fired hf hki he hu))
  · exact hevent htick
  · exact absurd (Instant.le_refl u) (Instant.not_le.2 (hlater k hik f hheld hid u hfu))

end History

end Agenda

/-! ## A rebuild at midnight -/

namespace Sample

theorem late_agenda_two : late.agenda 2 = (registered.wake noon).2 := by
  rw [Agenda.History.agenda_tick (h := late) (i := 1) rfl, late_agenda_one]
  rfl

/-- After the late tick the blueprint waits for the next midnight. -/
theorem late_pending : (late.agenda 2).engine.isRunning = true ∧
    ∃ e ∈ (late.agenda 2).engine.entries, e.job = midnight ∧ e.nextFire = some nextMidnight := by
  have hjobs : (registered.wake noon).2.jobs = [midnight] := by
    have hregistered : registered.engine.entries.isEmpty = false := by
      decide +kernel
    have hne : registered.engine.entries ≠ [] := by
      intro hnone
      rw [hnone] at hregistered
      cases hregistered
    have hrebuilt : (({} : Agenda).rebuild { clock := fun _ => .midnight .epoch } [midnight]).2 =
        registered := by
      rw [registered]
    obtain ⟨-, hregisters⟩ := Agenda.consistent_empty.registers_of_entries_ne hrebuilt hne
    have hshows : registered.Shows registered.jobs := by
      rw [← late_agenda_one]
      exact (late.reachable 1).consistent.shows
    rw [(hshows.wake noon).jobs]
    exact hregisters.jobs
  have hnext : (registered.wake noon).2.engine.entries.map (·.nextFire) = [some nextMidnight] := by
    decide +kernel
  have hrunning : (registered.wake noon).2.engine.isRunning = true := by
    decide +kernel
  rw [late_agenda_two]
  refine ⟨hrunning, ?_⟩
  obtain ⟨e, he, hu⟩ := List.mem_map.1 (hnext ▸ List.mem_singleton_self _)
  refine ⟨e, he, ?_, hu⟩
  have hmem : e.job ∈ (registered.wake noon).2.jobs := List.mem_map_of_mem he
  rw [hjobs] at hmem
  exact List.mem_singleton.1 hmem

theorem late_agenda_three : late.agenda 3 =
    ((registered.wake noon).2.rebuild { clock := fun _ => nextMidnight } [midnight]).2 := by
  rw [Agenda.History.agenda_reconcile_memory (h := late) (i := 2) rfl, midnightStore_scheduled,
    late_agenda_two]

/-- After the rebuild at midnight the blueprint waits for the midnight that follows. -/
theorem late_rebuilt : (late.agenda 3).engine.entries.map (·.nextFire) =
    [some (.midnight ⟨1970, 1, 6, by decide⟩)] := by
  rw [late_agenda_three]
  decide +kernel

theorem late_reconciled :
    Agenda.conduct (fun q => .ok (midnightStore.findBlueprints q)) (fun _ => nextMidnight)
      Service.reconcile.run (late.agenda 2) = some (.ok 1, late.agenda 3) := by
  have hne : (late.agenda 3).engine.entries ≠ [] := by
    intro hnone
    have hrebuilt := late_rebuilt
    rw [hnone] at hrebuilt
    cases hrebuilt
  have hagenda : ((late.agenda 2).rebuild { clock := fun _ => nextMidnight } [midnight]).2 =
      late.agenda 3 := by
    rw [late_agenda_three, late_agenda_two]
  obtain ⟨hresult, -⟩ := (late.reachable 2).consistent.registers_of_entries_ne hagenda hne
  rw [Agenda.conduct_reconcile, Memory.findBlueprints_schedulable, midnightStore_scheduled]
  exact congrArg some (Prod.ext hresult hagenda)

theorem midnightStore_stored : midnightStore.findBlueprint midnight.id = some midnight :=
  Table.find?_insert_self _ _ _

end Sample

namespace Agenda

namespace History

variable {h : History} {i n : Nat} {m : Memory} {readings : Nat → Instant} {e : Entry Blueprint}
  {u : Instant}

/-- A blueprint whose entry waits for the instant `u` is reconciled unchanged. Afterwards it has one
entry again, which waits for what a search gives that starts at the reading of the start. This is
the first instant after the reading at which the schedule is due. The search comes to it if it falls
before the year 5000, so that the entry waits for some instant as long as the clock shows a year
before 4000. If the reading is before `u`, the entry waits for `u` itself. If not, all entries that
are ever held for the blueprint from then on wait for instants after `u`, and no entry of it is ever
fired for `u`. -/
theorem pending_kept_or_passed
    (hevent : h.event i = .reconcile (fun q => .ok (m.findBlueprints q)) readings)
    (hok : conduct (fun q => .ok (m.findBlueprints q)) readings Service.reconcile.run
      (h.agenda i) = some (.ok n, h.agenda (i + 1)))
    (he : e ∈ (h.agenda i).engine.entries) (hu : e.nextFire = some u)
    (hstored : m.findBlueprint e.job.id = some e.job)
    (hschedulable : e.job.isSchedulable = true) :
    ∃ e' ∈ (h.agenda (i + 1)).engine.entries, e'.job = e.job ∧
      (∀ e'' ∈ (h.agenda (i + 1)).engine.entries, e''.job.id = e.job.id → e'' = e') ∧
      e'.nextFire = e.schedule.next? (readings m.scheduled.length) ∧
      (∀ v, e'.nextFire = some v → e.schedule.IsNext (readings m.scheduled.length) v) ∧
      (∀ v, v.date.year < 5000 → e.schedule.IsNext (readings m.scheduled.length) v →
        e'.nextFire = some v) ∧
      ((readings m.scheduled.length).date.year < 4000 → ∃ v, e'.nextFire = some v) ∧
      (readings m.scheduled.length < u → e'.nextFire = some u) ∧
      (u ≤ readings m.scheduled.length →
        (∀ j > i, ∀ e'' ∈ (h.agenda j).engine.entries, e''.job.id = e.job.id →
          ∀ v, e''.nextFire = some v → u < v) ∧
        ∀ k, ∀ f ∈ h.fired k, f.job.id = e.job.id → f.nextFire ≠ some u) := by
  have hpossible := h.possible i
  rw [hevent] at hpossible
  obtain ⟨hle, hle'⟩ := hpossible.readings m.scheduled.length
  have hwaits := waits he
  have hread : Cron.read e.job.cronConfig = .ok e.schedule := by
    rw [← (h.reachable i).consistent.expression e he]
    exact hwaits.read
  obtain ⟨e', he', hjob, hnext⟩ :=
    exists_rebuilt hok (Memory.mem_scheduled.2 ⟨⟨e.job.id, hstored⟩, hschedulable⟩) hread
  have honly : ∀ e'' ∈ (h.agenda (i + 1)).engine.entries, e''.job.id = e.job.id → e'' = e' := by
    intro e'' he'' hid
    exact eq_of_id_eq he'' he' (by rw [hid, hjob])
  have hisNext : ∀ v, e'.nextFire = some v →
      e.schedule.IsNext (readings m.scheduled.length) v := by
    intro v hv
    rw [hnext] at hv
    exact Cron.Schedule.isNext_of_next? hv
  refine ⟨e', he', hjob, honly, hnext, hisNext, ?_, ?_, ?_, ?_⟩
  · intro v hyear hv
    rw [hnext]
    exact hv.next?_eq hyear
  · intro hyear
    rw [hnext]
    -- The schedule is due at `u`, and so once more before the search ends.
    exact (Cron.Schedule.exists_next?_iff hyear).2 ⟨u, hwaits.due hu⟩
  · intro hlt
    rw [hnext]
    exact hwaits.next?_eq hu hle hlt
  · intro hpassed
    have hlater : ∀ j > i, ∀ e'' ∈ (h.agenda j).engine.entries, e''.job.id = e.job.id →
        ∀ v, e''.nextFire = some v → u < v := by
      intro j hij
      refine later_of_later (i := i + 1) (Instant.le_trans hpassed hle') ?_ hij
      intro e'' he'' hid v hv
      rw [honly e'' he'' hid] at hv
      exact Instant.lt_of_le_of_lt hpassed (hisNext v hv).later
    have hreconcile : h.event i ≠ .tick := by
      rw [hevent]
      rintro ⟨⟩
    exact ⟨hlater, fired_ne_of_later he hu hreconcile hlater⟩

/-- A rebuild that reads the clock at the very instant at which a run is due loses the run. The new
entry waits for a later one. -/
theorem pending_passed_over :
    ∃ e ∈ (Sample.late.agenda 2).engine.entries, e.nextFire = some Sample.nextMidnight ∧
      (∃ e' ∈ (Sample.late.agenda 3).engine.entries, e'.job = e.job ∧
        ∃ v, e'.nextFire = some v ∧ Sample.nextMidnight < v) ∧
      ∀ k, ∀ f ∈ Sample.late.fired k, f.job.id = e.job.id →
        f.nextFire ≠ some Sample.nextMidnight := by
  obtain ⟨-, e, he, hjob, hu⟩ := Sample.late_pending
  have hstored : Sample.midnightStore.findBlueprint e.job.id = some e.job := by
    rw [hjob]
    exact Sample.midnightStore_stored
  have hschedulable : e.job.isSchedulable = true := by
    rw [hjob]
    rfl
  obtain ⟨e', he', hjob', -, -, hisNext, -, hwaits, -, hpassed⟩ :=
    pending_kept_or_passed (h := Sample.late) (i := 2) rfl Sample.late_reconciled he hu hstored
      hschedulable
  obtain ⟨v, hv⟩ := hwaits (by decide)
  exact ⟨e, he, hu, ⟨e', he', hjob', v, hv, (hisNext v hv).later⟩, (hpassed (Instant.le_refl _)).2⟩

/-- A run that is pending while the agenda is reconciled need not be pending afterwards, although
the timer has been running, the rebuild succeeds and the blueprint has not been changed. -/
theorem pending_not_kept : ¬ ∀ (h : History) (i n : Nat) (m : Memory) (readings : Nat → Instant)
    (e : Entry Blueprint) (u : Instant), (h.agenda i).engine.isRunning = true →
    e ∈ (h.agenda i).engine.entries → e.nextFire = some u →
    h.event i = .reconcile (fun q => .ok (m.findBlueprints q)) readings →
    conduct (fun q => .ok (m.findBlueprints q)) readings Service.reconcile.run (h.agenda i) =
      some (.ok n, h.agenda (i + 1)) →
    m.findBlueprint e.job.id = some e.job → e.job.isSchedulable = true →
    ∃ e' ∈ (h.agenda (i + 1)).engine.entries, e'.job.id = e.job.id ∧ e'.nextFire = some u := by
  intro hkept
  obtain ⟨hrunning, e, he, hjob, hu⟩ := Sample.late_pending
  obtain ⟨e', he', -, hu'⟩ := hkept Sample.late 2 1 Sample.midnightStore
    (fun _ => Sample.nextMidnight) e Sample.nextMidnight hrunning he hu rfl Sample.late_reconciled
    (by rw [hjob]; exact Sample.midnightStore_stored) (by rw [hjob]; rfl)
  have hmem : e'.nextFire ∈ (Sample.late.agenda 3).engine.entries.map (·.nextFire) :=
    List.mem_map_of_mem he'
  rw [Sample.late_rebuilt, hu', List.mem_singleton] at hmem
  exact absurd hmem (by decide)

end History

end Agenda

end Ingestion
