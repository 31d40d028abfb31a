import Mathlib
import Ingestion.Proofs.Schedule.History

/-!
# Listing the agenda

An agenda is listed by looking up the blueprint of every entry under the number of the entry, and
sorting what is found. An entry whose number has no blueprint would be left out without a word.
There is none: an agenda keeps for each of its entries the blueprint that the entry runs
(`Agenda.Consistent.list_perm`).

So a listing shows what the last rebuild has been given, or nothing if that rebuild has been
aborted. Failures of the store, stops and ticks of the timer in the meantime change the instants
only (`Agenda.ReachedAfter.lists_last_rebuild`).
-/

namespace Ingestion

/-! ## The order of a listing -/

namespace ScheduledBlueprint

/-- An entry is due before another one is, or that one is not due again. Of entries that are due at
one instant, or not due again, the one of the smaller number comes first. -/
inductive Precedes (x y : ScheduledBlueprint) : Prop where
  | sooner {s t : Instant} (hx : x.nextFire = some s) (hy : y.nextFire = some t) (hlt : s < t)
  | never {s : Instant} (hx : x.nextFire = some s) (hy : y.nextFire = none)
  | tie (hfire : x.nextFire = y.nextFire) (hid : x.entryId < y.entryId)

theorem Precedes.asymm {x y : ScheduledBlueprint} (hxy : x.Precedes y) : ¬ y.Precedes x := by
  intro hyx
  cases hxy with
  | sooner hx hy hlt =>
    cases hyx with
    | sooner hy' hx' hlt' =>
      cases hx.symm.trans hx'
      cases hy.symm.trans hy'
      exact Instant.not_le.2 hlt (Instant.le_of_lt hlt')
    | never _ hx' => cases hx.symm.trans hx'
    | tie hfire _ =>
      rw [hx, hy] at hfire
      cases hfire
      exact Instant.not_le.2 hlt (Instant.le_refl _)
  | never hx hy =>
    cases hyx with
    | sooner hy' _ _ => cases hy.symm.trans hy'
    | never hy' _ => cases hy.symm.trans hy'
    | tie hfire _ =>
      rw [hx, hy] at hfire
      cases hfire
  | tie hfire hid =>
    cases hyx with
    | sooner hy hx hlt =>
      rw [hx, hy] at hfire
      cases hfire
      exact Instant.not_le.2 hlt (Instant.le_refl _)
    | never hy hx =>
      rw [hx, hy] at hfire
      cases hfire
    | tie _ hid' => exact Nat.lt_asymm hid hid'

/-- Sorted listings of the same entries are the same. -/
theorem eq_of_perm_of_sorted {xs ys : List ScheduledBlueprint} (hperm : xs.Perm ys)
    (hxs : xs.Pairwise Precedes) (hys : ys.Pairwise Precedes) : xs = ys :=
  hperm.eq_of_pairwise (fun _ _ _ _ hxy hyx => absurd hyx hxy.asymm) hxs hys

theorem precedes_of_before {x y : ScheduledBlueprint} (h : x.before y = true)
    (hne : x.entryId ≠ y.entryId) : x.Precedes y := by
  unfold before at h
  split at h
  · next s t hx hy =>
    simp only [Bool.or_eq_true, Bool.and_eq_true, decide_eq_true_eq, beq_iff_eq] at h
    rcases h with hlt | ⟨rfl, hle⟩
    · exact .sooner hx hy hlt
    · exact .tie (hx.trans hy.symm) (Nat.lt_of_le_of_ne hle hne)
  · next s hx hy => exact .never hx hy
  · cases h
  · next hx hy =>
    exact .tie (hx.trans hy.symm) (Nat.lt_of_le_of_ne (of_decide_eq_true h) hne)

theorem before_trans (x y z : ScheduledBlueprint) (hxy : x.before y = true)
    (hyz : y.before z = true) : x.before z = true := by
  cases hx : x.nextFire <;> cases hy : y.nextFire <;> cases hz : z.nextFire <;>
    simp only [before, hx, hy, hz, Bool.or_eq_true, Bool.and_eq_true, decide_eq_true_eq,
      beq_iff_eq, Instant.eq_iff_rank, Instant.lt_iff_rank, reduceCtorEq] at hxy hyz ⊢ <;>
    omega

theorem before_total (x y : ScheduledBlueprint) : (x.before y || y.before x) = true := by
  cases hx : x.nextFire <;> cases hy : y.nextFire <;>
    simp only [before, hx, hy, Bool.or_eq_true, Bool.and_eq_true, decide_eq_true_eq,
      beq_iff_eq, Instant.eq_iff_rank, Instant.lt_iff_rank, reduceCtorEq, or_true, true_or] <;>
    omega

/-- Entries with different numbers are sorted without ties. -/
theorem sorted_of_nodup {xs : List ScheduledBlueprint} (h : (xs.map (·.entryId)).Nodup) :
    (xs.mergeSort before).Pairwise Precedes := by
  have hperm := List.mergeSort_perm xs before
  have hne : (xs.mergeSort before).Pairwise fun x y => x.entryId ≠ y.entryId :=
    List.pairwise_map.1 ((hperm.map _).nodup_iff.2 h)
  refine ((List.pairwise_mergeSort before_trans before_total xs).and hne).imp ?_
  rintro x y ⟨hbefore, hid⟩
  exact precedes_of_before hbefore hid

end ScheduledBlueprint

/-! ## The blueprints of a store -/

namespace Memory

theorem Keyed.mem_scheduled_iff {m : Memory} (h : m.Keyed) {b : Blueprint} :
    b ∈ m.scheduled ↔ m.findBlueprint b.id = some b ∧ b.enable = true ∧ b.isManual = false := by
  rw [mem_scheduled, Blueprint.isSchedulable, Bool.and_eq_true, Bool.not_eq_true']
  refine and_congr_left' ⟨?_, fun hb => ⟨b.id, hb⟩⟩
  rintro ⟨id, hb⟩
  rwa [h id b hb]

end Memory

namespace Agenda

variable {a : Agenda}

/-! ## The entries that are listed -/

/-- An entry as it is listed for the blueprint that it runs. -/
def listing (e : Entry Blueprint) : ScheduledBlueprint where
  entryId := e.id
  blueprintId := e.job.id
  cronConfig := e.job.cronConfig
  nextFire := e.nextFire

/-- Every entry has an owner, which is the blueprint that it runs. -/
theorem Consistent.listed?_eq (h : a.Consistent) {e : Entry Blueprint}
    (he : e ∈ a.engine.entries) : a.listed? e = some (listing e) := by
  have howner : a.owners.find? e.id = some e.job.id := by
    rw [Table.find?_eq_some_iff, h.owners]
    exact List.mem_map_of_mem he
  rw [listed?, howner, Option.map_some, h.expression e he]
  rfl

theorem Consistent.listed_entries (h : a.Consistent) :
    a.engine.entries.filterMap a.listed? = a.engine.entries.map listing := by
  rw [← List.filterMap_eq_map]
  exact List.filterMap_congr fun e he => h.listed?_eq he

/-- No entry is left out of a listing. -/
theorem Consistent.list_perm (h : a.Consistent) :
    a.list.Perm (a.engine.entries.map listing) := by
  rw [list, h.listed_entries]
  exact List.mergeSort_perm _ _

theorem Consistent.list_sorted (h : a.Consistent) :
    a.list.Pairwise ScheduledBlueprint.Precedes := by
  rw [list, h.listed_entries]
  refine ScheduledBlueprint.sorted_of_nodup ?_
  rw [List.map_map]
  exact h.numbers_nodup

/-- The blueprints that are listed are those that the entries run, each as often as it is run. -/
theorem Consistent.list_jobs_perm (h : a.Consistent) :
    (a.list.map fun s => (s.blueprintId, s.cronConfig)).Perm
      (a.jobs.map fun b => (b.id, b.cronConfig)) := by
  have hperm := h.list_perm.map fun s => (s.blueprintId, s.cronConfig)
  rw [List.map_map] at hperm
  rw [jobs, List.map_map]
  exact hperm

/-! ## The last rebuild -/

/-- A rebuild: what the store has found for it, and its result. -/
structure Rebuild where
  found : List Blueprint
  result : Except RequestError Nat

/-- The blueprints that the last rebuild has left in the agenda. A rebuild that is aborted leaves
none. -/
def kept : Option Rebuild → List Blueprint
  | some ⟨bs, .ok _⟩ => bs
  | some ⟨_, .error _⟩ => []
  | none => []

/-- The agendas that come about when an empty one is reconciled again and again, whatever the store
replies, stopped, and run by its timer, with the last rebuild. If the store fails, nothing is
rebuilt. -/
inductive ReachedAfter : Option Rebuild → Agenda → Prop where
  | empty : ReachedAfter none {}
  | failed {last : Option Rebuild} {a a' : Agenda} {result : Except RequestError Nat}
      {e : StoreError} (fetch : Query → Except StoreError (List Blueprint × Int64))
      (clock : Nat → Instant) (ha : ReachedAfter last a) (hfetch : fetch .schedulable = .error e)
      (h : conduct fetch clock Service.reconcile.run a = some (result, a')) :
      ReachedAfter last a'
  | rebuilt {last : Option Rebuild} {a a' : Agenda} {result : Except RequestError Nat}
      {bs : List Blueprint} {n : Int64}
      (fetch : Query → Except StoreError (List Blueprint × Int64)) (clock : Nat → Instant)
      (ha : ReachedAfter last a) (hfetch : fetch .schedulable = .ok (bs, n))
      (h : conduct fetch clock Service.reconcile.run a = some (result, a')) :
      ReachedAfter (some ⟨bs, result⟩) a'
  | shutdown {last : Option Rebuild} {a a' : Agenda}
      (fetch : Query → Except StoreError (List Blueprint × Int64)) (clock : Nat → Instant)
      (ha : ReachedAfter last a) (h : conduct fetch clock Service.shutdown a = some ((), a')) :
      ReachedAfter last a'
  | wake {last : Option Rebuild} {a : Agenda} (now : Instant) (ha : ReachedAfter last a) :
      ReachedAfter last (a.wake now).2

/-- These are all agendas that come about. -/
theorem reachable_iff : a.Reachable ↔ ∃ last, ReachedAfter last a := by
  constructor
  · intro h
    induction h with
    | empty => exact ⟨_, .empty⟩
    | reconcile fetch clock _ h ih =>
      obtain ⟨last, ha⟩ := ih
      cases hfetch : fetch .schedulable with
      | error e => exact ⟨_, .failed fetch clock ha hfetch h⟩
      | ok found => exact ⟨_, .rebuilt fetch clock ha hfetch h⟩
    | shutdown fetch clock _ h ih =>
      obtain ⟨last, ha⟩ := ih
      exact ⟨_, .shutdown fetch clock ha h⟩
    | wake now _ ih =>
      obtain ⟨last, ha⟩ := ih
      exact ⟨_, .wake now ha⟩
  · rintro ⟨last, h⟩
    induction h with
    | empty => exact .empty
    | failed fetch clock _ _ h ih => exact .reconcile fetch clock ih h
    | rebuilt fetch clock _ _ h ih => exact .reconcile fetch clock ih h
    | shutdown fetch clock _ h ih => exact .shutdown fetch clock ih h
    | wake now _ ih => exact .wake now ih

theorem ReachedAfter.rebuild {last : Option Rebuild} (h : ReachedAfter last a)
    (clock : Nat → Instant) (bs : List Blueprint) :
    ReachedAfter (some ⟨bs, (a.rebuild { clock } bs).1⟩) (a.rebuild { clock } bs).2 :=
  .rebuilt (fun _ => .ok (bs, 0)) clock h rfl (conduct_reconcile a)

/-- What a rebuild leaves in the agenda is what its result says. -/
theorem Consistent.jobs_rebuild (h : a.Consistent) (s : Surroundings) (bs : List Blueprint) :
    (a.rebuild s bs).2.jobs = kept (some ⟨bs, (a.rebuild s bs).1⟩) := by
  rcases h.rebuild_cases s bs with
    ⟨hresult, hregisters, -⟩ | ⟨-, b, source, -, -, -, hresult, hcleared⟩
  · rw [hresult]
    exact hregisters.jobs
  · rw [hresult, jobs, hcleared.entries]
    rfl

theorem ReachedAfter.consistent {last : Option Rebuild} (h : ReachedAfter last a) :
    a.Consistent :=
  (reachable_iff.2 ⟨last, h⟩).consistent

/-- Until the next rebuild an agenda runs what the last one has left. -/
theorem ReachedAfter.jobs_eq {last : Option Rebuild} (h : ReachedAfter last a) :
    a.jobs = kept last := by
  induction h with
  | empty => rfl
  | failed fetch clock _ hfetch h ih =>
    rw [conduct_reconcile, hfetch] at h
    cases h
    exact ih
  | rebuilt fetch clock ha hfetch h _ =>
    rw [conduct_reconcile, hfetch] at h
    obtain ⟨rfl, rfl⟩ := Prod.mk.inj (Option.some.inj h)
    exact ha.consistent.jobs_rebuild _ _
  | shutdown fetch clock _ h ih =>
    rw [conduct_shutdown] at h
    cases h
    exact ih
  | wake now ha ih =>
    rw [← ih]
    exact (ha.consistent.shows.wake now).jobs

variable {m : Memory} {result : Except RequestError Nat}

theorem kept_nodup (hkeyed : m.Keyed) :
    ((kept (some ⟨m.scheduled, result⟩)).map (·.id)).Nodup := by
  cases result with
  | ok n => exact hkeyed.scheduled_nodup
  | error e => exact List.nodup_nil

theorem mem_kept_iff (hkeyed : m.Keyed) {b : Blueprint} :
    b ∈ kept (some ⟨m.scheduled, result⟩) ↔ (∃ n, result = .ok n) ∧
      m.findBlueprint b.id = some b ∧ b.enable = true ∧ b.isManual = false := by
  cases result with
  | ok n => simp [kept, hkeyed.mem_scheduled_iff]
  | error e => simp [kept]

end Agenda

namespace Sample

/-- The replies of a store that cannot be reached. -/
def outage : Query → Except StoreError (List Blueprint × Int64) :=
  fun _ => .error (.unavailable "no connection")

/-- A blueprint that is run at every noon. -/
def midday : Blueprint :=
  { midnight with id := .ofNat 2, cronConfig := "0 12 * * *" }

/-- Another blueprint that is run at every midnight. -/
def midnightAgain : Blueprint :=
  { midnight with id := .ofNat 3 }

/-- A store that holds three blueprints. -/
def reminders : Memory where
  blueprints := ((Table.empty.insert midnight.id midnight).insert midday.id midday).insert
    midnightAgain.id midnightAgain

theorem reminders_scheduled : reminders.scheduled = [midnight, midday, midnightAgain] :=
  List.mergeSort_of_pairwise (by decide)

theorem reminders_keyed : reminders.Keyed :=
  ((Memory.keyed_empty.insert midnight).insert midday).insert midnightAgain

/-- The agenda after it has been rebuilt for them. -/
def reminded : Agenda :=
  (({} : Agenda).rebuild { clock := fun _ => .midnight .epoch }
    [midnight, midday, midnightAgain]).2

/-- The noon that follows. -/
def nextNoon : Instant :=
  { noon with date := nextMidnight.date }

/-- Its entries after a tick at noon, as they are listed. -/
def reminderEntries : List ScheduledBlueprint :=
  [⟨1, .ofNat 1, "0 0 * * *", some nextMidnight⟩, ⟨2, .ofNat 2, "0 12 * * *", some nextNoon⟩,
    ⟨3, .ofNat 3, "0 0 * * *", some nextMidnight⟩]

/-- The same entries, the one that is due soonest first. -/
def reminderList : List ScheduledBlueprint :=
  [⟨1, .ofNat 1, "0 0 * * *", some nextMidnight⟩, ⟨3, .ofNat 3, "0 0 * * *", some nextMidnight⟩,
    ⟨2, .ofNat 2, "0 12 * * *", some nextNoon⟩]

theorem reminderList_sorted : reminderList.Pairwise ScheduledBlueprint.Precedes := by
  have hlt : nextMidnight < nextNoon := by decide
  refine .cons ?_ (.cons ?_ (List.pairwise_singleton _ _))
  · refine List.forall_mem_cons.2 ⟨.tie rfl (by decide), List.forall_mem_singleton.2 ?_⟩
    exact .sooner rfl rfl hlt
  · exact List.forall_mem_singleton.2 (.sooner rfl rfl hlt)

end Sample

namespace Agenda

variable {a : Agenda}

/-- In every state that an agenda comes to, it lists each of its entries once, with the blueprint
that the entry runs, and sorted. The blueprints listed are those that the last rebuild has been
given, with their expressions, or none if that rebuild has been aborted. If it has been given those
of a store, these are the enabled ones that are not manual, each of them once. -/
theorem ReachedAfter.lists_last_rebuild {last : Option Rebuild} (h : ReachedAfter last a)
    (fetch : Query → Except StoreError (List Blueprint × Int64)) (clock : Nat → Instant) :
    conduct fetch clock Service.schedule a = some (a.list, a) ∧
    a.list.Perm (a.engine.entries.map listing) ∧
    (a.list.map fun s => (s.blueprintId, s.cronConfig)).Perm
      ((kept last).map fun b => (b.id, b.cronConfig)) ∧
    a.list.Pairwise ScheduledBlueprint.Precedes ∧
    ∀ (m : Memory) (result : Except RequestError Nat), m.Keyed →
      last = some ⟨m.scheduled, result⟩ →
      (a.list.map (·.blueprintId)).Nodup ∧
      ∀ id cronConfig,
        (∃ s ∈ a.list, s.blueprintId = id ∧ s.cronConfig = cronConfig) ↔
          (∃ n, result = .ok n) ∧ ∃ b, m.findBlueprint id = some b ∧ b.enable = true ∧
            b.isManual = false ∧ b.cronConfig = cronConfig := by
  have hperm := h.consistent.list_jobs_perm
  rw [h.jobs_eq] at hperm
  refine ⟨rfl, h.consistent.list_perm, hperm, h.consistent.list_sorted, ?_⟩
  rintro m result hkeyed rfl
  have hids := hperm.map Prod.fst
  rw [List.map_map, List.map_map] at hids
  refine ⟨hids.nodup_iff.2 (kept_nodup hkeyed), ?_⟩
  intro id cronConfig
  have hmem := hperm.mem_iff (a := (id, cronConfig))
  simp only [List.mem_map, Prod.mk.injEq] at hmem
  rw [hmem]
  constructor
  · rintro ⟨b, hb, rfl, hcron⟩
    obtain ⟨hok, hfound, henable, hmanual⟩ := (mem_kept_iff hkeyed).1 hb
    exact ⟨hok, b, hfound, henable, hmanual, hcron⟩
  · rintro ⟨hok, b, hfound, henable, hmanual, hcron⟩
    obtain rfl := hkeyed id b hfound
    exact ⟨b, (mem_kept_iff hkeyed).2 ⟨hok, hfound, henable, hmanual⟩, rfl, hcron⟩

/-- Past a tick at noon, a failure of the store and a stop, the two blueprints of every midnight are
listed before that of every noon, in the order of their registration. -/
theorem reminders_listed :
    ∃ a, ReachedAfter (some ⟨Sample.reminders.scheduled, .ok 3⟩) a ∧
      (a.list.map fun s => (s.blueprintId, s.cronConfig)) =
        [(.ofNat 1, "0 0 * * *"), (.ofNat 3, "0 0 * * *"), (.ofNat 2, "0 12 * * *")] ∧
      (a.list.map (·.blueprintId)).Nodup := by
  have hregistered : ReachedAfter (some ⟨Sample.reminders.scheduled, .ok 3⟩)
      Sample.reminded := by
    have hresult : (({} : Agenda).rebuild { clock := fun _ => .midnight .epoch }
        [Sample.midnight, Sample.midday, Sample.midnightAgain]).1 = .ok 3 := by
      decide +kernel
    rw [Sample.reminders_scheduled, ← hresult]
    exact ReachedAfter.empty.rebuild _ _
  have hfailed := ReachedAfter.failed Sample.outage (fun _ => Sample.noon)
    (hregistered.wake Sample.noon) rfl (conduct_reconcile _)
  have hstopped := ReachedAfter.shutdown Sample.outage (fun _ => Sample.noon) hfailed
    (conduct_shutdown _)
  obtain ⟨-, hperm, -, hsorted, hstore⟩ :=
    hstopped.lists_last_rebuild Sample.outage fun _ => Sample.noon
  have hlist : ((Sample.reminded.wake Sample.noon).2.stop).list = Sample.reminderList := by
    refine ScheduledBlueprint.eq_of_perm_of_sorted (hperm.trans ?_) hsorted
      Sample.reminderList_sorted
    have hentries : (Sample.reminded.wake Sample.noon).2.stop.engine.entries.map listing =
        Sample.reminderEntries := by
      decide +kernel
    rw [hentries]
    exact .cons _ (.swap _ _ _)
  refine ⟨_, hstopped, ?_, (hstore _ _ Sample.reminders_keyed rfl).1⟩
  rw [hlist]
  rfl

end Agenda

end Ingestion
