import Mathlib
import Ingestion.Proofs.Table
import Ingestion.Schedule.Agenda
import Ingestion.Store.Memory

/-!
# Rebuilding the agenda

What an agenda shows are the blueprints of its entries, with their identifiers and expressions. A
rebuild either makes the agenda show exactly the given blueprints, or it meets one whose expression
is refused, and leaves the agenda empty and stopped. Which of the two happens depends on the
blueprints, the clock and the engine, and not on what the agenda has been before.

Nothing but a rebuild changes what an agenda shows.
-/

namespace Ingestion

/-! ## The projection of the store -/

namespace Memory

/-- The blueprints that are to run by their cron expressions, in the order in which they are
listed. -/
def scheduled (m : Memory) : List Blueprint :=
  (m.blueprints.values.filter Blueprint.isSchedulable).mergeSort listedBefore

theorem schedulable_selects (b : Blueprint) : Query.schedulable.selects b = b.isSchedulable := by
  cases b.enable <;> cases b.isManual <;>
    simp [Query.schedulable, Query.selects, Blueprint.isSchedulable, *]

/-- The query for what is to be scheduled gives all of it. -/
theorem findBlueprints_schedulable (m : Memory) :
    m.findBlueprints .schedulable = (m.scheduled, .ofNat m.scheduled.length) := by
  have hselected : m.selected .schedulable = m.scheduled := by
    simp only [selected, scheduled]
    congr 2
    funext b
    exact schedulable_selects b
  have hpage (bs : List Blueprint) : page .schedulable bs = bs := rfl
  simp only [findBlueprints, hselected, hpage]

theorem mem_scheduled {m : Memory} {b : Blueprint} :
    b ∈ m.scheduled ↔ (∃ id, m.blueprints.find? id = some b) ∧ b.isSchedulable = true := by
  simp only [scheduled, List.mem_mergeSort, List.mem_filter, Table.mem_values_iff]

end Memory

/-! ## What an agenda shows -/

/-- Why the expression of a blueprint is refused at an instant, if it is. -/
def Blueprint.cronFault? (b : Blueprint) (now : Instant) : Option CronError :=
  match Cron.read b.cronConfig with
  | .error e => some e
  | .ok schedule =>
    if (schedule.next? now).isNone then some (.noUpcomingFire b.cronConfig) else none

/-- Why the entry of a blueprint, the `index`-th one of a rebuild, is refused, if it is: for a
reason of the engine's own, or for its expression. -/
def Surroundings.fault? (s : Surroundings) (index : Nat) (b : Blueprint) : Option CronError :=
  (s.refusal index).or (b.cronFault? (s.clock index))

theorem Surroundings.fault?_eq_cronFault? {s : Surroundings} {index : Nat}
    (hs : s.refusal index = none) (b : Blueprint) :
    s.fault? index b = b.cronFault? (s.clock index) := by
  rw [fault?, hs, Option.none_or]

namespace Engine

variable {e e' : Engine Blueprint} {now : Instant} {b : Blueprint}

theorem add_eq_ok (h : e.add now b.cronConfig b = .ok e') :
    b.cronFault? now = none ∧ ∃ entry : Entry Blueprint,
      entry.id = e.lastId + 1 ∧ entry.expression = b.cronConfig ∧ entry.job = b ∧
        e' = { e with entries := e.entries ++ [entry], lastId := e.lastId + 1 } := by
  unfold add at h
  unfold Blueprint.cronFault?
  cases hread : Cron.read b.cronConfig with
  | error source => simp [hread, bind, Except.bind] at h
  | ok schedule =>
    simp only [hread, bind, Except.bind] at h
    split at h
    · cases h
    · next next hnext =>
      cases h
      exact ⟨by simp [hnext], _, rfl, rfl, rfl, rfl⟩

theorem add_eq_error {source : CronError} (h : e.add now b.cronConfig b = .error source) :
    b.cronFault? now = some source := by
  unfold add at h
  unfold Blueprint.cronFault?
  cases hread : Cron.read b.cronConfig with
  | error source' =>
    simp only [hread, bind, Except.bind, Except.error.injEq] at h
    simp [h]
  | ok schedule =>
    simp only [hread, bind, Except.bind] at h
    split at h
    · next hnext =>
      cases h
      simp [hnext]
    · cases h

end Engine

namespace Agenda

/-- The jobs of the entries. -/
def jobs (a : Agenda) : List Blueprint :=
  a.engine.entries.map (·.job)

/-- The agenda has one entry for each of the blueprints and no other ones: their identifiers and
expressions are registered, and the jobs are the blueprints themselves. -/
structure Shows (a : Agenda) (bs : List Blueprint) : Prop where
  owners : a.owners.values = bs.map (·.id)
  expressions : a.engine.entries.map (·.expression) = bs.map (·.cronConfig)
  jobs : a.jobs = bs

/-- The agenda has no entries, and its timer does not run. -/
structure Cleared (a : Agenda) : Prop where
  entries : a.engine.entries = []
  owners : a.owners = Table.empty
  stopped : a.engine.isRunning = false

/-- The entries have the blueprints of their jobs as owners, and their numbers have been given
out. -/
structure Consistent (a : Agenda) : Prop where
  owners : a.owners.toList = a.engine.entries.map fun e => (e.id, e.job.id)
  expression : ∀ e ∈ a.engine.entries, e.expression = e.job.cronConfig
  id_le : ∀ e ∈ a.engine.entries, e.id ≤ a.engine.lastId

theorem consistent_empty : Consistent {} :=
  ⟨rfl, by simp, by simp⟩

theorem Consistent.keys {a : Agenda} (h : a.Consistent) :
    a.owners.keys = a.engine.entries.map (·.id) := by
  simp only [Table.keys, h.owners, List.map_map, Function.comp_def]

theorem Consistent.shows {a : Agenda} (h : a.Consistent) : a.Shows a.jobs := by
  refine ⟨?_, ?_, rfl⟩
  · simp only [Table.values, h.owners, jobs, List.map_map, Function.comp_def]
  · simp only [jobs, List.map_map]
    exact List.map_congr_left h.expression

/-! ## Removing -/

theorem entries_remove_foldl (e : Engine Blueprint) (ids : List Nat) :
    ids.foldl Engine.remove e =
      { e with entries := e.entries.filter fun entry => !ids.contains entry.id } := by
  induction ids generalizing e with
  | nil => simp
  | cons id rest ih =>
    rw [List.foldl_cons, ih, Engine.remove]
    simp only [List.filter_filter]
    congr 2
    funext entry
    by_cases h : entry.id = id <;> simp [h]

/-- A consistent agenda is cleared of all its entries. -/
theorem Consistent.clear {a : Agenda} (h : a.Consistent) :
    a.clear = { engine := { a.engine with entries := [] }, owners := Table.empty } := by
  have hnone : a.engine.entries.filter (fun e => !a.owners.keys.contains e.id) = [] := by
    rw [List.filter_eq_nil_iff, h.keys]
    intro e he
    have hmem : e.id ∈ a.engine.entries.map (·.id) := List.mem_map_of_mem he
    simp [hmem]
  simp only [Agenda.clear, entries_remove_foldl, hnone]

/-! ## Adding -/

/-- A refusal depends on the blueprint, the clock and the engine only. -/
theorem add_consistent {a a' : Agenda} (ha : a.Consistent) {s : Surroundings} {index : Nat}
    {b : Blueprint} (h : a.add s index b = .ok a') :
    a'.Consistent ∧ a'.jobs = a.jobs ++ [b] ∧ a'.engine.isRunning = a.engine.isRunning ∧
      s.fault? index b = none := by
  unfold Agenda.add at h
  split at h
  · cases h
  next hs =>
  cases hadd : a.engine.add (s.clock index) b.cronConfig b with
  | error source => simp [hadd, bind, Except.bind] at h
  | ok engine =>
    simp only [hadd, bind, Except.bind] at h
    cases h
    obtain ⟨hfault, entry, hid, hexpression, hjob, rfl⟩ := Engine.add_eq_ok hadd
    -- The number of the new entry is the greatest, so its owner comes last as the entry does.
    have hlt : ∀ k ∈ a.owners.keys, k < a.engine.lastId + 1 := by
      intro k hk
      rw [ha.keys] at hk
      obtain ⟨e, he, rfl⟩ := List.mem_map.1 hk
      exact Nat.lt_succ_of_le (ha.id_le e he)
    refine ⟨⟨?_, ?_, ?_⟩, ?_, rfl, (Surroundings.fault?_eq_cronFault? hs b).trans hfault⟩
    · rw [Table.toList_insert_of_forall_lt _ hlt, ha.owners]
      simp [hid, hjob]
    · intro e he
      rcases List.mem_append.1 he with he | he
      · exact ha.expression e he
      · obtain rfl := List.mem_singleton.1 he
        rw [hexpression, hjob]
    · intro e he
      rcases List.mem_append.1 he with he | he
      · exact Nat.le_succ_of_le (ha.id_le e he)
      · obtain rfl := List.mem_singleton.1 he
        exact hid.le
    · simp [jobs, hjob]

theorem fault_of_add {a : Agenda} {s : Surroundings} {index : Nat} {b : Blueprint}
    {source : CronError} (h : a.add s index b = .error source) :
    s.fault? index b = some source := by
  unfold Agenda.add at h
  split at h
  · next e hs =>
    cases h
    rw [Surroundings.fault?, hs, Option.some_or]
  · next hs =>
    rw [Surroundings.fault?_eq_cronFault? hs]
    cases hadd : a.engine.add (s.clock index) b.cronConfig b with
    | error source' =>
      simp only [hadd, bind, Except.bind, Except.error.injEq] at h
      rw [← h]
      exact Engine.add_eq_error hadd
    | ok engine =>
      simp only [hadd, bind, Except.bind] at h
      cases h

/-! ## Rebuilding -/

/-- The first of some blueprints that is refused, with the reason. The first one of them is the
`index`-th of a rebuild. -/
def refused? (s : Surroundings) : Nat → List Blueprint → Option (Blueprint × CronError)
  | _, [] => none
  | index, b :: rest =>
    match s.fault? index b with
    | some source => some (b, source)
    | none => refused? s (index + 1) rest

/-- What is refused first stands at some place, and nothing before it is refused. -/
theorem first_of_refused? {s : Surroundings} {index : Nat} {bs : List Blueprint} {b : Blueprint}
    {source : CronError} (h : refused? s index bs = some (b, source)) :
    ∃ i, bs[i]? = some b ∧ s.fault? (index + i) b = some source ∧
      ∀ j < i, ∀ b', bs[j]? = some b' → s.fault? (index + j) b' = none := by
  induction bs generalizing index with
  | nil => cases h
  | cons first rest ih =>
    rw [refused?] at h
    split at h
    · next source' hfault =>
      cases h
      exact ⟨0, rfl, hfault, fun j hj => absurd hj (Nat.not_lt_zero j)⟩
    · next hfault =>
      obtain ⟨i, hi, hsource, hbefore⟩ := ih h
      rw [Nat.add_right_comm] at hsource
      refine ⟨i + 1, hi, hsource, ?_⟩
      rintro (_ | j) hj b' hb'
      · cases hb'
        exact hfault
      · have hnone := hbefore j (Nat.lt_of_succ_lt_succ hj) b' hb'
        rwa [Nat.add_right_comm] at hnone

/-- If none is refused, each is accepted at its place. -/
theorem fault?_of_refused? {s : Surroundings} {index : Nat} {bs : List Blueprint}
    (h : refused? s index bs = none) {i : Nat} {b : Blueprint} (hb : bs[i]? = some b) :
    s.fault? (index + i) b = none := by
  induction bs generalizing index i with
  | nil => cases hb
  | cons first rest ih =>
    rw [refused?] at h
    split at h
    · cases h
    · next hfault =>
      cases i with
      | zero =>
        cases hb
        exact hfault
      | succ i =>
        have hnone := ih h hb
        rwa [Nat.add_right_comm] at hnone

theorem mem_of_refused? {s : Surroundings} {index : Nat} {bs : List Blueprint} {b : Blueprint}
    {source : CronError} (h : refused? s index bs = some (b, source)) :
    b ∈ bs ∧ ∃ i, s.fault? i b = some source := by
  obtain ⟨i, hi, hsource, -⟩ := first_of_refused? h
  exact ⟨List.mem_of_getElem? hi, _, hsource⟩

theorem accepted_of_refused? {s : Surroundings} {index : Nat} {bs : List Blueprint}
    {b : Blueprint} (h : refused? s index bs = none) (hb : b ∈ bs) :
    ∃ i, s.fault? i b = none := by
  obtain ⟨i, hi⟩ := List.getElem?_of_mem hb
  exact ⟨_, fault?_of_refused? h hi⟩

theorem start_consistent {a : Agenda} (ha : a.Consistent) (now : Instant) :
    Consistent { a with engine := a.engine.start now } ∧
      jobs { a with engine := a.engine.start now } = a.jobs := by
  unfold Engine.start
  split
  · exact ⟨ha, rfl⟩
  · refine ⟨⟨?_, ?_, ?_⟩, ?_⟩
    · rw [ha.owners, List.map_map]
      rfl
    · simp only [List.mem_map, forall_exists_index, and_imp, forall_apply_eq_imp_iff₂]
      exact ha.expression
    · simp only [List.mem_map, forall_exists_index, and_imp, forall_apply_eq_imp_iff₂]
      exact ha.id_le
    · simp only [jobs, List.map_map]
      rfl

/-- What adding entries comes to, in an agenda whose timer does not run. -/
theorem addAll_outcome (s : Surroundings) (index : Nat) (bs : List Blueprint) {a : Agenda}
    (ha : a.Consistent) (hstopped : a.engine.isRunning = false) :
    match refused? s index bs with
    | none => (addAll s index bs a).1 = .ok (index + bs.length) ∧
        (addAll s index bs a).2.Consistent ∧ (addAll s index bs a).2.jobs = a.jobs ++ bs ∧
        (addAll s index bs a).2.engine.isRunning = decide (0 < index + bs.length)
    | some (b, source) => (addAll s index bs a).1 = .error (.schedule b.id source) ∧
        (addAll s index bs a).2.Cleared := by
  induction bs generalizing index a with
  | nil =>
    simp only [refused?, addAll, List.length_nil, Nat.add_zero, List.append_nil, true_and]
    split
    · next h => exact ⟨ha, rfl, by simp [hstopped, h]⟩
    · next h =>
      obtain ⟨hconsistent, hjobs⟩ := start_consistent ha (s.clock index)
      refine ⟨hconsistent, hjobs, ?_⟩
      simp [Engine.start, hstopped, Nat.pos_of_ne_zero h]
  | cons b rest ih =>
    rw [refused?]
    cases hadd : a.add s index b with
    | error source =>
      -- All that has been added so far is removed again.
      simp only [addAll, hadd, fault_of_add hadd, ha.clear, true_and]
      exact ⟨rfl, rfl, hstopped⟩
    | ok a' =>
      obtain ⟨hconsistent, hjobs, hrunning, hfault⟩ := add_consistent ha hadd
      have hrest := ih (index + 1) hconsistent (hrunning.trans hstopped)
      simp only [hfault, addAll, hadd, hjobs, List.append_assoc, List.singleton_append,
        List.length_cons, Nat.add_right_comm index 1, ← Nat.add_assoc] at hrest ⊢
      exact hrest

/-- A rebuild makes the agenda show exactly the given blueprints, or stops at the first one that
is refused and leaves the agenda empty and stopped. -/
theorem rebuild_outcome (s : Surroundings) (bs : List Blueprint) {a : Agenda}
    (ha : a.Consistent) :
    match refused? s 0 bs with
    | none => (a.rebuild s bs).1 = .ok bs.length ∧ (a.rebuild s bs).2.Consistent ∧
        (a.rebuild s bs).2.jobs = bs ∧ (a.rebuild s bs).2.engine.isRunning = !bs.isEmpty
    | some (b, source) => (a.rebuild s bs).1 = .error (.schedule b.id source) ∧
        (a.rebuild s bs).2.Cleared := by
  have hcleared : Consistent { a.clear with engine := a.clear.engine.stop } := by
    rw [ha.clear]
    exact ⟨rfl, by simp [Engine.stop], by simp [Engine.stop]⟩
  have h := addAll_outcome s 0 bs hcleared rfl
  unfold rebuild
  dsimp only
  split at h
  · next hnone =>
    obtain ⟨hresult, hconsistent, hjobs, hrunning⟩ := h
    refine ⟨by simpa using hresult, hconsistent, ?_, ?_⟩
    · rw [hjobs, ha.clear]
      rfl
    · rw [hrunning]
      cases bs <;> simp
  · exact h

theorem Cleared.consistent {a : Agenda} (h : a.Cleared) : a.Consistent :=
  ⟨by rw [h.owners, h.entries]; rfl, by simp [h.entries], by simp [h.entries]⟩

theorem rebuild_consistent (s : Surroundings) (bs : List Blueprint) {a : Agenda}
    (ha : a.Consistent) : (a.rebuild s bs).2.Consistent := by
  have h := rebuild_outcome s bs ha
  split at h
  · exact h.2.1
  · exact h.2.consistent

/-! ## The timer -/

theorem stop_consistent {a : Agenda} (ha : a.Consistent) : a.stop.Consistent :=
  ⟨ha.owners, ha.expression, ha.id_le⟩

theorem Shows.stop {a : Agenda} {bs : List Blueprint} (h : a.Shows bs) : a.stop.Shows bs :=
  ⟨h.owners, h.expressions, h.jobs⟩

theorem Cleared.stop {a : Agenda} (h : a.Cleared) : a.stop.Cleared :=
  ⟨h.entries, h.owners, rfl⟩

theorem wake_snd (a : Agenda) (now : Instant) :
    (a.wake now).2 = { a with engine := (a.engine.wake now).2 } :=
  rfl

/-- The timer changes nothing of the entries but the instants at which they are due. -/
theorem wake_engine (e : Engine Blueprint) (now : Instant) :
    ∃ f : Entry Blueprint → Entry Blueprint,
      (∀ entry, (f entry).id = entry.id ∧ (f entry).expression = entry.expression ∧
        (f entry).job = entry.job) ∧
      (e.wake now).2 = { e with entries := e.entries.map f } := by
  unfold Engine.wake
  split
  · refine ⟨fun entry => if entry.isDue now then entry.reschedule now else entry, ?_, rfl⟩
    intro entry
    dsimp only
    split <;> exact ⟨rfl, rfl, rfl⟩
  · exact ⟨id, fun _ => ⟨rfl, rfl, rfl⟩, by simp⟩

theorem Shows.wake {a : Agenda} {bs : List Blueprint} (h : a.Shows bs) (now : Instant) :
    (a.wake now).2.Shows bs := by
  obtain ⟨f, hf, hengine⟩ := wake_engine a.engine now
  rw [wake_snd, hengine]
  refine ⟨h.owners, ?_, ?_⟩
  · rw [List.map_map, ← h.expressions]
    exact List.map_congr_left fun e _ => (hf e).2.1
  · rw [← h.jobs]
    simp only [Agenda.jobs, List.map_map]
    exact List.map_congr_left fun e _ => (hf e).2.2

theorem wake_consistent {a : Agenda} (ha : a.Consistent) (now : Instant) :
    (a.wake now).2.Consistent := by
  obtain ⟨f, hf, hengine⟩ := wake_engine a.engine now
  rw [wake_snd, hengine]
  refine ⟨?_, ?_, ?_⟩
  · rw [ha.owners, List.map_map]
    refine List.map_congr_left fun e _ => ?_
    rw [Function.comp_apply, (hf e).1, (hf e).2.2]
  · simp only [List.mem_map, forall_exists_index, and_imp, forall_apply_eq_imp_iff₂, hf]
    exact ha.expression
  · simp only [List.mem_map, forall_exists_index, and_imp, forall_apply_eq_imp_iff₂, hf]
    exact ha.id_le

theorem Cleared.wake {a : Agenda} (h : a.Cleared) (now : Instant) : (a.wake now).2.Cleared := by
  have hwake : (a.engine.wake now).2 = a.engine := by
    rw [Engine.wake, h.stopped, Bool.false_and]
    rfl
  rw [wake_snd, hwake]
  exact h

end Agenda

end Ingestion
