import Mathlib
import Ingestion.Proofs.Plugin.Expansion

/-!
# Plans that collect nothing

A request may ask for a plan without collectors. With the plugins of the catalog this changes
nothing but the subtasks of the tasks of sources: each of them loses the subtasks that its plugin
declares as collectors, and keeps the others in their order (`Catalog.generate_withoutCollectors`).
Whether there is a plan at all, and whether it is worth running, is the same.

A task lists its subtasks by name only. That the names of the collectors are what is left out
depends on the catalog: no plugin gives one name to two of its subtasks, no two plugins have one
name, and what maps a project or computes a metric is no source.
-/

namespace Ingestion

/-! ## What a plugin declares as collectors -/

/-- The names of the subtasks that a plugin declares as collectors. -/
def Collector.collecting (c : Collector) : List String :=
  (c.subtasks.filter fun s => s.kind = .collector).map (·.name)

namespace Catalog

variable {c c' : Collector}

theorem eq_of_name_eq (hc : c ∈ collectors) (hc' : c' ∈ collectors) (h : c.name = c'.name) :
    c = c' :=
  List.inj_on_of_nodup_map (f := Collector.name) (by decide) hc hc' h

theorem subtask_names_nodup (hc : c ∈ collectors) : (c.subtasks.map (·.name)).Nodup := by
  have hall : ∀ c ∈ collectors, (c.subtasks.map (·.name)).Nodup := by decide
  exact hall c hc

/-- A subtask of a plugin has the name of a collector only if it is one. -/
theorem name_mem_collecting_iff (hc : c ∈ collectors) {s : Subtask} (hs : s ∈ c.subtasks) :
    s.name ∈ c.collecting ↔ s.kind = .collector := by
  simp only [Collector.collecting, List.mem_map, List.mem_filter, decide_eq_true_iff]
  constructor
  · rintro ⟨s', ⟨hs', hkind⟩, hname⟩
    rwa [List.inj_on_of_nodup_map (subtask_names_nodup hc) hs' hs hname] at hkind
  · intro hkind
    exact ⟨s, ⟨hs, hkind⟩, rfl⟩

-- the names do not say that they collect
example : jenkins.collecting = ["collectApiBuilds", "collectApiStages"] ∧
    octopus.collecting = ["Collect Projects", "Collect Environments"] := by decide

/-- The subtasks that run without collectors, picked from the names of those that run with them. -/
theorem runs_without_collectors (hc : c ∈ collectors) (entities : List String) :
    (c.subtasks.filter (·.Runs entities true)).map (·.name) =
      ((c.subtasks.filter (·.Runs entities false)).map (·.name)).filter (· ∉ c.collecting) := by
  rw [List.filter_map, List.filter_filter]
  refine congrArg _ (List.filter_congr fun s hs => ?_)
  have hname := name_mem_collecting_iff hc hs
  have hruns : s.Runs entities true ↔ s.name ∉ c.collecting ∧ s.Runs entities false := by
    rw [hname]
    constructor
    · rintro ⟨henabled, hcollects, hserves⟩
      exact ⟨hcollects rfl, henabled, nofun, hserves⟩
    · rintro ⟨hkind, henabled, -, hserves⟩
      exact ⟨henabled, fun _ => hkind, hserves⟩
  simp only [Function.comp_apply, hruns, Bool.decide_and]

theorem not_isSource_of_isMetric {name : String} (h : IsMetric name) : ¬ IsSource name := by
  have hall : ∀ m ∈ metrics, ∀ c ∈ collectors, c.name ≠ m.name := by decide
  obtain ⟨m, hm, rfl⟩ := h
  rintro ⟨c, hc, hname⟩
  exact hall m hm c hc hname

theorem not_isSource_org : ¬ IsSource "org" := by
  have hall : ∀ c ∈ collectors, c.name ≠ "org" := by decide
  rintro ⟨c, hc, hname⟩
  exact hall c hc hname

end Catalog

/-! ## Tasks and plans without collectors -/

/-- A task, and the one in its place in a plan without collectors. -/
structure Task.WithoutCollectors (t quiet : Task) : Prop where
  plugin : quiet.plugin = t.plugin
  options : quiet.options = t.options
  /-- A source leaves out exactly the names that it declares as collectors. -/
  source : ∀ c ∈ Catalog.collectors, c.name = t.plugin →
    quiet.subtasks = t.subtasks.filter (· ∉ c.collecting)
  /-- Another plugin has the same subtasks. -/
  other : ¬ Catalog.IsSource t.plugin → quiet.subtasks = t.subtasks

/-- A plan, and the one without collectors: stage by stage and task by task they correspond. -/
structure Plan.WithoutCollectors (p quiet : Plan) : Prop where
  stages : List.Forall₂ (List.Forall₂ Task.WithoutCollectors) p.stages quiet.stages
  isEmpty : quiet.isEmpty = p.isEmpty

/-- What generating comes to, with collectors and without them: the same error, or two plans that
correspond. -/
inductive PlanRequest.WithoutCollectors : Except PlanError Plan → Except PlanError Plan → Prop
  | error (e : PlanError) : WithoutCollectors (.error e) (.error e)
  | ok {p quiet : Plan} (h : p.WithoutCollectors quiet) : WithoutCollectors (.ok p) (.ok quiet)

namespace Task.WithoutCollectors

variable {t quiet : Task}

theorem refl (h : ¬ Catalog.IsSource t.plugin) : t.WithoutCollectors t where
  plugin := rfl
  options := rfl
  source := fun c hc hname => absurd ⟨c, hc, hname⟩ h
  other := fun _ => rfl

theorem of_portion {x : Portion} (hx : x.collector ∈ Catalog.collectors) :
    (x.task false).WithoutCollectors (x.task true) := by
  have hall : (x.task false).Collects false x := Task.collects_iff.2 rfl
  have hquiet : (x.task true).Collects true x := Task.collects_iff.2 rfl
  refine ⟨hquiet.plugin.trans hall.plugin.symm, Table.ext_find? fun key => ?_,
    fun c hc hname => ?_, fun hother => ?_⟩
  · rw [hquiet.options, hall.options]
  · obtain rfl := Catalog.eq_of_name_eq hc hx (hname.trans hall.plugin)
    rw [hquiet.subtasks, hall.subtasks]
    exact Catalog.runs_without_collectors hx x.entities
  · rw [hall.plugin] at hother
    exact absurd ⟨_, hx, rfl⟩ hother

theorem isStructural_eq (h : t.WithoutCollectors quiet) : quiet.isStructural = t.isStructural := by
  rw [isStructural, isStructural, h.plugin]

end Task.WithoutCollectors

/-- Whether a plan is worth running depends on the plugins of its tasks only. -/
theorem Plan.WithoutCollectors.of_stages {p quiet : Plan}
    (h : List.Forall₂ (List.Forall₂ Task.WithoutCollectors) p.stages quiet.stages) :
    p.WithoutCollectors quiet := by
  have htasks : List.Forall₂ Task.WithoutCollectors p.tasks quiet.tasks := List.rel_flatten h
  have hall {ts quiets : List Task} (h : List.Forall₂ Task.WithoutCollectors ts quiets) :
      quiets.all Task.isStructural = ts.all Task.isStructural := by
    induction h with
    | nil => rfl
    | cons ht _ ih => rw [List.all_cons, List.all_cons, ih, ht.isStructural_eq]
  exact ⟨h, hall htasks⟩

/-! ## Requests -/

namespace Catalog

variable {req : PlanRequest}

/-- The stage that collects. -/
theorem collected_withoutCollectors {cs : List Connection} {ps : List Collector}
    (h : List.Forall₂ Connection.ServedBy cs ps) :
    List.Forall₂ Task.WithoutCollectors
      (((cs.zip ps).flatMap fun (c, p) => c.portions p).map (Portion.task false))
      (((cs.zip ps).flatMap fun (c, p) => c.portions p).map (Portion.task true)) := by
  rw [List.forall₂_map_left_iff, List.forall₂_map_right_iff, List.forall₂_same]
  intro x hx
  obtain ⟨⟨c, p⟩, hcp, hx⟩ := List.mem_flatMap.1 hx
  obtain ⟨scope, -, rfl⟩ := List.mem_map.1 hx
  exact .of_portion (List.forall₂_zip h hcp).mem

/-- The stage that computes metrics. -/
theorem computed_withoutCollectors {projectName : String} {metrics : List (String × Json.Value)}
    {computing : List Task}
    (h : List.Forall₂ (fun m t => Task.Computes t projectName m) metrics computing) :
    List.Forall₂ Task.WithoutCollectors computing computing := by
  induction h with
  | nil => exact .nil
  | cons ht _ ih => exact .cons (.refl (ht.plugin ▸ not_isSource_of_isMetric ht.metric)) ih

/-- A request that is expanded to a plan is expanded to one without collectors, too. -/
theorem exists_expandsTo_withoutCollectors {p : Plan}
    (h : { req with skipCollectors := false }.ExpandsTo p) :
    ∃ quiet, { req with skipCollectors := true }.ExpandsTo quiet ∧ p.WithoutCollectors quiet := by
  obtain ⟨ps, mapping, collecting, computing, hserved, hmaps, hcollects, hcomputing, hstages⟩ := h
  simp only [Task.collects_iff] at hcollects
  have hmapping : mapping.WithoutCollectors mapping := .refl (hmaps.plugin ▸ not_isSource_org)
  refine ⟨⟨_⟩, ⟨ps, mapping, ((req.connections.zip ps).flatMap fun (c, p) => c.portions p).map
    (Portion.task true), computing, hserved, hmaps, ?_, hcomputing, rfl⟩, .of_stages ?_⟩
  · simp only [Task.collects_iff]
    exact forall₂_eq_map_iff.2 rfl
  · rw [hstages, forall₂_eq_map_iff.1 hcollects]
    refine List.rel_append (List.rel_append ?_ ?_) ?_
    · split
      · exact .nil
      · exact .cons (.cons hmapping .nil) .nil
    · split
      · exact .nil
      · exact .cons (collected_withoutCollectors hserved) .nil
    · split
      · exact .nil
      · exact .cons (computed_withoutCollectors hcomputing) .nil

/-- With the plugins of the catalog, a request without collectors has the error of the request with
them, or it has a plan just if that one has: with the same stages and tasks, the same plugins and
options, the subtasks of a source less those that it declares as collectors, and worth running just
if the other one is. -/
theorem generate_withoutCollectors (req : PlanRequest) :
    PlanRequest.WithoutCollectors (registry.generate { req with skipCollectors := false })
      (registry.generate { req with skipCollectors := true }) := by
  cases h : registry.generate { req with skipCollectors := false } with
  | error e =>
    -- what a connection or a metric lacks does not depend on the flag
    have herror := generate_eq_error_iff.1 h
    have hquiet : registry.generate { req with skipCollectors := true } = .error e :=
      generate_eq_error_iff.2 herror
    rw [hquiet]
    exact .error e
  | ok p =>
    obtain ⟨quiet, hquiet, hp⟩ :=
      exists_expandsTo_withoutCollectors (generate_eq_ok_iff_expandsTo.1 h)
    rw [generate_eq_ok_iff_expandsTo.2 hquiet]
    exact .ok hp

end Catalog

end Ingestion
