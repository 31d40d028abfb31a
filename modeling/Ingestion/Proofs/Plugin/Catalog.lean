import Mathlib
import Ingestion.Plugin.Catalog
import Ingestion.Plugin.Generator
import Ingestion.Proofs.Table

/-!
# Connections and metrics that the catalog serves

A connection is served if its plugin is a source of the catalog and it lists the scopes that the
plugin needs. A metric is computable if it is one of the catalog and its options are an object, or
`null` for none. Each of the two has one fault otherwise, and where a list of them is looked through
in order, the first fault is the one that is reported (`FirstFault`).
-/

namespace Ingestion

/-! ## Looking through a list -/

/-- The first element of a list that has a fault has the fault `e`. -/
def FirstFault {α ε : Type} (Fault : α → ε → Prop) (xs : List α) (e : ε) : Prop :=
  ∃ before x after, xs = before ++ x :: after ∧ (∀ y ∈ before, ∀ e', ¬ Fault y e') ∧ Fault x e

theorem firstFault_cons_iff {α ε : Type} {Fault : α → ε → Prop} {x : α} {xs : List α} {e : ε} :
    FirstFault Fault (x :: xs) e ↔
      Fault x e ∨ (∀ e', ¬ Fault x e') ∧ FirstFault Fault xs e := by
  constructor
  · rintro ⟨before, y, after, hxs, hbefore, hy⟩
    cases before with
    | nil =>
      cases hxs
      exact .inl hy
    | cons z before =>
      cases hxs
      obtain ⟨hx, hbefore⟩ := List.forall_mem_cons.1 hbefore
      exact .inr ⟨hx, before, y, after, rfl, hbefore, hy⟩
  · rintro (hx | ⟨hx, before, y, after, rfl, hbefore, hy⟩)
    · exact ⟨[], x, xs, rfl, nofun, hx⟩
    · exact ⟨x :: before, y, after, rfl, List.forall_mem_cons.2 ⟨hx, hbefore⟩, hy⟩

theorem forall₂_exists_iff {α β γ : Type} {R : α → γ → Prop} {g : γ → β} {xs : List α}
    {ys : List β} : List.Forall₂ (fun x y => ∃ z, R x z ∧ y = g z) xs ys ↔
      ∃ zs, List.Forall₂ R xs zs ∧ ys = zs.map g := by
  constructor
  · intro h
    induction h with
    | nil => exact ⟨[], .nil, rfl⟩
    | cons hxy _ ih =>
      obtain ⟨z, hxz, rfl⟩ := hxy
      obtain ⟨zs, hzs, rfl⟩ := ih
      exact ⟨z :: zs, .cons hxz hzs, rfl⟩
  · rintro ⟨zs, hzs, rfl⟩
    rw [List.forall₂_map_right_iff]
    exact hzs.imp fun _ z hxz => ⟨z, hxz, rfl⟩

theorem forall₂_eq_map_iff {α β : Type} {f : α → β} {xs : List α} {ys : List β} :
    List.Forall₂ (fun x y => y = f x) xs ys ↔ ys = xs.map f := by
  rw [← List.forall₂_eq_eq_eq, List.forall₂_map_right_iff]
  exact ⟨List.Forall₂.flip, List.Forall₂.flip⟩

section Traversal

variable {α β ε : Type} {f : α → Except ε β} {xs : List α}

theorem mapM_eq_ok_iff {ys : List β} :
    xs.mapM f = .ok ys ↔ List.Forall₂ (fun x y => f x = .ok y) xs ys := by
  induction xs generalizing ys with
  | nil => cases ys <;> simp [pure, Except.pure]
  | cons x xs ih =>
    rw [List.mapM_cons]
    cases hx : f x with
    | error e => cases ys <;> simp [bind, Except.bind, hx]
    | ok y =>
      cases hxs : xs.mapM f with
      | error e => cases ys <;> simp [bind, Except.bind, hx, ← ih, hxs]
      | ok ys' => cases ys <;> simp [bind, Except.bind, pure, Except.pure, hx, ← ih, hxs]

/-- If an element of a list has no result, the first of them gives the error. -/
theorem mapM_eq_error_iff {e : ε} :
    xs.mapM f = .error e ↔ FirstFault (fun x e => f x = .error e) xs e := by
  induction xs with
  | nil => simp [FirstFault, pure, Except.pure]
  | cons x xs ih =>
    rw [List.mapM_cons, firstFault_cons_iff, ← ih]
    cases f x with
    | error e' => simp [bind, Except.bind]
    | ok y => cases xs.mapM f <;> simp [bind, Except.bind, pure, Except.pure]

theorem exists_mapM_eq_ok_iff : (∃ ys, xs.mapM f = .ok ys) ↔ ∀ x ∈ xs, ∃ y, f x = .ok y := by
  induction xs with
  | nil => simp [pure, Except.pure]
  | cons x xs ih =>
    rw [List.mapM_cons, List.forall_mem_cons, ← ih]
    cases f x with
    | error e => simp [bind, Except.bind]
    | ok y => cases xs.mapM f <;> simp [bind, Except.bind, pure, Except.pure]

end Traversal

/-! ## The plugins of the catalog -/

namespace Registry

variable {r : Registry} {name : String}

theorem source_eq_ok_iff {s : Source} : r.source name = .ok s ↔ r.sources.find? name = some s := by
  rw [source]
  cases r.sources.find? name with
  | none =>
    dsimp only
    split <;> simp
  | some s' => simp

theorem metric_eq_ok_iff {m : Metric} : r.metric name = .ok m ↔ r.metrics.find? name = some m := by
  rw [metric]
  cases r.metrics.find? name with
  | none =>
    dsimp only
    split <;> simp
  | some m' => simp

/-- A name that no source has is one of a metric, or is unknown. -/
theorem source_eq_error_iff {e : PlanError} : r.source name = .error e ↔
    r.sources.find? name = none ∧
      ((∃ m, r.metrics.find? name = some m) ∧ e = .unsupported name "data source blueprints" ∨
        r.metrics.find? name = none ∧ e = .unknownPlugin name) := by
  rw [source]
  cases r.sources.find? name with
  | none => cases r.metrics.find? name <;> simp [eq_comm]
  | some s => simp

/-- A name that no metric has is one of a source, or is unknown. -/
theorem metric_eq_error_iff {e : PlanError} : r.metric name = .error e ↔
    r.metrics.find? name = none ∧
      ((∃ s, r.sources.find? name = some s) ∧ e = .unsupported name "metric blueprints" ∨
        r.sources.find? name = none ∧ e = .unknownPlugin name) := by
  rw [metric]
  cases r.metrics.find? name with
  | none => cases r.sources.find? name <;> simp [eq_comm]
  | some m => simp

end Registry

namespace Catalog

variable {name : String}

theorem find?_source_eq_some_iff {s : Source} : registry.sources.find? name = some s ↔
    ∃ c ∈ collectors, c.name = name ∧ s = .described c := by
  have hsources : registry.sources =
      Table.ofList (collectors.map fun c => (c.name, Source.described c)) := rfl
  rw [hsources, Table.find?_ofList_eq_some_iff (by decide)]
  simp only [List.mem_map, Prod.mk.injEq, eq_comm]

theorem find?_metric_eq_some_iff {m : Metric} : registry.metrics.find? name = some m ↔
    m ∈ metrics ∧ m.name = name := by
  have hmetrics : registry.metrics = Table.ofList (metrics.map fun m => (m.name, m)) := rfl
  rw [hmetrics, Table.find?_ofList_eq_some_iff (by decide)]
  simp only [List.mem_map, Prod.mk.injEq]
  constructor
  · rintro ⟨m, hm, rfl, rfl⟩
    exact ⟨hm, rfl⟩
  · rintro ⟨hm, rfl⟩
    exact ⟨m, hm, rfl, rfl⟩

/-- The name belongs to a source of the catalog. -/
def IsSource (name : String) : Prop :=
  ∃ c ∈ collectors, c.name = name

/-- The name belongs to a metric of the catalog. -/
def IsMetric (name : String) : Prop :=
  ∃ m ∈ metrics, m.name = name

theorem exists_find?_source_iff : (∃ s, registry.sources.find? name = some s) ↔ IsSource name := by
  simp only [find?_source_eq_some_iff, IsSource]
  constructor
  · rintro ⟨s, c, hc, hname, -⟩
    exact ⟨c, hc, hname⟩
  · rintro ⟨c, hc, hname⟩
    exact ⟨_, c, hc, hname, rfl⟩

theorem exists_find?_metric_iff : (∃ m, registry.metrics.find? name = some m) ↔ IsMetric name := by
  simp only [find?_metric_eq_some_iff, IsMetric]

theorem source_eq_ok_iff {s : Source} : registry.source name = .ok s ↔
    ∃ c ∈ collectors, c.name = name ∧ s = .described c :=
  Registry.source_eq_ok_iff.trans find?_source_eq_some_iff

theorem metric_eq_ok_iff {m : Metric} : registry.metric name = .ok m ↔
    m ∈ metrics ∧ m.name = name :=
  Registry.metric_eq_ok_iff.trans find?_metric_eq_some_iff

theorem source_eq_error_iff {e : PlanError} : registry.source name = .error e ↔
    ¬ IsSource name ∧ (IsMetric name ∧ e = .unsupported name "data source blueprints" ∨
      ¬ IsMetric name ∧ e = .unknownPlugin name) := by
  rw [Registry.source_eq_error_iff, Option.eq_none_iff_forall_ne_some, ← not_exists,
    exists_find?_source_iff, Option.eq_none_iff_forall_ne_some, ← not_exists,
    exists_find?_metric_iff]

theorem metric_eq_error_iff {e : PlanError} : registry.metric name = .error e ↔
    ¬ IsMetric name ∧ (IsSource name ∧ e = .unsupported name "metric blueprints" ∨
      ¬ IsSource name ∧ e = .unknownPlugin name) := by
  rw [Registry.metric_eq_error_iff, Option.eq_none_iff_forall_ne_some, ← not_exists,
    exists_find?_metric_iff, Option.eq_none_iff_forall_ne_some, ← not_exists,
    exists_find?_source_iff]

end Catalog

/-! ## Connections -/

namespace Connection

/-- A source of the catalog is the plugin of a connection, which lists the scopes that it needs. -/
structure ServedBy (c : Connection) (p : Collector) : Prop where
  mem : p ∈ Catalog.collectors
  name : p.name = c.pluginName
  scopes : c.scopes = [] → p.scopeOptional = true

/-- The error for a connection that no source of the catalog serves. -/
inductive Fault (c : Connection) : PlanError → Prop
  | unknown (hsource : ¬ Catalog.IsSource c.pluginName)
      (hmetric : ¬ Catalog.IsMetric c.pluginName) :
      Fault c (.unknownPlugin c.pluginName)
  | unsupported (hsource : ¬ Catalog.IsSource c.pluginName)
      (hmetric : Catalog.IsMetric c.pluginName) :
      Fault c (.unsupported c.pluginName "data source blueprints")
  | noScope {p : Collector} (hmem : p ∈ Catalog.collectors) (hname : p.name = c.pluginName)
      (hscopes : c.scopes = []) (hneeded : p.scopeOptional = false) :
      Fault c (.noScope c.pluginName c.connectionId)

end Connection

namespace Catalog

variable {c : Connection}

theorem connectionSource_of_ok {p : Collector} (hmem : p ∈ collectors)
    (hname : p.name = c.pluginName) : registry.connectionSource c =
      if c.scopes = [] ∧ p.scopeOptional = false then .error (.noScope c.pluginName c.connectionId)
      else .ok (.described p) := by
  have hsource : registry.source c.pluginName = .ok (.described p) :=
    source_eq_ok_iff.2 ⟨p, hmem, hname, rfl⟩
  rw [Registry.connectionSource, hsource]
  cases hscopes : c.scopes with
  | cons scope scopes => rfl
  | nil =>
    have hoptional : (Source.described p).scopeOptional = p.scopeOptional := rfl
    simp only [bind, Except.bind, hoptional]
    cases p.scopeOptional <;> rfl

theorem connectionSource_eq_ok_iff {s : Source} : registry.connectionSource c = .ok s ↔
    ∃ p, c.ServedBy p ∧ s = .described p := by
  constructor
  · intro h
    cases hsource : registry.source c.pluginName with
    | error e =>
      rw [Registry.connectionSource, hsource] at h
      cases h
    | ok s' =>
      obtain ⟨p, hmem, hname, -⟩ := source_eq_ok_iff.1 hsource
      rw [connectionSource_of_ok hmem hname] at h
      split at h
      · cases h
      · next hscopes =>
        cases h
        refine ⟨p, ⟨hmem, hname, fun hnil => ?_⟩, rfl⟩
        exact Bool.of_not_eq_false fun hneeded => hscopes ⟨hnil, hneeded⟩
  · rintro ⟨p, hserved, rfl⟩
    rw [connectionSource_of_ok hserved.mem hserved.name, if_neg]
    rintro ⟨hnil, hneeded⟩
    rw [hserved.scopes hnil] at hneeded
    cases hneeded

theorem connectionSource_eq_error_iff {e : PlanError} :
    registry.connectionSource c = .error e ↔ c.Fault e := by
  have hother (hsource : ¬ IsSource c.pluginName) :
      registry.connectionSource c = .error e ↔ registry.source c.pluginName = .error e := by
    cases h : registry.source c.pluginName with
    | error e' =>
      rw [Registry.connectionSource, h]
      rfl
    | ok s =>
      obtain ⟨p, hmem, hname, -⟩ := source_eq_ok_iff.1 h
      exact absurd ⟨p, hmem, hname⟩ hsource
  constructor
  · intro h
    by_cases hsource : IsSource c.pluginName
    · obtain ⟨p, hmem, hname⟩ := hsource
      rw [connectionSource_of_ok hmem hname] at h
      split at h
      · next hscopes =>
        cases h
        exact .noScope hmem hname hscopes.1 hscopes.2
      · cases h
    · rw [hother hsource, source_eq_error_iff] at h
      obtain ⟨-, ⟨hmetric, rfl⟩ | ⟨hmetric, rfl⟩⟩ := h
      · exact .unsupported hsource hmetric
      · exact .unknown hsource hmetric
  · intro h
    cases h with
    | unknown hsource hmetric =>
      rw [hother hsource, source_eq_error_iff]
      exact ⟨hsource, .inr ⟨hmetric, rfl⟩⟩
    | unsupported hsource hmetric =>
      rw [hother hsource, source_eq_error_iff]
      exact ⟨hsource, .inl ⟨hmetric, rfl⟩⟩
    | noScope hmem hname hscopes hneeded =>
      rw [connectionSource_of_ok hmem hname, if_pos ⟨hscopes, hneeded⟩]

end Catalog

/-! ## Metrics -/

namespace Metric

/-- A setting gives options: none if it is `null`, else the members of an object. -/
def Gives (setting : Json.Value) (given : Json.Members) : Prop :=
  setting = .null ∧ given = Table.empty ∨ setting = .object given

/-- The error for a metric, by its name and setting, of which the catalog makes no task. -/
inductive Fault (m : String × Json.Value) : PlanError → Prop
  | unknown (hmetric : ¬ Catalog.IsMetric m.1) (hsource : ¬ Catalog.IsSource m.1) :
      Fault m (.unknownPlugin m.1)
  | unsupported (hmetric : ¬ Catalog.IsMetric m.1) (hsource : Catalog.IsSource m.1) :
      Fault m (.unsupported m.1 "metric blueprints")
  | invalidOptions (hmetric : Catalog.IsMetric m.1) (hgiven : ∀ given, ¬ Gives m.2 given) :
      Fault m (.invalidOptions m.1 ("expected an object, got " ++ m.2.toJson.toText))

variable {m : Metric} {setting : Json.Value}

theorem options_null : m.options .null = .ok Table.empty :=
  rfl

theorem options_object (ms : Json.Members) : m.options (.object ms) = .ok ms := by
  unfold options
  rw [Json.Value.members?_object]
  rfl

theorem options_of_not_gives (h : ∀ given, ¬ Gives setting given) : m.options setting =
    .error (.invalidOptions m.name ("expected an object, got " ++ setting.toJson.toText)) := by
  have hmembers : setting.members? = none := by
    refine Option.eq_none_iff_forall_ne_some.2 fun ms hms => ?_
    exact h ms (.inr (Json.Value.members?_eq_some_iff.1 hms))
  unfold options
  rw [hmembers]
  split
  · next hnull => exact absurd (.inl ⟨Json.Value.toJson_eq_null_iff.1 hnull, rfl⟩) (h Table.empty)
  · next members hsome _ => cases hsome
  · rfl

theorem Gives.options_eq {given : Json.Members} (h : Gives setting given) :
    m.options setting = .ok given := by
  rcases h with ⟨rfl, rfl⟩ | rfl
  · exact options_null
  · exact options_object given

end Metric

namespace Catalog

variable {projectName : String} {m : String × Json.Value}

theorem metricPlan_of_gives (hmetric : IsMetric m.1) {given : Json.Members}
    (hgives : Metric.Gives m.2 given) : registry.metricPlan projectName m =
      .ok (.single (({ plugin := m.1, options := given } : Task).withOption "projectName"
        (.string projectName))) := by
  obtain ⟨metric, hmem, hname⟩ := hmetric
  rw [Registry.metricPlan, metric_eq_ok_iff.2 ⟨hmem, hname⟩, ← hname]
  show metric.plan projectName m.2 = _
  rw [Metric.plan, hgives.options_eq]
  rfl

theorem metricPlan_of_not_gives (hmetric : IsMetric m.1) (h : ∀ given, ¬ Metric.Gives m.2 given) :
    registry.metricPlan projectName m =
      .error (.invalidOptions m.1 ("expected an object, got " ++ m.2.toJson.toText)) := by
  obtain ⟨metric, hmem, hname⟩ := hmetric
  rw [Registry.metricPlan, metric_eq_ok_iff.2 ⟨hmem, hname⟩, ← hname]
  show metric.plan projectName m.2 = _
  rw [Metric.plan, Metric.options_of_not_gives h]
  rfl

theorem metricPlan_of_not_metric (hmetric : ¬ IsMetric m.1) {e : PlanError} :
    registry.metricPlan projectName m = .error e ↔ registry.metric m.1 = .error e := by
  cases h : registry.metric m.1 with
  | error e' =>
    rw [Registry.metricPlan, h]
    simp [bind, Except.bind]
  | ok metric => exact absurd ⟨metric, metric_eq_ok_iff.1 h⟩ hmetric

/-- The task of a metric is of its plugin, and has the options of the setting and the project. -/
theorem metricPlan_eq_ok_iff {p : Plan} : registry.metricPlan projectName m = .ok p ↔
    IsMetric m.1 ∧ ∃ given, Metric.Gives m.2 given ∧
      p = .single (({ plugin := m.1, options := given } : Task).withOption "projectName"
        (.string projectName)) := by
  constructor
  · intro h
    cases hmetric : registry.metric m.1 with
    | error e =>
      rw [Registry.metricPlan, hmetric] at h
      cases h
    | ok metric =>
      have hmetric : IsMetric m.1 := ⟨metric, metric_eq_ok_iff.1 hmetric⟩
      by_cases hgives : ∃ given, Metric.Gives m.2 given
      · obtain ⟨given, hgives⟩ := hgives
        rw [metricPlan_of_gives hmetric hgives] at h
        cases h
        exact ⟨hmetric, given, hgives, rfl⟩
      · rw [metricPlan_of_not_gives hmetric (not_exists.1 hgives)] at h
        cases h
  · rintro ⟨hmetric, given, hgives, rfl⟩
    exact metricPlan_of_gives hmetric hgives

theorem metricPlan_eq_error_iff {e : PlanError} :
    registry.metricPlan projectName m = .error e ↔ Metric.Fault m e := by
  constructor
  · intro h
    by_cases hmetric : IsMetric m.1
    · by_cases hgives : ∃ given, Metric.Gives m.2 given
      · obtain ⟨given, hgives⟩ := hgives
        rw [metricPlan_of_gives hmetric hgives] at h
        cases h
      · rw [metricPlan_of_not_gives hmetric (not_exists.1 hgives)] at h
        cases h
        exact .invalidOptions hmetric (not_exists.1 hgives)
    · rw [metricPlan_of_not_metric hmetric, metric_eq_error_iff] at h
      obtain ⟨-, ⟨hsource, rfl⟩ | ⟨hsource, rfl⟩⟩ := h
      · exact .unsupported hmetric hsource
      · exact .unknown hmetric hsource
  · intro h
    cases h with
    | unknown hmetric hsource =>
      rw [metricPlan_of_not_metric hmetric, metric_eq_error_iff]
      exact ⟨hmetric, .inr ⟨hsource, rfl⟩⟩
    | unsupported hmetric hsource =>
      rw [metricPlan_of_not_metric hmetric, metric_eq_error_iff]
      exact ⟨hmetric, .inl ⟨hsource, rfl⟩⟩
    | invalidOptions hmetric hgiven => exact metricPlan_of_not_gives hmetric hgiven

end Catalog

end Ingestion
