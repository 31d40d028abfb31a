import Mathlib
import Ingestion.Proofs.Plugin.Catalog

/-!
# What a request is expanded to

A plan is told stage by stage (`PlanRequest.ExpandsTo`): a task that maps the project, a stage with
one task for each scope of each connection, and a stage with one task for each metric. Each of the
three is left out if there is nothing for it to do. A task is told by its plugin, its subtasks and
the values that it gives to its options, so that there is one task of each kind only
(`Task.maps_iff`, `Task.collects_iff`, `Catalog.metricPlan_eq_ok_iff_computes`).

The task that maps the project lists one entry for each scope and each table that the scope feeds.
An entry is an object of two texts: the table, and an identifier that joins those of the plugin, the
connection and the scope.

With the plugins of the catalog a plan can be generated just if every connection is served and every
metric can be computed. Then the plan is the one that the request is expanded to, and otherwise the
first connection or metric that has a fault gives the error (`Catalog.generate_spec`).
-/

namespace Ingestion

/-! ## Tasks -/

/-- A subtask is part of a run: it is enabled, it does not collect in a run without collectors, and
it works on a type of data that is asked for. None listed means all. -/
structure Subtask.Runs (s : Subtask) (entities : List String) (skipCollectors : Bool) : Prop where
  enabled : s.enabledByDefault = true
  collects : skipCollectors = true → s.kind ≠ .collector
  serves : entities = [] ∨ ∃ d ∈ s.domains, d ∈ entities

theorem Subtask.isSelected_iff {s : Subtask} {entities : List String} {skipCollectors : Bool} :
    s.isSelected entities skipCollectors = true ↔ s.Runs entities skipCollectors := by
  have hserves : s.serves entities = true ↔ entities = [] ∨ ∃ d ∈ s.domains, d ∈ entities := by
    simp [serves]
  simp only [isSelected, Bool.and_eq_true, Bool.not_eq_true', Bool.and_eq_false_imp,
    beq_eq_false_iff_ne, hserves]
  constructor
  · rintro ⟨⟨henabled, hcollects⟩, hserves⟩
    exact ⟨henabled, hcollects, hserves⟩
  · rintro ⟨henabled, hcollects, hserves⟩
    exact ⟨⟨henabled, hcollects⟩, hserves⟩

instance (s : Subtask) (entities : List String) (skipCollectors : Bool) :
    Decidable (s.Runs entities skipCollectors) :=
  decidable_of_iff _ Subtask.isSelected_iff

theorem Subtask.select_eq (subtasks : List Subtask) (entities : List String)
    (skipCollectors : Bool) :
    select subtasks entities skipCollectors =
      (subtasks.filter (·.Runs entities skipCollectors)).map (·.name) := by
  refine congrArg (List.map name) (List.filter_congr fun s _ => ?_)
  rw [Bool.eq_iff_iff, decide_eq_true_iff]
  exact isSelected_iff

/-- What one task collects: a scope of a connection, or the connection as a whole. -/
structure Portion where
  collector : Collector
  connectionId : UInt64
  scope : Option Scope

/-- The types of data that are asked for. -/
def Portion.entities (x : Portion) : List String :=
  (x.scope.map (·.entities)).getD []

/-- What is collected through a connection, in the order of its scopes. -/
def Connection.portions (c : Connection) (p : Collector) : List Portion :=
  (if c.scopes = [] then [none] else c.scopes.map some).map fun scope =>
    { collector := p, connectionId := c.connectionId, scope }

/-! ## Rows -/

/-- A scope of a request, with the connection that lists it. -/
structure ListedScope where
  pluginName : String
  connectionId : UInt64
  scope : Scope

namespace ListedScope

/-- The identifier of the rows of a scope. -/
def rowId (x : ListedScope) : String :=
  x.pluginName ++ ":" ++ toString x.connectionId.toNat ++ ":" ++ x.scope.scopeId

/-- A scope asks for a type of data. None listed means all. -/
def AsksFor (x : ListedScope) (domain : String) : Prop :=
  x.scope.entities = [] ∨ domain ∈ x.scope.entities

instance (x : ListedScope) (domain : String) : Decidable (x.AsksFor domain) :=
  inferInstanceAs (Decidable (_ ∨ _))

/-- The rows of a scope in the tables of its plugin, for each table whose type of data it asks for,
in the order of the tables. -/
def rows (x : ListedScope) (p : Collector) : List DomainScope :=
  (p.tables.filter fun t => x.AsksFor t.1).map fun t => { table := t.2, rowId := x.rowId }

end ListedScope

/-- The scopes that a connection lists, in order. -/
def Connection.listedScopes (c : Connection) : List ListedScope :=
  c.scopes.map fun scope => ⟨c.pluginName, c.connectionId, scope⟩

/-- The rows of all scopes of connections, in order. -/
def mappedRows (cs : List Connection) (ps : List Collector) : List DomainScope :=
  (cs.zip ps).flatMap fun (c, p) => c.listedScopes.flatMap (·.rows p)

/-- A row as the mapping of a project lists it. -/
def DomainScope.entry (row : DomainScope) : Json :=
  .object [("rowId", .string row.rowId), ("table", .string row.table)]

theorem DomainScope.toJson_toValue (row : DomainScope) : row.toValue.toJson = row.entry := by
  have hlt : "rowId" < "table" := by decide
  have hmembers : (Table.ofList [("table", Json.Value.string row.table),
      ("rowId", .string row.rowId)]).toList =
        [("rowId", .string row.rowId), ("table", .string row.table)] :=
    Table.toList_ofList_of_perm (.swap _ _ _) (List.pairwise_pair.2 hlt)
  show Json.object _ = _
  rw [hmembers]
  rfl

/-- The rows of a connection are those that its plugin gives. -/
theorem Connection.ServedBy.domainScopes_eq {c : Connection} {p : Collector} (h : c.ServedBy p) :
    c.scopes.flatMap (p.domainScopes c.connectionId) = c.listedScopes.flatMap (·.rows p) := by
  rw [listedScopes, List.flatMap_map]
  refine List.flatMap_congr fun scope _ => ?_
  have hasks (domain : String) : (scope.entities.isEmpty || scope.entities.contains domain) =
      decide ((⟨c.pluginName, c.connectionId, scope⟩ : ListedScope).AsksFor domain) := by
    rw [Bool.eq_iff_iff, decide_eq_true_iff]
    simp [ListedScope.AsksFor]
  rw [Collector.domainScopes, ListedScope.rows, h.name]
  simp only [hasks]
  rfl

theorem mappedRows_eq {cs : List Connection} {ps : List Collector}
    (h : List.Forall₂ Connection.ServedBy cs ps) :
    (cs.zip ps).flatMap (fun (c, p) => c.scopes.flatMap (p.domainScopes c.connectionId)) =
      mappedRows cs ps :=
  List.flatMap_congr fun _ hcp => (List.forall₂_zip h hcp).domainScopes_eq

/-! ## Tasks of one kind -/

namespace Task

/-- The task collects a portion. -/
structure Collects (t : Task) (skipCollectors : Bool) (x : Portion) : Prop where
  plugin : t.plugin = x.collector.name
  /-- The subtasks stand in the order of their declaration. -/
  subtasks : t.subtasks =
    (x.collector.subtasks.filter (·.Runs x.entities skipCollectors)).map (·.name)
  options : ∀ key, t.options.find? key =
    if key = "connectionId" then some (.nat x.connectionId.toNat)
    else if key = "scopeId" then x.scope.map fun scope => .string scope.scopeId
    else none

/-- The task computes a metric of a project, given by its name and its setting. The name of the
project takes the place of an option of this name. -/
structure Computes (t : Task) (projectName : String) (m : String × Json.Value) : Prop where
  metric : Catalog.IsMetric m.1
  plugin : t.plugin = m.1
  subtasks : t.subtasks = []
  options : ∃ given, Metric.Gives m.2 given ∧ ∀ key, t.options.find? key =
    if key = "projectName" then some (.string projectName) else given.find? key

/-- The task maps a project to entries. -/
structure Maps (t : Task) (projectName : String) (entries : List Json) : Prop where
  plugin : t.plugin = "org"
  subtasks : t.subtasks = ["setProjectMapping"]
  options : ∃ mappings : Json.Value,
    mappings.toJson =
      .array [.object [("projectName", .string projectName), ("scopes", .array entries)]] ∧
    ∀ key, t.options.find? key = if key = "projectMappings" then some mappings else none

theorem eq_of_find? {t u : Task} (hplugin : t.plugin = u.plugin)
    (hsubtasks : t.subtasks = u.subtasks)
    (hoptions : ∀ key, t.options.find? key = u.options.find? key) : t = u := by
  cases t
  cases u
  cases hplugin
  cases hsubtasks
  cases Table.ext_find? hoptions
  rfl

theorem mappingTask_maps (projectName : String) (rows : List DomainScope) :
    (mappingTask projectName rows).Maps projectName (rows.map (·.entry)) := by
  refine ⟨rfl, rfl, _, ?_, fun key => Table.find?_insert _ _ _ _⟩
  have hlt : "projectName" < "scopes" := by decide
  have hmembers : (Table.ofList [("projectName", Json.Value.string projectName),
      ("scopes", .array (rows.map DomainScope.toValue))]).toList =
        [("projectName", .string projectName), ("scopes", .array (rows.map DomainScope.toValue))] :=
    Table.toList_ofList (List.pairwise_pair.2 hlt)
  have hentries : (rows.map DomainScope.toValue).map Json.Value.toJson = rows.map (·.entry) := by
    rw [List.map_map]
    exact List.map_congr_left fun row _ => row.toJson_toValue
  show Json.array [.object _] = _
  rw [hmembers, ← hentries]
  rfl

theorem maps_iff {t : Task} {projectName : String} {rows : List DomainScope} :
    t.Maps projectName (rows.map (·.entry)) ↔ t = mappingTask projectName rows := by
  have hmaps := mappingTask_maps projectName rows
  constructor
  · intro h
    obtain ⟨mappings, htree, hfind⟩ := h.options
    obtain ⟨mappings', htree', hfind'⟩ := hmaps.options
    obtain rfl : mappings = mappings' := Json.Value.ext (htree.trans htree'.symm)
    refine eq_of_find? (h.plugin.trans hmaps.plugin.symm)
      (h.subtasks.trans hmaps.subtasks.symm) fun key => ?_
    rw [hfind, hfind']
  · rintro rfl
    exact hmaps

end Task

/-- The task of the plugin of a portion. -/
def Portion.task (skipCollectors : Bool) (x : Portion) : Task :=
  match x.scope with
  | none => x.collector.connectionTask x.connectionId skipCollectors
  | some scope => x.collector.scopeTask x.connectionId skipCollectors scope

theorem Task.collects_iff {t : Task} {skipCollectors : Bool} {x : Portion} :
    t.Collects skipCollectors x ↔ t = x.task skipCollectors := by
  have hcollects : (x.task skipCollectors).Collects skipCollectors x := by
    obtain ⟨p, connectionId, scope⟩ := x
    cases scope with
    | none =>
      refine ⟨rfl, Subtask.select_eq _ _ _, fun key => ?_⟩
      refine (Table.find?_insert _ _ _ _).trans (ite_congr rfl (fun _ => rfl) fun _ => ?_)
      exact (ite_self none).symm
    | some scope =>
      refine ⟨rfl, Subtask.select_eq _ _ _, fun key => ?_⟩
      refine (Table.find?_insert _ _ _ _).trans ?_
      by_cases hkey : key = "scopeId"
      · subst hkey
        rfl
      · rw [if_neg hkey, if_neg hkey]
        exact Table.find?_insert _ _ _ _
  constructor
  · intro h
    refine eq_of_find? (h.plugin.trans hcollects.plugin.symm)
      (h.subtasks.trans hcollects.subtasks.symm) fun key => ?_
    rw [h.options, hcollects.options]
  · rintro rfl
    exact hcollects

/-- The metric of a name and a setting is computed by one task only. -/
theorem Catalog.metricPlan_eq_ok_iff_computes {projectName : String} {m : String × Json.Value}
    {p : Plan} : registry.metricPlan projectName m = .ok p ↔
      ∃ t : Task, t.Computes projectName m ∧ p = .single t := by
  rw [metricPlan_eq_ok_iff]
  constructor
  · rintro ⟨hmetric, given, hgives, rfl⟩
    refine ⟨_, ⟨hmetric, rfl, rfl, given, hgives, fun key => ?_⟩, rfl⟩
    exact Table.find?_insert _ _ _ _
  · rintro ⟨t, ⟨hmetric, hplugin, hsubtasks, given, hgives, hoptions⟩, rfl⟩
    refine ⟨hmetric, given, hgives, congrArg Plan.single ?_⟩
    refine Task.eq_of_find? hplugin hsubtasks fun key => ?_
    rw [hoptions]
    exact (Table.find?_insert _ _ _ _).symm

/-! ## Stages -/

/-- Plans of one stage each, side by side, are a plan of one stage, unless there is none of them. -/
theorem Plan.parallelize_stages (stages : List Stage) :
    (parallelize (stages.map fun stage => ⟨[stage]⟩)).stages =
      if stages = [] then [] else [stages.flatten] := by
  have hmerged (rest : List Stage) (stage : Stage) :
      (rest.map fun stage => (⟨[stage]⟩ : Plan)).foldl (fun merged p => mergeStages merged p.stages)
        [stage] = [stage ++ rest.flatten] := by
    induction rest generalizing stage with
    | nil => simp
    | cons next rest ih =>
      have hmerge : mergeStages [stage] [next] = [stage ++ next] := rfl
      rw [List.map_cons, List.foldl_cons, hmerge, ih, List.flatten_cons, List.append_assoc]
  cases stages with
  | nil => rfl
  | cons stage rest =>
    rw [if_neg (List.cons_ne_nil _ _), List.flatten_cons, ← hmerged]
    rfl

/-- A connection that is served is collected in one stage, portion by portion. -/
theorem Collector.plan_eq (p : Collector) (c : Connection) (skipCollectors : Bool) :
    p.plan c.connectionId c.scopes skipCollectors =
      ⟨[(c.portions p).map (Portion.task skipCollectors)]⟩ := by
  rw [plan, Connection.portions, List.map_map]
  cases c.scopes with
  | nil => rfl
  | cons scope scopes =>
    rw [if_neg (List.cons_ne_nil _ _), List.map_map]
    rfl

/-! ## Requests -/

namespace PlanRequest

/-- Every connection is served by a source of the catalog. -/
def Served (req : PlanRequest) : Prop :=
  ∀ c ∈ req.connections, ∃ p, c.ServedBy p

/-- Every metric is one of the catalog, and has options. -/
def Computable (req : PlanRequest) : Prop :=
  ∀ m ∈ req.metrics.toList, Catalog.IsMetric m.1 ∧ ∃ given, Metric.Gives m.2 given

/-- A plan is what a request is expanded to: a stage that maps the project to the rows of all
connections in order, if there is a project, a stage that collects them portion by portion, if there
are any, and a stage that computes the metrics, if there are any. -/
def ExpandsTo (req : PlanRequest) (p : Plan) : Prop :=
  ∃ (collectors : List Collector) (mapping : Task) (collecting computing : List Task),
    List.Forall₂ Connection.ServedBy req.connections collectors ∧
    mapping.Maps req.projectName ((mappedRows req.connections collectors).map (·.entry)) ∧
    List.Forall₂ (fun x t => Task.Collects t req.skipCollectors x)
      ((req.connections.zip collectors).flatMap fun (c, p) => c.portions p) collecting ∧
    List.Forall₂ (fun m t => Task.Computes t req.projectName m) req.metrics.toList computing ∧
    p.stages = (if req.projectName = "" then [] else [[mapping]]) ++
      (if req.connections = [] then [] else [collecting]) ++
      (if req.metrics.toList = [] then [] else [computing])

end PlanRequest

namespace Catalog

variable {req : PlanRequest}

theorem connectionSources_eq_ok_iff {sources : List Source} :
    req.connections.mapM registry.connectionSource = .ok sources ↔
      ∃ ps, List.Forall₂ Connection.ServedBy req.connections ps ∧
        sources = ps.map .described := by
  rw [mapM_eq_ok_iff, ← forall₂_exists_iff]
  simp only [connectionSource_eq_ok_iff]

theorem metricPlans_eq_ok_iff {plans : List Plan} :
    req.metrics.toList.mapM (registry.metricPlan req.projectName) = .ok plans ↔
      ∃ computing, List.Forall₂ (fun m t => Task.Computes t req.projectName m) req.metrics.toList
        computing ∧ plans = computing.map .single := by
  rw [mapM_eq_ok_iff, ← forall₂_exists_iff]
  simp only [metricPlan_eq_ok_iff_computes]

/-- A plan is generated from the sources of the connections and the plans of the metrics. -/
theorem generate_eq_ok_iff {p : Plan} : registry.generate req = .ok p ↔ ∃ sources metricPlans,
    req.connections.mapM registry.connectionSource = .ok sources ∧
    req.metrics.toList.mapM (registry.metricPlan req.projectName) = .ok metricPlans ∧
    p = .sequentialize
      [registry.projectPlan req.projectName ((sources.zip req.connections).flatMap fun (s, c) =>
          s.domainScopes c.connectionId c.scopes),
        .parallelize ((sources.zip req.connections).map fun (s, c) =>
          s.plan c.connectionId c.scopes req.skipCollectors),
        .parallelize metricPlans] := by
  unfold Registry.generate
  cases req.connections.mapM registry.connectionSource with
  | error e => simp [bind, Except.bind]
  | ok sources =>
    cases req.metrics.toList.mapM (registry.metricPlan req.projectName) with
    | error e => simp [bind, Except.bind]
    | ok metricPlans => simp [bind, Except.bind, pure, Except.pure, eq_comm]

/-- An error is the one of the connections, or else the one of the metrics. -/
theorem generate_eq_error_iff {e : PlanError} : registry.generate req = .error e ↔
    req.connections.mapM registry.connectionSource = .error e ∨
      (∃ sources, req.connections.mapM registry.connectionSource = .ok sources) ∧
        req.metrics.toList.mapM (registry.metricPlan req.projectName) = .error e := by
  unfold Registry.generate
  cases req.connections.mapM registry.connectionSource with
  | error e' => simp [bind, Except.bind]
  | ok sources =>
    cases req.metrics.toList.mapM (registry.metricPlan req.projectName) with
    | error e' => simp [bind, Except.bind]
    | ok metricPlans => simp [bind, Except.bind, pure, Except.pure]

theorem served_iff : req.Served ↔
    ∃ sources, req.connections.mapM registry.connectionSource = .ok sources := by
  rw [exists_mapM_eq_ok_iff]
  refine forall₂_congr fun c _ => ?_
  simp only [connectionSource_eq_ok_iff]
  constructor
  · rintro ⟨p, hp⟩
    exact ⟨_, p, hp, rfl⟩
  · rintro ⟨s, p, hp, -⟩
    exact ⟨p, hp⟩

theorem computable_iff : req.Computable ↔
    ∃ plans, req.metrics.toList.mapM (registry.metricPlan req.projectName) = .ok plans := by
  rw [exists_mapM_eq_ok_iff]
  refine forall₂_congr fun m _ => ?_
  simp only [metricPlan_eq_ok_iff]
  constructor
  · rintro ⟨hmetric, given, hgives⟩
    exact ⟨_, hmetric, given, hgives, rfl⟩
  · rintro ⟨p, hmetric, given, hgives, -⟩
    exact ⟨hmetric, given, hgives⟩

theorem projectPlan_stages (projectName : String) (rows : List DomainScope) :
    (registry.projectPlan projectName rows).stages =
      if projectName = "" then [] else [[mappingTask projectName rows]] := by
  have hmaps : registry.mapsProjects = true := rfl
  rw [Registry.projectPlan, hmaps, Bool.true_and]
  by_cases h : projectName = ""
  · rw [if_neg (by simp [h]), if_pos h]
    rfl
  · rw [if_pos (bne_iff_ne.2 h), if_neg h]
    rfl

/-- The plans of connections that are served, side by side. -/
theorem connectionPlans_stages {cs : List Connection} {ps : List Collector}
    (h : cs.length = ps.length) (skipCollectors : Bool) :
    (Plan.parallelize (((ps.map Source.described).zip cs).map fun (s, c) =>
        s.plan c.connectionId c.scopes skipCollectors)).stages =
      if cs = [] then []
      else
        [((cs.zip ps).flatMap fun (c, p) => c.portions p).map (Portion.task skipCollectors)] := by
  have hplans : (((ps.map Source.described).zip cs).map fun (s, c) =>
      s.plan c.connectionId c.scopes skipCollectors) =
      ((cs.zip ps).map fun (c, p) => (c.portions p).map (Portion.task skipCollectors)).map
        fun stage => ⟨[stage]⟩ := by
    rw [List.zip_map_left, ← List.zip_swap, List.map_map, List.map_map, List.map_map]
    exact List.map_congr_left fun _ _ => Collector.plan_eq _ _ _
  rw [hplans, Plan.parallelize_stages, List.map_flatMap, List.flatMap]
  cases cs with
  | nil => rfl
  | cons c cs =>
    cases ps with
    | nil => cases h
    | cons p ps => rfl

/-- The plans of metrics, side by side. -/
theorem metricPlans_stages (computing : List Task) :
    (Plan.parallelize (computing.map .single)).stages =
      if computing = [] then [] else [computing] := by
  have hplans : computing.map Plan.single =
      (computing.map fun t => [t]).map fun stage => ⟨[stage]⟩ := by
    rw [List.map_map]
    rfl
  have hflatten : (computing.map fun t => [t]).flatten = computing := by
    rw [← List.flatMap, List.flatMap_singleton']
  rw [hplans, Plan.parallelize_stages, hflatten]
  simp only [List.map_eq_nil_iff]

/-- The stages of the plan that is generated for connections that are served and tasks of
metrics. -/
theorem generated_stages {ps : List Collector}
    (hserved : List.Forall₂ Connection.ServedBy req.connections ps) {computing : List Task}
    (hcomputing : List.Forall₂ (fun m t => Task.Computes t req.projectName m) req.metrics.toList
      computing) :
    (Plan.sequentialize
      [registry.projectPlan req.projectName
        (((ps.map Source.described).zip req.connections).flatMap fun (s, c) =>
          s.domainScopes c.connectionId c.scopes),
        .parallelize (((ps.map Source.described).zip req.connections).map fun (s, c) =>
          s.plan c.connectionId c.scopes req.skipCollectors),
        .parallelize (computing.map .single)]).stages =
      (if req.projectName = "" then []
        else [[mappingTask req.projectName (mappedRows req.connections ps)]]) ++
      (if req.connections = [] then []
        else [((req.connections.zip ps).flatMap fun (c, p) => c.portions p).map
          (Portion.task req.skipCollectors)]) ++
      (if req.metrics.toList = [] then [] else [computing]) := by
  have hrows : (((ps.map Source.described).zip req.connections).flatMap fun (s, c) =>
      s.domainScopes c.connectionId c.scopes) = mappedRows req.connections ps := by
    rw [List.zip_map_left, ← List.zip_swap, List.map_map, List.flatMap_map, ← mappedRows_eq hserved]
    rfl
  have hnil : computing = [] ↔ req.metrics.toList = [] := by
    rw [← List.length_eq_zero_iff, ← hcomputing.length_eq, List.length_eq_zero_iff]
  rw [hrows, Plan.sequentialize, List.flatMap_cons, List.flatMap_cons, List.flatMap_cons,
    projectPlan_stages, connectionPlans_stages hserved.length_eq, metricPlans_stages,
    List.flatMap_nil, List.append_nil, List.append_assoc]
  simp only [hnil]

theorem generate_eq_ok_iff_expandsTo {p : Plan} :
    registry.generate req = .ok p ↔ req.ExpandsTo p := by
  simp only [generate_eq_ok_iff, connectionSources_eq_ok_iff, metricPlans_eq_ok_iff]
  constructor
  · rintro ⟨_, _, ⟨ps, hserved, rfl⟩, ⟨computing, hcomputing, rfl⟩, rfl⟩
    refine ⟨ps, _, _, computing, hserved, Task.maps_iff.2 rfl, ?_, hcomputing,
      generated_stages hserved hcomputing⟩
    simp only [Task.collects_iff]
    exact forall₂_eq_map_iff.2 rfl
  · rintro ⟨ps, mapping, collecting, computing, hserved, hmaps, hcollects, hcomputing, hstages⟩
    refine ⟨_, _, ⟨ps, hserved, rfl⟩, ⟨computing, hcomputing, rfl⟩, congrArg Plan.mk ?_⟩
    simp only [Task.collects_iff] at hcollects
    rw [hstages, Task.maps_iff.1 hmaps, forall₂_eq_map_iff.1 hcollects]
    exact (generated_stages hserved hcomputing).symm

/-- With the plugins of the catalog a plan is generated just if every connection is served and every
metric can be computed. Otherwise the error is the one of the first connection that has a fault, or
if there is none, of the first such metric by ascending name. The plan is what the request is
expanded to. -/
theorem generate_spec (req : PlanRequest) :
    ((∃ p, registry.generate req = .ok p) ↔ req.Served ∧ req.Computable) ∧
      (∀ e, registry.generate req = .error e ↔ FirstFault Connection.Fault req.connections e ∨
        req.Served ∧ FirstFault Metric.Fault req.metrics.toList e) ∧
      ∀ p, registry.generate req = .ok p ↔ req.ExpandsTo p := by
  refine ⟨?_, fun e => ?_, fun p => generate_eq_ok_iff_expandsTo⟩
  · rw [served_iff, computable_iff]
    constructor
    · rintro ⟨p, hp⟩
      obtain ⟨sources, plans, hsources, hplans, -⟩ := generate_eq_ok_iff.1 hp
      exact ⟨⟨sources, hsources⟩, plans, hplans⟩
    · rintro ⟨⟨sources, hsources⟩, plans, hplans⟩
      exact ⟨_, generate_eq_ok_iff.2 ⟨sources, plans, hsources, hplans, rfl⟩⟩
  · have hconnection : (fun c e => registry.connectionSource c = .error e) = Connection.Fault := by
      funext c e
      exact propext connectionSource_eq_error_iff
    have hmetric : (fun m e => registry.metricPlan req.projectName m = .error e) =
        Metric.Fault := by
      funext m e
      exact propext metricPlan_eq_error_iff
    rw [generate_eq_error_iff, mapM_eq_error_iff, mapM_eq_error_iff, ← served_iff, hconnection,
      hmetric]

end Catalog

end Ingestion
