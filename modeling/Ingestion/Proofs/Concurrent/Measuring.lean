import Mathlib
import Ingestion.Proofs.Concurrent.Triggering
import Ingestion.Proofs.Plugin.Collecting
import Ingestion.Proofs.Store.Settings

/-!
# Metrics of a blueprint's plan

The settings of metrics come into the plan of a blueprint as one stage (`Blueprint.measured`). What
stands in it follows from the history of the settings that have been put into the store: one task
for each plugin that the last setting of the blueprint's project enables, by ascending name and with
the options of this setting. The rest of the plan does not depend on the settings, and no task that
is generated for it computes a metric.
-/

namespace Ingestion

/-! ## The stage of the metrics -/

theorem Catalog.not_isMetric_org : ¬ IsMetric "org" := by
  have hall : ∀ m ∈ metrics, m.name ≠ "org" := by decide
  rintro ⟨m, hm, hname⟩
  exact hall m hm hname

theorem Portion.task_plugin (skipCollectors : Bool) (x : Portion) :
    (x.task skipCollectors).plugin = x.collector.name :=
  (Task.collects_iff.2 rfl).plugin

namespace PlanRequest

variable {req : PlanRequest} {p : Plan}

/-- The plan of a request is the one without its metrics, and after it the stage that computes
them, if there are any. -/
theorem ExpandsTo.exists_unmeasured (h : req.ExpandsTo p) : ∃ unmeasured computing,
    { req with metrics := Table.empty }.ExpandsTo unmeasured ∧
      List.Forall₂ (fun m t => Task.Computes t req.projectName m) req.metrics.toList computing ∧
      p.stages =
        unmeasured.stages ++ if req.metrics.toList = [] then [] else [computing] := by
  obtain ⟨ps, mapping, collecting, computing, hserved, hmaps, hcollects, hcomputing, hstages⟩ := h
  refine ⟨⟨_⟩, computing, ⟨ps, mapping, collecting, [], hserved, hmaps, hcollects, .nil, rfl⟩,
    hcomputing, ?_⟩
  have hnone : (Table.empty : Table String Json.Value).toList = [] := rfl
  rw [hstages, if_pos hnone, List.append_nil]

/-- Where no metrics are asked for, no task computes one. -/
theorem ExpandsTo.no_metric (h : req.ExpandsTo p) (hnone : req.metrics.toList = []) :
    ∀ t ∈ p.tasks, ¬ Catalog.IsMetric t.plugin := by
  obtain ⟨ps, mapping, collecting, computing, hserved, hmaps, hcollects, -, hstages⟩ := h
  have hmapping : ¬ Catalog.IsMetric mapping.plugin := by
    rw [hmaps.plugin]
    exact Catalog.not_isMetric_org
  -- What collects is a source, and no source has the name of a metric.
  have hcollecting : ∀ t ∈ collecting, ¬ Catalog.IsMetric t.plugin := by
    simp only [Task.collects_iff] at hcollects
    rw [forall₂_eq_map_iff.1 hcollects]
    intro t ht hmetric
    obtain ⟨x, hx, rfl⟩ := List.mem_map.1 ht
    obtain ⟨⟨c, p⟩, hcp, hx⟩ := List.mem_flatMap.1 hx
    obtain ⟨scope, -, rfl⟩ := List.mem_map.1 hx
    have hp : p ∈ Catalog.collectors := (List.forall₂_zip hserved hcp).mem
    rw [Portion.task_plugin] at hmetric
    exact Catalog.not_isSource_of_isMetric hmetric ⟨p, hp, rfl⟩
  intro t ht
  rw [Plan.tasks, hstages, if_pos hnone, List.append_nil, List.flatten_append,
    List.mem_append] at ht
  rcases ht with ht | ht
  · split at ht
    · cases ht
    · obtain rfl := List.mem_singleton.1 ht
      exact hmapping
  · split at ht
    · cases ht
    · rw [List.flatten_singleton] at ht
      exact hcollecting t ht

end PlanRequest

/-! ## Plans that are composed with settings -/

/-- Settings by ascending name of the plugin give their options in this order. -/
theorem MetricSetting.options_toList {settings : List MetricSetting} (h : AscendByPlugin settings) :
    (options settings).toList = settings.map fun x => (x.pluginName, x.option) :=
  Table.toList_ofList (List.pairwise_map.2 h)

namespace Blueprint

variable {b : Blueprint} {policy : SyncPolicy} {settings : List MetricSetting} {plan : Plan}

/-- The stage of the metrics stands between what is generated without settings and the plan for
after. -/
theorem composedPlan_stages (hsettings : MetricSetting.AscendByPlugin settings)
    (h : b.composedPlan Catalog.registry policy settings = .ok plan) :
    ∃ computing unmeasured,
      List.Forall₂ (fun x t => Task.Computes t b.projectName (x.pluginName, x.option)) settings
        computing ∧
      Catalog.registry.generate (b.planRequest policy []) = .ok unmeasured ∧
      (∀ t ∈ unmeasured.tasks, ¬ Catalog.IsMetric t.plugin) ∧
      plan.stages = b.beforePlan.stages ++ unmeasured.stages ++
        (if settings = [] then [] else [computing]) ++ b.afterPlan.stages := by
  rw [composedPlan] at h
  cases hgenerated : Catalog.registry.generate (b.planRequest policy settings) with
  | error e =>
    rw [hgenerated] at h
    cases h
  | ok generated =>
    rw [hgenerated] at h
    obtain rfl : b.wrapPlan generated = plan := Except.ok.inj h
    obtain ⟨unmeasured, computing, hunmeasured, hcomputing, hstages⟩ :=
      (Catalog.generate_eq_ok_iff_expandsTo.1 hgenerated).exists_unmeasured
    have hmetrics : (b.planRequest policy settings).metrics.toList =
        settings.map fun x => (x.pluginName, x.option) :=
      MetricSetting.options_toList hsettings
    rw [hmetrics] at hcomputing hstages
    refine ⟨computing, unmeasured, List.forall₂_map_left_iff.1 hcomputing,
      Catalog.generate_eq_ok_iff_expandsTo.2 hunmeasured, hunmeasured.no_metric rfl, ?_⟩
    rw [wrapPlan_stages, hstages]
    simp only [List.map_eq_nil_iff, List.append_assoc]

end Blueprint

namespace Shared

variable {registry : Registry} {k : Nat} {chance : Chance} {s : Shared}

/-- The state after settings have been put into the store one after another. -/
def putMetrics (s : Shared) (history : List MetricSetting) : Shared :=
  { s with memory := s.memory.putMetrics history }

theorem perform_composePlan_putMetrics {b : Blueprint} (hproject : b.projectName ≠ "")
    (policy : SyncPolicy) (history : List MetricSetting) :
    perform registry k chance (b.composePlan policy) (s.putMetrics history) =
      some (b.composedPlan registry policy
        ((s.memory.putMetrics history).findMetrics b.projectName), s.putMetrics history) := by
  have hsettings : b.settingsIn (s.putMetrics history).memory =
      (s.memory.putMetrics history).findMetrics b.projectName :=
    if_pos (bne_iff_ne.2 hproject)
  rw [perform_composePlan, hsettings]

end Shared

namespace Sample

def apolloRefdiff : MetricSetting where
  projectName := apollo.name
  pluginName := "refdiff"
  option := .object (Table.ofList [("tagsPattern", .string "v*")])
  enable := true

/-- A metric of a project is disabled and enabled again. In between a second one is enabled, and
another project enables a third one. -/
def settingHistory : List MetricSetting :=
  [apolloDora, { apolloDora with enable := false }, apolloRefdiff,
    { apolloDora with projectName := "gemini", pluginName := "issue_trace" }, apolloDora]

theorem settingHistory_enabled :
    MetricSetting.AreEnabledIn settingHistory apollo.name [apolloDora, apolloRefdiff] := by
  refine ⟨fun x => ⟨fun hx => ?_, fun hx => ?_⟩, List.pairwise_pair.2 (by decide)⟩
  · rcases List.mem_pair.1 hx with rfl | rfl
    · exact ⟨⟨settingHistory.take 4, [], rfl, nofun⟩, rfl, rfl⟩
    · refine ⟨⟨settingHistory.take 2, settingHistory.drop 3, rfl, ?_⟩, rfl, rfl⟩
      simp [settingHistory, MetricSetting.SameMetric, apolloDora, apolloRefdiff]
  · have hmem := hx.last.mem
    simp only [settingHistory, List.mem_cons, List.not_mem_nil, or_false] at hmem
    rcases hmem with rfl | rfl | rfl | rfl | rfl
    · exact List.mem_cons_self
    · cases hx.enable
    · exact List.mem_cons_of_mem _ List.mem_cons_self
    · exact absurd hx.projectName (by decide)
    · exact List.mem_cons_self

/-- The blueprint that collects a repository for the project. -/
def collected : Blueprint :=
  collecting.toBlueprint (.ofNat 1) (.midnight .epoch)

theorem collected_composed : ∃ plan, Shared.perform Catalog.registry 0 chance
    (collected.composePlan collected.syncPolicy) (empty.shared.putMetrics settingHistory) =
      some (.ok plan, empty.shared.putMetrics settingHistory) := by
  have hfound := (Memory.findMetrics_putMetrics (m := empty.shared.memory) rfl settingHistory
    collected.projectName).eq settingHistory_enabled fun _ => Iff.rfl
  have hok : (collected.composedPlan Catalog.registry collected.syncPolicy
      [apolloDora, apolloRefdiff]).isOk = true := by
    decide +kernel
  rw [Shared.perform_composePlan_putMetrics (by decide), hfound]
  cases hplan : collected.composedPlan Catalog.registry collected.syncPolicy
      [apolloDora, apolloRefdiff] with
  | error e =>
    rw [hplan] at hok
    cases hok
  | ok plan => exact ⟨plan, rfl⟩

end Sample

namespace Blueprint

/-- Let settings be put into a store that had none, and let the plan of a blueprint with a project
be composed, whatever its mode is. Then the plan has one stage for the metrics, or none if no
setting is enabled for the project at the end of the history. The stage has one task for each
enabled setting. Other histories with the same enabled settings give the same plan, whatever they
hold for other projects and of settings that are not enabled. -/
theorem measured {k : Nat} {chance : Chance} {s s' : Shared}
    (hs : s.memory.metrics = []) (history : List MetricSetting) {b : Blueprint}
    (hproject : b.projectName ≠ "") {policy : SyncPolicy} {plan : Plan}
    (h : Shared.perform Catalog.registry k chance (b.composePlan policy) (s.putMetrics history) =
      some (.ok plan, s')) :
    (∃ settings computing unmeasured,
      MetricSetting.AreEnabledIn history b.projectName settings ∧
      List.Forall₂ (fun x t => Task.Computes t b.projectName (x.pluginName, x.option)) settings
        computing ∧
      Catalog.registry.generate (b.planRequest policy []) = .ok unmeasured ∧
      (∀ t ∈ unmeasured.tasks, ¬ Catalog.IsMetric t.plugin) ∧
      plan.stages = b.beforePlan.stages ++ unmeasured.stages ++
        (if settings = [] then [] else [computing]) ++ b.afterPlan.stages) ∧
    ∀ history', (∀ x : MetricSetting, x.EnabledIn history' b.projectName ↔
        x.EnabledIn history b.projectName) →
      Shared.perform Catalog.registry k chance (b.composePlan policy) (s.putMetrics history') =
        some (.ok plan, s.putMetrics history') := by
  have hfound (history : List MetricSetting) : MetricSetting.AreEnabledIn history b.projectName
      ((s.memory.putMetrics history).findMetrics b.projectName) :=
    Memory.findMetrics_putMetrics hs history b.projectName
  rw [Shared.perform_composePlan_putMetrics hproject] at h
  have hplan := (Prod.mk.inj (Option.some.inj h)).1
  obtain ⟨computing, unmeasured, hcomposed⟩ := composedPlan_stages (hfound history).ascending hplan
  refine ⟨⟨_, computing, unmeasured, hfound history, hcomposed⟩, fun history' hsame => ?_⟩
  rw [Shared.perform_composePlan_putMetrics hproject, (hfound history').eq (hfound history) hsame,
    hplan]

theorem collected_measured : ∃ plan computing,
    Shared.perform Catalog.registry 0 Sample.chance
        (Sample.collected.composePlan Sample.collected.syncPolicy)
        (Sample.empty.shared.putMetrics Sample.settingHistory) =
      some (.ok plan, Sample.empty.shared.putMetrics Sample.settingHistory) ∧
    List.Forall₂ (fun x t => Task.Computes t "apollo" (x.pluginName, x.option))
      [Sample.apolloDora, Sample.apolloRefdiff] computing ∧
    computing ∈ plan.stages := by
  obtain ⟨plan, hplan⟩ := Sample.collected_composed
  obtain ⟨⟨settings, computing, unmeasured, hsettings, hcomputing, -, -, hstages⟩, -⟩ :=
    measured rfl Sample.settingHistory (by decide) hplan
  obtain rfl := hsettings.eq Sample.settingHistory_enabled fun _ => Iff.rfl
  refine ⟨plan, computing, hplan, hcomputing, ?_⟩
  rw [hstages, if_neg (List.cons_ne_nil _ _)]
  simp

end Blueprint

end Ingestion
