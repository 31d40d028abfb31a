import Mathlib
import Ingestion.Proofs.Table
import Ingestion.Store.Memory

/-!
# Settings put one after another

A store that is given settings of metrics one after another holds the last one for each metric of
each project, and no other (`Memory.putMetrics_metrics`). So the settings that it finds for a
project follow from the history of what has been put, whatever has been put and replaced before:
they are the last ones of the project that are enabled, by ascending name of the plugin
(`Memory.findMetrics_putMetrics`).
-/

namespace Ingestion

/-! ## The last settings of a history -/

namespace MetricSetting

/-- Two settings are for the same metric of the same project. -/
def SameMetric (s t : MetricSetting) : Prop :=
  s.projectName = t.projectName ∧ s.pluginName = t.pluginName

/-- A setting is the last one of a history for the metric of its project. -/
def LastIn (history : List MetricSetting) (s : MetricSetting) : Prop :=
  ∃ before after, history = before ++ s :: after ∧ ∀ t ∈ after, ¬ s.SameMetric t

/-- A setting is enabled for a project at the end of a history: it is the last one for its metric,
and it enables it. -/
structure EnabledIn (history : List MetricSetting) (project : String)
    (s : MetricSetting) : Prop where
  last : s.LastIn history
  projectName : s.projectName = project
  enable : s.enable = true

/-- The settings stand by ascending name of the plugin, so there is one for each plugin at most. -/
def AscendByPlugin (settings : List MetricSetting) : Prop :=
  settings.Pairwise fun s t => s.pluginName < t.pluginName

/-- A list holds the settings that are enabled for a project, one for each plugin, by ascending name
of the plugin. -/
structure AreEnabledIn (history : List MetricSetting) (project : String)
    (settings : List MetricSetting) : Prop where
  mem_iff : ∀ s, s ∈ settings ↔ s.EnabledIn history project
  ascending : AscendByPlugin settings

theorem lastIn_append_single {history : List MetricSetting} {s t : MetricSetting} :
    s.LastIn (history ++ [t]) ↔ s = t ∨ s.LastIn history ∧ ¬ s.SameMetric t := by
  constructor
  · rintro ⟨before, after, hhistory, hafter⟩
    rcases List.eq_nil_or_concat after with rfl | ⟨after, u, rfl⟩
    · obtain ⟨-, hlast⟩ := List.append_inj' hhistory rfl
      exact .inl (List.singleton_inj.1 hlast).symm
    · rw [List.concat_eq_append] at hhistory hafter
      rw [← List.cons_append, ← List.append_assoc] at hhistory
      obtain ⟨rfl, hlast⟩ := List.append_inj' hhistory rfl
      obtain rfl := List.singleton_inj.1 hlast
      obtain ⟨hafter, hother⟩ := List.forall_mem_append.1 hafter
      exact .inr ⟨⟨before, after, rfl, hafter⟩, hother t List.mem_cons_self⟩
  · rintro (rfl | ⟨⟨before, after, rfl, hafter⟩, hother⟩)
    · exact ⟨history, [], rfl, nofun⟩
    · refine ⟨before, after ++ [t], by simp, ?_⟩
      exact List.forall_mem_append.2 ⟨hafter, List.forall_mem_singleton.2 hother⟩

theorem not_lastIn_nil {s : MetricSetting} : ¬ s.LastIn [] := by
  rintro ⟨before, after, hnil, -⟩
  simp at hnil

theorem LastIn.mem {history : List MetricSetting} {s : MetricSetting} (h : s.LastIn history) :
    s ∈ history := by
  obtain ⟨before, after, rfl, -⟩ := h
  exact List.mem_append_right _ List.mem_cons_self

/-- What is enabled for a project determines the list. -/
theorem AreEnabledIn.eq {history history' : List MetricSetting} {project : String}
    {settings settings' : List MetricSetting} (h : AreEnabledIn history project settings)
    (h' : AreEnabledIn history' project settings')
    (hsame : ∀ s : MetricSetting, s.EnabledIn history project ↔ s.EnabledIn history' project) :
    settings = settings' := by
  refine KeyOrder.eq_of_mem_iff h.ascending h'.ascending fun s => ?_
  rw [h.mem_iff, h'.mem_iff, hsame]

end MetricSetting

/-! ## The settings of a store -/

namespace Memory

open MetricSetting

variable {m : Memory} {history : List MetricSetting} {s t : MetricSetting} {project : String}

/-- The store after settings have been put one after another. -/
def putMetrics (m : Memory) (history : List MetricSetting) : Memory :=
  history.foldl putMetric m

/-- No two settings of a store are for the same metric. -/
def OnePerMetric (m : Memory) : Prop :=
  m.metrics.Pairwise fun s t => ¬ s.SameMetric t

theorem putMetrics_append_single :
    m.putMetrics (history ++ [t]) = (m.putMetrics history).putMetric t := by
  rw [putMetrics, List.foldl_append]
  rfl

theorem mem_metrics_putMetric :
    s ∈ (m.putMetric t).metrics ↔ s = t ∨ s ∈ m.metrics ∧ ¬ s.SameMetric t := by
  simp [putMetric, SameMetric, or_comm, imp_iff_not_or]

theorem OnePerMetric.putMetric (h : m.OnePerMetric) (t : MetricSetting) :
    (m.putMetric t).OnePerMetric := by
  refine List.pairwise_append.2 ⟨h.filter _, List.pairwise_singleton _ _, ?_⟩
  intro s hs u hu
  rw [List.mem_singleton.1 hu]
  simpa [SameMetric, imp_iff_not_or] using (List.mem_filter.1 hs).2

/-- A store that had no settings holds the last ones of the history, one for each metric. -/
theorem putMetrics_metrics (hm : m.metrics = []) (history : List MetricSetting) :
    (∀ s, s ∈ (m.putMetrics history).metrics ↔ s.LastIn history) ∧
      (m.putMetrics history).OnePerMetric := by
  -- The store follows the history from its start, and what is last is told from its end.
  induction history using List.reverseRecOn with
  | nil =>
    refine ⟨fun s => ?_, ?_⟩
    · show s ∈ m.metrics ↔ _
      simp [hm, not_lastIn_nil]
    · show m.metrics.Pairwise _
      rw [hm]
      exact .nil
  | append_singleton history t ih =>
    rw [putMetrics_append_single]
    refine ⟨fun s => ?_, ih.2.putMetric t⟩
    rw [mem_metrics_putMetric, ih.1, lastIn_append_single]

theorem mem_findMetrics :
    s ∈ m.findMetrics project ↔ s ∈ m.metrics ∧ s.projectName = project ∧ s.enable = true := by
  simp [findMetrics]

theorem findMetrics_ascending (h : m.OnePerMetric) (project : String) :
    AscendByPlugin (m.findMetrics project) := by
  have hsorted : (m.findMetrics project).Pairwise fun s t => ¬ t.pluginName < s.pluginName := by
    refine (List.pairwise_mergeSort ?_ ?_ _).imp fun {s t} hst => of_decide_eq_true hst
    · intro s t u hst htu
      exact decide_eq_true (String.le_trans (of_decide_eq_true hst) (of_decide_eq_true htu))
    · intro s t
      rw [Bool.or_eq_true]
      exact (String.le_total s.pluginName t.pluginName).imp decide_eq_true decide_eq_true
  -- Among the settings of one project, those for different metrics have different plugins.
  have hdistinct : (m.findMetrics project).Pairwise fun s t => s.pluginName ≠ t.pluginName := by
    have hfiltered : (m.findMetrics project).Pairwise fun s t => ¬ s.SameMetric t :=
      (h.filter _).perm (List.mergeSort_perm _ _).symm fun {s t} hst hts =>
        hst ⟨hts.1.symm, hts.2.symm⟩
    refine hfiltered.imp_of_mem fun {s t} hs ht hst heq => hst ⟨?_, heq⟩
    rw [(mem_findMetrics.1 hs).2.1, (mem_findMetrics.1 ht).2.1]
  refine (hsorted.and hdistinct).imp fun {s t} hst => ?_
  exact Decidable.byContradiction fun hlt => hst.2 (KeyOrder.connected hlt hst.1)

/-- The setting of another project makes no difference. -/
theorem findMetrics_putMetric_of_ne (h : t.projectName ≠ project) :
    (m.putMetric t).findMetrics project = m.findMetrics project := by
  have hkept (s : MetricSetting) : (s.projectName == project && s.enable &&
      !(s.projectName == t.projectName && s.pluginName == t.pluginName)) =
        (s.projectName == project && s.enable) := by
    by_cases hs : s.projectName = project
    · simp [hs, h.symm]
    · simp [hs]
  rw [findMetrics, findMetrics, putMetric, List.filter_append, List.filter_filter]
  simp only [hkept]
  rw [List.filter_singleton, beq_eq_false_iff_ne.2 h, Bool.false_and]
  simp

/-- The settings that a store finds for a project are those that the history has enabled for it. -/
theorem findMetrics_putMetrics (hm : m.metrics = []) (history : List MetricSetting)
    (project : String) :
    AreEnabledIn history project ((m.putMetrics history).findMetrics project) := by
  obtain ⟨hmem, hone⟩ := putMetrics_metrics hm history
  refine ⟨fun s => ?_, findMetrics_ascending hone project⟩
  rw [mem_findMetrics, hmem]
  exact ⟨fun ⟨hlast, hproject, henable⟩ => ⟨hlast, hproject, henable⟩,
    fun ⟨hlast, hproject, henable⟩ => ⟨hlast, hproject, henable⟩⟩

end Memory

end Ingestion
