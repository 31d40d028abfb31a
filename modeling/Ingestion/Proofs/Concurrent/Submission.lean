import Mathlib
import Ingestion.Proofs.Concurrent.Deletion
import Ingestion.Proofs.Concurrent.Triggering
import Ingestion.Proofs.Plan.Combination

/-!
# What a trigger submits

A trigger of a blueprint by hand ends in one of five ways (`Triggered`): there is no such blueprint,
its plan cannot be composed, the plan has nothing worth running, the queue refuses the pipeline, or
the pipeline is submitted. Which of them it is, and the whole pipeline, follows from what is stored,
the policy that is asked for, and the generator and the queue that the service is set up with
(`Setup.trigger_ends`). Only the last one changes the store, by one pipeline.
-/

namespace Ingestion

/-- What the service is set up with besides its store: a generator of plans, and a queue that may
refuse a pipeline. -/
structure Setup where
  generate : PlanRequest → Except PlanError Plan
  /-- The error for a pipeline that is refused. -/
  refusal : NewPipeline → Option StoreError

/-- The answer to a call. All but plans and refusals comes from what is shared. -/
def Setup.answer (w : Setup) (k : Nat) (chance : Chance) (c : Call) :
    StateT Shared Option c.Reply := fun s =>
  match c with
  | .generatePlan request => some (w.generate request, s)
  | .submitPipeline p =>
    match w.refusal p with
    | some e => some (.error e, s)
    | none => s.answer {} k chance (.submitPipeline p)
  | c => s.answer {} k chance c

/-! ## Plans of a run -/

namespace Blueprint

/-- The policy of a run that is asked for by hand: the request says whether to collect everything
anew and whether to skip the collectors, the blueprint says the rest. -/
def askedPolicy (b : Blueprint) (asked : SyncPolicy) : SyncPolicy where
  skipOnFail := b.syncPolicy.skipOnFail
  fullSync := asked.fullSync
  skipCollectors := asked.skipCollectors
  timeAfter := b.syncPolicy.timeAfter

/-- A run of the blueprint under a policy carries out a plan: the stored one if its author has
written it, and otherwise the one that is generated with the settings in the store, between the
plans for before and after. -/
inductive RunsOn (generate : PlanRequest → Except PlanError Plan) (m : Memory) (b : Blueprint)
    (policy : SyncPolicy) : Plan → Prop
  | stored (hmode : b.mode = .advanced) : RunsOn generate m b policy b.plan
  | composed {generated : Plan} (hmode : b.mode = .normal)
      (hgenerated : generate (b.planRequest policy (b.settingsIn m)) = .ok generated) :
      RunsOn generate m b policy
        ⟨b.beforePlan.stages ++ generated.stages ++ b.afterPlan.stages⟩

/-- Under a policy that is given, the policy of the blueprint itself has no part in the plan. -/
theorem RunsOn.of_policy {generate : PlanRequest → Except PlanError Plan} {m : Memory}
    {b : Blueprint} {policy : SyncPolicy} {plan : Plan} (h : b.RunsOn generate m policy plan)
    (own : SyncPolicy) : { b with syncPolicy := own }.RunsOn generate m policy plan := by
  cases h with
  | stored hmode => exact .stored hmode
  | composed hmode hgenerated => exact .composed hmode hgenerated

end Blueprint

/-- The tasks that justify a run by themselves. -/
def Plan.work (p : Plan) : List Task :=
  p.tasks.filter fun t => t.plugin ∉ ["org", "refdiff", "dora"]

theorem Plan.isEmpty_iff {p : Plan} : p.isEmpty = true ↔ p.work = [] := by
  simp [isEmpty, work, Task.isStructural, structuralPlugins, or_iff_not_imp_left]

/-! ## The ways a trigger ends -/

/-- How a trigger ends, and the store after it, if a pipeline that is submitted now is given the
identifier `pipelineId`. -/
inductive Triggered (w : Setup) (s : Shared) (pipelineId id : Uuid) (asked : SyncPolicy) :
    Except RequestError Pipeline → Memory → Prop
  | absent (hb : s.memory.findBlueprint id = none) :
      Triggered w s pipelineId id asked
        (.error (.notFound ("blueprint " ++ id.toText ++ " not found"))) s.memory
  | unplanned {b : Blueprint} {e : PlanError} (hb : s.memory.findBlueprint id = some b)
      (hmode : b.mode = .normal)
      (hplan :
        w.generate (b.planRequest (b.askedPolicy asked) (b.settingsIn s.memory)) = .error e) :
      Triggered w s pipelineId id asked (.error (.plan b.id b.name e)) s.memory
  | idle {b : Blueprint} {plan : Plan} (hb : s.memory.findBlueprint id = some b)
      (hplan : b.RunsOn w.generate s.memory (b.askedPolicy asked) plan) (hwork : plan.work = []) :
      Triggered w s pipelineId id asked (.error .emptyPlan) s.memory
  | refused {b : Blueprint} {plan : Plan} {e : StoreError}
      (hb : s.memory.findBlueprint id = some b)
      (hplan : b.RunsOn w.generate s.memory (b.askedPolicy asked) plan) (hwork : plan.work ≠ [])
      (hrefusal : w.refusal
        { name := b.name, blueprintId := b.id, plan, labels := b.labels,
          syncPolicy := b.askedPolicy asked } = some e) :
      Triggered w s pipelineId id asked (.error (.submit b.id b.name e)) s.memory
  | submitted {b : Blueprint} {plan : Plan} {pipeline : Pipeline}
      (hb : s.memory.findBlueprint id = some b)
      (hplan : b.RunsOn w.generate s.memory (b.askedPolicy asked) plan) (hwork : plan.work ≠ [])
      (haccepted : w.refusal
        { name := b.name, blueprintId := b.id, plan, labels := b.labels,
          syncPolicy := b.askedPolicy asked } = none)
      (hpipeline : pipeline =
        { id := pipelineId, name := b.name, blueprintId := b.id, plan, labels := b.labels,
          syncPolicy := b.askedPolicy asked, status := .created, totalTasks := plan.tasks.length,
          createdAt := s.clock }) :
      Triggered w s pipelineId id asked (.ok pipeline)
        { s.memory with pipelines := s.memory.pipelines ++ [pipeline] }

namespace Setup

variable {w : Setup} {k : Nat} {chance : Chance} {s : Shared}

theorem looksUp (w : Setup) (k : Nat) (chance : Chance) :
    Shared.LooksUp (w.answer k chance) w.generate :=
  ⟨fun _ _ => rfl, fun _ _ => rfl, fun _ _ => rfl⟩

/-- A run gets the plan that it carries out. -/
theorem run_runPlan {b : Blueprint} {policy : SyncPolicy} {plan : Plan}
    (h : b.RunsOn w.generate s.memory policy plan) :
    Program.run (w.answer k chance) (b.runPlan policy).run s = some (.ok plan, s) := by
  unfold Blueprint.runPlan
  cases h with
  | stored hmode =>
    rw [hmode]
    rfl
  | composed hmode hgenerated =>
    rw [hmode, ← Blueprint.wrapPlan_stages]
    refine Request.run_lift (r := .ok (b.wrapPlan _)) ?_
    rw [(w.looksUp k chance).run_composePlan, hgenerated]
    rfl

theorem run_runPlan_error {b : Blueprint} {policy : SyncPolicy} {e : PlanError}
    (hmode : b.mode = .normal)
    (h : w.generate (b.planRequest policy (b.settingsIn s.memory)) = .error e) :
    Program.run (w.answer k chance) (b.runPlan policy).run s =
      some (.error (.plan b.id b.name e), s) := by
  unfold Blueprint.runPlan
  rw [hmode]
  refine Request.run_lift (r := .error e) ?_
  rw [(w.looksUp k chance).run_composePlan, h]
  rfl

/-- A trigger runs the stored blueprint under the policy that is asked for. -/
theorem run_trigger {id : Uuid} {b : Blueprint} (hb : s.memory.findBlueprint id = some b)
    (asked : SyncPolicy) : Program.run (w.answer k chance) (Service.trigger id asked).run s =
      Program.run (w.answer k chance)
        ({ b with syncPolicy := b.askedPolicy asked }.run (b.askedPolicy asked)).run s := by
  unfold Service.trigger
  rw [Request.run_andThen ((w.looksUp k chance).run_get hb)]
  rfl

theorem run_submit {p : NewPipeline} {wrap : StoreError → RequestError}
    {r : Except StoreError Pipeline} {s' : Shared}
    (h : w.answer k chance (.submitPipeline p) s = some (r, s')) :
    Program.run (w.answer k chance) (Request.lift wrap (Program.ask (.submitPipeline p))).run s =
      some (r.mapError wrap, s') := by
  refine Request.run_lift ?_
  rw [Program.run_ask]
  exact h

theorem answer_refused {p : NewPipeline} {e : StoreError} (h : w.refusal p = some e) :
    w.answer k chance (.submitPipeline p) s = some (.error e, s) := by
  simp only [answer, h]

theorem answer_accepted {p : NewPipeline} (h : w.refusal p = none) (hfresh : chance.id ∉ s.issued) :
    w.answer k chance (.submitPipeline p) s = some (.ok (p.toPipeline chance.id s.clock),
      { s with
        memory := s.memory.addPipeline (p.toPipeline chance.id s.clock)
        issued := chance.id :: s.issued }) := by
  simp only [answer, h, Shared.answer, if_neg hfresh]

/-- A run whose plan has work submits its pipeline. -/
theorem run_run_of_work {b : Blueprint} {policy : SyncPolicy} {plan : Plan}
    (h : b.RunsOn w.generate s.memory policy plan) (hwork : plan.work ≠ [])
    {r : Except StoreError Pipeline} {s' : Shared}
    (hsubmit : w.answer k chance (.submitPipeline (b.newPipeline policy plan)) s = some (r, s')) :
    Program.run (w.answer k chance) (b.run policy).run s =
      some (r.mapError (.submit b.id b.name), s') := by
  have hempty : plan.isEmpty = false := Bool.eq_false_iff.2 (mt Plan.isEmpty_iff.1 hwork)
  unfold Blueprint.run
  rw [Request.run_andThen (run_runPlan h), hempty]
  exact run_submit hsubmit

/-- A trigger comes to each of the ways it may end. -/
theorem run_of_triggered (hfresh : chance.id ∉ s.issued) {id : Uuid} {asked : SyncPolicy}
    {result : Except RequestError Pipeline} {m : Memory}
    (h : Triggered w s chance.id id asked result m) :
    ∃ issued, Program.run (w.answer k chance) (Service.trigger id asked).run s =
      some (result, { s with memory := m, issued }) := by
  cases h with
  | absent hb =>
    refine ⟨s.issued, ?_⟩
    have hget : Program.run (w.answer k chance) (Service.get id).run s =
        some (.error (Service.blueprintNotFound id), s) := by
      unfold Service.get
      rw [Request.run_andThen ((w.looksUp k chance).run_findBlueprint id s), hb]
      rfl
    unfold Service.trigger
    exact Request.run_andThen_error hget
  | unplanned hb hmode hplan =>
    refine ⟨s.issued, ?_⟩
    rw [run_trigger hb]
    unfold Blueprint.run
    exact Request.run_andThen_error (run_runPlan_error hmode hplan)
  | idle hb hplan hwork =>
    refine ⟨s.issued, ?_⟩
    rw [run_trigger hb]
    unfold Blueprint.run
    rw [Request.run_andThen (run_runPlan (hplan.of_policy _)), Plan.isEmpty_iff.2 hwork]
    rfl
  | @refused b _ _ hb hplan hwork hrefusal =>
    refine ⟨s.issued, ?_⟩
    rw [run_trigger hb]
    exact run_run_of_work (hplan.of_policy (b.askedPolicy asked)) hwork (answer_refused hrefusal)
  | @submitted b _ _ hb hplan hwork haccepted hpipeline =>
    refine ⟨chance.id :: s.issued, ?_⟩
    have hrun := run_run_of_work (k := k) (hplan.of_policy (b.askedPolicy asked)) hwork
      (answer_accepted haccepted hfresh)
    rw [run_trigger hb, hrun, hpipeline, ← Plan.taskCount_eq]
    rfl

/-- A trigger ends in one of the ways. -/
theorem exists_triggered (w : Setup) (s : Shared) (pipelineId id : Uuid) (asked : SyncPolicy) :
    ∃ result m, Triggered w s pipelineId id asked result m := by
  cases hb : s.memory.findBlueprint id with
  | none => exact ⟨_, _, .absent hb⟩
  | some b =>
    have hworks (plan : Plan) (hplan : b.RunsOn w.generate s.memory (b.askedPolicy asked) plan) :
        ∃ result m, Triggered w s pipelineId id asked result m := by
      by_cases hwork : plan.work = []
      · exact ⟨_, _, .idle hb hplan hwork⟩
      · cases hrefusal : w.refusal
            { name := b.name, blueprintId := b.id, plan, labels := b.labels,
              syncPolicy := b.askedPolicy asked } with
        | some e => exact ⟨_, _, .refused hb hplan hwork hrefusal⟩
        | none => exact ⟨_, _, .submitted hb hplan hwork hrefusal rfl⟩
    cases hmode : b.mode with
    | advanced => exact hworks _ (.stored hmode)
    | normal =>
      cases hplan : w.generate (b.planRequest (b.askedPolicy asked) (b.settingsIn s.memory)) with
      | error e => exact ⟨_, _, .unplanned hb hmode hplan⟩
      | ok generated => exact hworks _ (.composed hmode hplan)

/-- Whatever the store holds and whatever a trigger asks for, it ends in exactly one of the ways,
with the result and the store that belong to it. The blueprints, the projects and the settings stay
as they are. So do the pipelines, but for the one that is submitted and given back. -/
theorem trigger_ends (w : Setup) (k : Nat) (chance : Chance) (s : Shared)
    (hfresh : chance.id ∉ s.issued) (id : Uuid) (asked : SyncPolicy) :
    ∃ result s', Program.run (w.answer k chance) (Service.trigger id asked).run s =
        some (result, s') ∧
      (∀ result' m, Triggered w s chance.id id asked result' m ↔
        result' = result ∧ m = s'.memory) ∧
      (s'.memory.blueprints = s.memory.blueprints ∧ s'.memory.projects = s.memory.projects ∧
        s'.memory.metrics = s.memory.metrics) ∧
      (∀ e, result = .error e → s'.memory.pipelines = s.memory.pipelines) ∧
      ∀ pipeline, result = .ok pipeline →
        s'.memory.pipelines = s.memory.pipelines ++ [pipeline] := by
  obtain ⟨result, m, h⟩ := exists_triggered w s chance.id id asked
  obtain ⟨issued, hrun⟩ := run_of_triggered (k := k) hfresh h
  refine ⟨result, _, hrun, fun result' m' => ⟨fun h' => ?_, ?_⟩, ?_⟩
  · obtain ⟨issued', hrun'⟩ := run_of_triggered (k := k) hfresh h'
    rw [hrun] at hrun'
    obtain ⟨rfl, hshared⟩ := Prod.mk.inj (Option.some.inj hrun')
    exact ⟨rfl, (congrArg Shared.memory hshared).symm⟩
  · rintro ⟨rfl, rfl⟩
    exact h
  · cases h <;> simp

end Setup

/-! ## Two blueprints that are triggered -/

namespace Sample

/-- The plugins of the catalog, and a queue that takes everything. -/
def setup : Setup where
  generate := Catalog.registry.generate
  refusal _ := none

/-- A blueprint that collects a repository for a project, after a plan of its author. -/
def prepared : Blueprint :=
  { collecting.toBlueprint (.ofNat 2) (.midnight .epoch) with
    beforePlan := .single { plugin := "customize" } }

/-- A store that holds a blueprint in each mode, and a metric of the project. -/
def furnished : Shared where
  clock := .midnight .epoch
  memory := {
    blueprints := (Table.empty.insert nightly.id nightly).insert prepared.id prepared
    metrics := [apolloDora] }
  issued := [prepared.id, nightly.id]

/-- What is asked for when the blueprint that collects is triggered. -/
def withoutCollectors : SyncPolicy where
  skipCollectors := true

theorem prepared_runsOn : ∃ plan,
    prepared.RunsOn setup.generate furnished.memory (prepared.askedPolicy withoutCollectors) plan ∧
      plan.tasks.map (·.plugin) = ["customize", "org", "gitlab", "dora"] ∧
      ∀ t ∈ plan.tasks, "collectApiIssues" ∉ t.subtasks := by
  have h : (setup.generate (prepared.planRequest (prepared.askedPolicy withoutCollectors)
      (prepared.settingsIn furnished.memory))).toOption.any (fun g =>
        g.tasks.map (·.plugin) = ["org", "gitlab", "dora"] &&
          g.tasks.all fun t => "collectApiIssues" ∉ t.subtasks) = true := by
    decide +kernel
  cases hgenerated : setup.generate (prepared.planRequest
      (prepared.askedPolicy withoutCollectors) (prepared.settingsIn furnished.memory)) with
  | error e =>
    rw [hgenerated] at h
    cases h
  | ok generated =>
    rw [hgenerated] at h
    simp only [Except.toOption, Option.any_some, Bool.and_eq_true, decide_eq_true_iff,
      List.all_eq_true] at h
    obtain ⟨hplugins, hquiet⟩ := h
    refine ⟨_, .composed rfl hgenerated, ?_⟩
    have htasks : Plan.tasks ⟨prepared.beforePlan.stages ++ generated.stages ++
        prepared.afterPlan.stages⟩ = { plugin := "customize" } :: generated.tasks := by
      change (([[_]] ++ generated.stages) ++ []).flatten = _
      rw [List.append_nil]
      rfl
    rw [htasks, List.map_cons, hplugins, List.forall_mem_cons]
    exact ⟨rfl, List.not_mem_nil, hquiet⟩

end Sample

namespace Setup

/-- A plan that is stored, and one that is composed with the flag of the request, where the
blueprint by itself would not skip the collectors. -/
theorem triggers_submitted : ∃ p q s₁ s₂,
    Program.run (Sample.setup.answer 0 { Sample.chance with id := .ofNat 3 })
        (Service.trigger Sample.nightly.id { fullSync := true }).run Sample.furnished =
      some (.ok p, s₁) ∧
    Program.run (Sample.setup.answer 0 { Sample.chance with id := .ofNat 3 })
        (Service.trigger Sample.prepared.id Sample.withoutCollectors).run Sample.furnished =
      some (.ok q, s₂) ∧
    (p.syncPolicy.fullSync = true ∧ p.totalTasks = 1 ∧ s₁.memory.pipelines = [p]) ∧
    Sample.prepared.syncPolicy.skipCollectors = false ∧ q.syncPolicy.skipCollectors = true ∧
    q.plan.tasks.map (·.plugin) = ["customize", "org", "gitlab", "dora"] ∧
    (∀ t ∈ q.plan.tasks, "collectApiIssues" ∉ t.subtasks) ∧
    q.totalTasks = 4 ∧ s₂.memory.pipelines = [q] := by
  obtain ⟨_, s₁, hrun, hends, -⟩ := trigger_ends Sample.setup 0
    { Sample.chance with id := .ofNat 3 } Sample.furnished (by decide) Sample.nightly.id
    { fullSync := true }
  obtain ⟨rfl, hmemory⟩ := (hends _ _).1
    (.submitted (b := Sample.nightly) rfl (.stored rfl) (by decide) rfl rfl)
  obtain ⟨_, s₂, hrun', hends', -⟩ := trigger_ends Sample.setup 0
    { Sample.chance with id := .ofNat 3 } Sample.furnished (by decide) Sample.prepared.id
    Sample.withoutCollectors
  obtain ⟨plan, hplan, hplugins, hquiet⟩ := Sample.prepared_runsOn
  have hcount : plan.tasks.length = 4 := by
    rw [← List.length_map (·.plugin), hplugins]
    rfl
  have hwork : plan.work ≠ [] := by
    have hmem : "gitlab" ∈ plan.tasks.map (·.plugin) := by
      rw [hplugins]
      decide
    obtain ⟨t, ht, hname⟩ := List.mem_map.1 hmem
    exact List.ne_nil_of_mem (List.mem_filter.2 ⟨ht, by rw [hname]; decide⟩)
  obtain ⟨rfl, hmemory'⟩ := (hends' _ _).1
    (.submitted (b := Sample.prepared) rfl hplan hwork rfl rfl)
  refine ⟨_, _, s₁, s₂, hrun, hrun', ⟨rfl, rfl, ?_⟩, rfl, rfl, hplugins, hquiet, hcount, ?_⟩
  · rw [← hmemory]
    rfl
  · rw [← hmemory']
    rfl

end Setup

end Ingestion
