import Ingestion.Request.Program

/-!
# Running a blueprint

A run of a blueprint takes its plan, composes it anew in mode `NORMAL`, and submits a pipeline
with it. A plan that is not worth running is not submitted.
-/

namespace Ingestion

/-- The options of metrics by name. Of several settings for one metric the last counts. -/
def MetricSetting.options (settings : List MetricSetting) : Table String Json.Value :=
  Table.ofList (settings.map fun m => (m.pluginName, m.option))

namespace Blueprint

/-- What the plan of a blueprint is generated from. -/
def planRequest (b : Blueprint) (policy : SyncPolicy) (settings : List MetricSetting) :
    PlanRequest where
  projectName := b.projectName
  connections := b.connections
  metrics := MetricSetting.options settings
  skipCollectors := policy.skipCollectors

/-- The plan of a blueprint around the generated one. -/
def wrapPlan (b : Blueprint) (generated : Plan) : Plan :=
  .sequentialize [b.beforePlan, generated, b.afterPlan]

/-- The settings of the metrics of the blueprint's project, none if it has no project. -/
def metrics (b : Blueprint) : Program (Except StoreError (List MetricSetting)) :=
  if b.hasProject then Program.ask (.findMetrics b.projectName) else return .ok []

/-- Composes the plan of a blueprint: the generated plan, between its own plans for before and
after. -/
def composePlan (b : Blueprint) (policy : SyncPolicy) : Program (Except PlanError Plan) := do
  match ← b.metrics with
  | .error e => return .error (.store e)
  | .ok settings =>
    match ← Program.ask (.generatePlan (b.planRequest policy settings)) with
    | .error e => return .error e
    | .ok generated => return .ok (b.wrapPlan generated)

/-- The plan that a run of the blueprint carries out. -/
def runPlan (b : Blueprint) (policy : SyncPolicy) : Request Plan :=
  match b.mode with
  | .normal => .lift (.plan b.id b.name) (b.composePlan policy)
  | .advanced => return b.plan

/-- The run of a blueprint that is asked for. -/
def newPipeline (b : Blueprint) (policy : SyncPolicy) (plan : Plan) : NewPipeline where
  name := b.name
  blueprintId := b.id
  plan
  labels := b.labels
  syncPolicy := policy

/-- Runs a blueprint under a policy. -/
def run (b : Blueprint) (policy : SyncPolicy) : Request Pipeline := do
  let plan ← b.runPlan policy
  if plan.isEmpty then throw .emptyPlan
  .lift (.submit b.id b.name) (Program.ask (.submitPipeline (b.newPipeline policy plan)))

end Blueprint

end Ingestion
