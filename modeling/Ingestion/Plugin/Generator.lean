import Ingestion.Plugin.Registry

/-!
# Generating plans

The plan of a project is made of the plans of its connections, side by side, then of its metrics,
side by side. Before them goes the mapping of the project to the rows that the connections write.
-/

namespace Ingestion

/-- What a plan is generated from. -/
structure PlanRequest where
  /-- The project, or the empty name for none. -/
  projectName : String
  connections : List Connection
  /-- The options of each metric, by name. -/
  metrics : Table String Json.Value
  skipCollectors : Bool
deriving Inhabited

namespace Registry

/-- The source of a connection, if the connection lists the scopes that it needs. -/
def connectionSource (r : Registry) (c : Connection) : Except PlanError Source := do
  let s ← r.source c.pluginName
  if c.scopes.isEmpty && !s.scopeOptional then
    throw (.noScope c.pluginName c.connectionId)
  return s

/-- The plan of a metric of a project. -/
def metricPlan (r : Registry) (projectName : String) (m : String × Json.Value) :
    Except PlanError Plan := do
  let metric ← r.metric m.1
  metric.plan projectName m.2

/-- The plan that links a project to the rows its connections write, unless there is no project
or projects are not linked. -/
def projectPlan (r : Registry) (projectName : String) (scopes : List DomainScope) : Plan :=
  if r.mapsProjects && projectName != "" then mappingPlan projectName scopes else .nil

/-- Generates a plan. The connections are looked at in order, then the metrics by ascending name,
and the first that has no plan gives the error. -/
def generate (r : Registry) (req : PlanRequest) : Except PlanError Plan := do
  let sources ← req.connections.mapM r.connectionSource
  let planned := sources.zip req.connections
  let metricPlans ← req.metrics.toList.mapM (r.metricPlan req.projectName)
  let scopes := planned.flatMap fun (s, c) => s.domainScopes c.connectionId c.scopes
  return .sequentialize
    [r.projectPlan req.projectName scopes,
      .parallelize (planned.map fun (s, c) => s.plan c.connectionId c.scopes req.skipCollectors),
      .parallelize metricPlans]

end Registry

end Ingestion
