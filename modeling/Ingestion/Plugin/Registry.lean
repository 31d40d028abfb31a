import Ingestion.Plugin.Metric

/-!
# The registry of plugins

The plugins that plans are made with, by name. A name may belong to a source and to a metric.
Asking for a plugin of one kind under a name that only the other kind has is an error of its own.
-/

namespace Ingestion

/-- The plugins that plans are made with. -/
structure Registry where
  sources : Table String Source := Table.empty
  metrics : Table String Metric := Table.empty
  /-- Whether projects are linked to the rows of their connections. -/
  mapsProjects : Bool := false
deriving Inhabited

namespace Registry

/-- The registry with a source, in place of the one that may have had its name. -/
def addSource (r : Registry) (s : Source) : Registry :=
  { r with sources := r.sources.insert s.name s }

/-- The registry with a metric. -/
def addMetric (r : Registry) (m : Metric) : Registry :=
  { r with metrics := r.metrics.insert m.name m }

/-- The source of a name. -/
def source (r : Registry) (name : String) : Except PlanError Source :=
  match r.sources.find? name with
  | some s => .ok s
  | none =>
    if (r.metrics.find? name).isSome then .error (.unsupported name "data source blueprints")
    else .error (.unknownPlugin name)

/-- The metric of a name. -/
def metric (r : Registry) (name : String) : Except PlanError Metric :=
  match r.metrics.find? name with
  | some m => .ok m
  | none =>
    if (r.sources.find? name).isSome then .error (.unsupported name "metric blueprints")
    else .error (.unknownPlugin name)

/-- The names of the sources, ascending. -/
def sourceNames (r : Registry) : List String :=
  r.sources.keys

end Registry

end Ingestion
