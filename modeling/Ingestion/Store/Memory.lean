import Ingestion.Blueprint.Query
import Ingestion.Error
import Ingestion.Pipeline
import Ingestion.Project

/-!
# The store in memory

The records of the program: blueprints by identifier, projects by name, the settings of metrics,
and the pipelines that have been submitted. A project belongs to one blueprint at most; a
blueprint that would break this rule is refused.
-/

namespace Ingestion

/-- The records of the program. -/
structure Memory where
  blueprints : Table Uuid Blueprint := Table.empty
  projects : Table String Project := Table.empty
  /-- The settings in the order in which they were last put. -/
  metrics : List MetricSetting := []
  /-- The pipelines in the order of their submission. -/
  pipelines : List Pipeline := []
deriving Inhabited

namespace Memory

/-- Whether a blueprint is listed before another one, or at the same place: the newer one first,
of two of the same instant the one with the smaller identifier. -/
def listedBefore (a b : Blueprint) : Bool :=
  b.createdAt < a.createdAt || (a.createdAt == b.createdAt && a.id.value ≤ b.id.value)

/-- The blueprints that a query selects, in the order in which they are listed. -/
def selected (m : Memory) (q : Query) : List Blueprint :=
  (m.blueprints.values.filter q.selects).mergeSort listedBefore

/-- The page of a query of a list. -/
def page (q : Query) (bs : List Blueprint) : List Blueprint :=
  match q.limit? with
  | some limit => (bs.drop q.offset).take limit
  | none => bs.drop q.offset

/-- The blueprints of a query, and the number of those on all its pages. -/
def findBlueprints (m : Memory) (q : Query) : List Blueprint × Int64 :=
  let bs := m.selected q
  (page q bs, .ofNat bs.length)

/-- The blueprint of an identifier. -/
def findBlueprint (m : Memory) (id : Uuid) : Option Blueprint :=
  m.blueprints.find? id

/-- The blueprint of a project, the one with the smallest identifier if there are several. -/
def findOwner (m : Memory) (project : String) : Option Blueprint :=
  m.blueprints.values.find? (·.projectName == project)

/-- Whether the project of a blueprint belongs to another one. -/
def isTaken (m : Memory) (b : Blueprint) : Bool :=
  b.hasProject && m.blueprints.values.any fun o => o.id != b.id && o.projectName == b.projectName

/-- The error for a blueprint whose project belongs to another one. -/
def taken (b : Blueprint) : StoreError :=
  .constraint ("project_name " ++ b.projectName ++ " is already used")

/-- Stores a blueprint in place of the one that may have its identifier. -/
def saveBlueprint (m : Memory) (b : Blueprint) : Except StoreError Memory :=
  if m.isTaken b then .error (taken b)
  else .ok { m with blueprints := m.blueprints.insert b.id b }

/-- The records without a blueprint. -/
def deleteBlueprint (m : Memory) (id : Uuid) : Memory :=
  { m with blueprints := m.blueprints.erase id }

/-- The project of a name. -/
def findProject (m : Memory) (name : String) : Option Project :=
  m.projects.find? name

/-- Adds a project, in place of the one that may have its name. -/
def addProject (m : Memory) (p : Project) : Memory :=
  { m with projects := m.projects.insert p.name p }

/-- The settings of a project that are enabled, by name of the plugin. -/
def findMetrics (m : Memory) (project : String) : List MetricSetting :=
  (m.metrics.filter fun s => s.projectName == project && s.enable).mergeSort fun a b =>
    decide (¬ b.pluginName < a.pluginName)

/-- Puts the setting of a metric, in place of the one that the project may have for it. -/
def putMetric (m : Memory) (s : MetricSetting) : Memory :=
  { m with metrics := m.metrics.filter (fun o =>
      !(o.projectName == s.projectName && o.pluginName == s.pluginName)) ++ [s] }

/-- Adds a pipeline. -/
def addPipeline (m : Memory) (p : Pipeline) : Memory :=
  { m with pipelines := m.pipelines ++ [p] }

end Memory

end Ingestion
