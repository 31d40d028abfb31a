import Ingestion.Error
import Ingestion.Json.Printer
import Ingestion.Plugin.Source

/-!
# Metrics and the mapping of projects

A plugin that computes a metric runs as a single task with the options of the project. The
mapping of a project is a task that links it to the rows that its connections write.
-/

namespace Ingestion

/-- A plugin that computes a metric over the data of a project. -/
structure Metric where
  name : String
deriving DecidableEq, Repr, Inhabited

namespace Metric

/-- The options that a setting gives: none if it is `null`, else its members. -/
def options (m : Metric) (setting : Json.Value) : Except PlanError Json.Members :=
  match setting.toJson, setting.members? with
  | .null, _ => .ok Table.empty
  | _, some members => .ok members
  | j, none => .error (.invalidOptions m.name ("expected an object, got " ++ j.toText))

/-- The plan of a metric: a single task with the options of its setting and the name of the
project. -/
def plan (m : Metric) (projectName : String) (setting : Json.Value) : Except PlanError Plan := do
  let options ← m.options setting
  let task : Task := { plugin := m.name, options }
  return .single (task.withOption "projectName" (.string projectName))

end Metric

/-- The JSON value of a row that a project is linked to. -/
def DomainScope.toValue (s : DomainScope) : Json.Value :=
  .object (Table.ofList [("table", .string s.table), ("rowId", .string s.rowId)])

/-- The task that links a project to rows. -/
def mappingTask (projectName : String) (scopes : List DomainScope) : Task :=
  let mapping : Json.Value := .object <| Table.ofList
    [("projectName", .string projectName), ("scopes", .array (scopes.map DomainScope.toValue))]
  ({ plugin := "org" } : Task)
    |>.withSubtasks ["setProjectMapping"]
    |>.withOption "projectMappings" (.array [mapping])

/-- The plan that links a project to rows. -/
def mappingPlan (projectName : String) (scopes : List DomainScope) : Plan :=
  .single (mappingTask projectName scopes)

end Ingestion
