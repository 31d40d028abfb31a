import Ingestion.Blueprint.Patch
import Ingestion.Blueprint.Query
import Ingestion.Pipeline
import Ingestion.Project
import Ingestion.Time.Format

/-!
# JSON forms

The JSON trees in which the data of the domain is written. Every field is written, `null` for one
that has no value, except in the patch of a policy, which leaves out what it does not change.
-/

namespace Ingestion

/-- The tree of an identifier. -/
def Uuid.toJson (u : Uuid) : Json :=
  .string u.toText

/-- The tree of an instant. -/
def Instant.toJson (t : Instant) : Json :=
  .string t.toText

/-- The tree of a list of texts. -/
def Json.strings (xs : List String) : Json :=
  .ofList .string xs

namespace Task

/-- The tree of a task. -/
def toJson (t : Task) : Json :=
  .object [("plugin", .string t.plugin), ("subtasks", .strings t.subtasks),
    ("options", t.options.toJson)]

end Task

/-- The tree of a plan: an array of stages, each an array of tasks. -/
def Plan.toJson (p : Plan) : Json :=
  .ofList (.ofList Task.toJson) p.stages

/-- The tree of a mode. -/
def Mode.toJson (m : Mode) : Json :=
  .string m.name

/-- The tree of a scope. -/
def Scope.toJson (s : Scope) : Json :=
  .object [("scope_id", .string s.scopeId), ("entities", .strings s.entities)]

/-- The tree of a connection. -/
def Connection.toJson (c : Connection) : Json :=
  .object [("plugin_name", .string c.pluginName), ("connection_id", .nat c.connectionId.toNat),
    ("scopes", .ofList Scope.toJson c.scopes)]

/-- The tree of a policy. -/
def SyncPolicy.toJson (p : SyncPolicy) : Json :=
  .object [("skip_on_fail", .bool p.skipOnFail), ("full_sync", .bool p.fullSync),
    ("skip_collectors", .bool p.skipCollectors),
    ("time_after", .ofOption Instant.toJson p.timeAfter)]

/-- The tree of a blueprint. -/
def Blueprint.toJson (b : Blueprint) : Json :=
  .object [("id", b.id.toJson), ("name", .string b.name), ("mode", b.mode.toJson),
    ("project_name", .string b.projectName), ("cron_config", .string b.cronConfig),
    ("is_manual", .bool b.isManual), ("enable", .bool b.enable),
    ("connections", .ofList Connection.toJson b.connections), ("labels", .strings b.labels),
    ("sync_policy", b.syncPolicy.toJson), ("before_plan", b.beforePlan.toJson),
    ("after_plan", b.afterPlan.toJson), ("plan", b.plan.toJson),
    ("created_at", b.createdAt.toJson), ("updated_at", b.updatedAt.toJson)]

/-- The tree of a draft. -/
def Draft.toJson (d : Draft) : Json :=
  .object [("name", .string d.name), ("mode", d.mode.toJson),
    ("project_name", .string d.projectName), ("cron_config", .string d.cronConfig),
    ("is_manual", .bool d.isManual), ("enable", .bool d.enable),
    ("connections", .ofList Connection.toJson d.connections), ("labels", .strings d.labels),
    ("sync_policy", d.syncPolicy.toJson), ("before_plan", d.beforePlan.toJson),
    ("after_plan", d.afterPlan.toJson), ("plan", d.plan.toJson)]

/-- The member of a field that a patch changes, if it does. -/
def Json.memberIfPresent {α : Type} (name : String) (toJson : α → Json) :
    Option α → List (String × Json)
  | some a => [(name, toJson a)]
  | none => []

/-- The tree of the patch of a policy, without the fields it does not change. -/
def PolicyPatch.toJson (p : PolicyPatch) : Json :=
  .object (Json.memberIfPresent "skip_on_fail" .bool p.skipOnFail
    ++ Json.memberIfPresent "full_sync" .bool p.fullSync
    ++ Json.memberIfPresent "skip_collectors" .bool p.skipCollectors
    ++ Json.memberIfPresent "time_after" (.ofOption Instant.toJson) p.timeAfter)

/-- The tree of a patch. -/
def Patch.toJson (p : Patch) : Json :=
  .object [("name", .ofOption .string p.name), ("project_name", .ofOption .string p.projectName),
    ("cron_config", .ofOption .string p.cronConfig), ("is_manual", .ofOption .bool p.isManual),
    ("enable", .ofOption .bool p.enable),
    ("connections", .ofOption (.ofList Connection.toJson) p.connections),
    ("labels", .ofOption .strings p.labels),
    ("sync_policy", .ofOption PolicyPatch.toJson p.syncPolicy),
    ("before_plan", .ofOption Plan.toJson p.beforePlan),
    ("after_plan", .ofOption Plan.toJson p.afterPlan), ("plan", .ofOption Plan.toJson p.plan)]

/-- The tree of a category. -/
def Category.toJson (c : Category) : Json :=
  .string c.name

/-- The tree of a query. -/
def Query.toJson (q : Query) : Json :=
  .object [("enable", .ofOption .bool q.enable), ("is_manual", .ofOption .bool q.isManual),
    ("label", .ofOption .string q.label), ("type", q.category.toJson),
    ("page", .ofOption (.nat ·.toNat) q.page),
    ("page_size", .ofOption (.nat ·.toNat) q.pageSize)]

/-- The tree of a page of blueprints. -/
def Listing.toJson (l : Listing) : Json :=
  .object [("blueprints", .ofList Blueprint.toJson l.blueprints), ("count", .int l.count.toInt)]

/-- The tree of a status. -/
def Status.toJson (s : Status) : Json :=
  .string s.name

/-- The tree of a pipeline. -/
def Pipeline.toJson (p : Pipeline) : Json :=
  .object [("id", p.id.toJson), ("name", .string p.name), ("blueprint_id", p.blueprintId.toJson),
    ("plan", p.plan.toJson), ("labels", .strings p.labels),
    ("sync_policy", p.syncPolicy.toJson), ("status", p.status.toJson),
    ("total_tasks", .nat p.totalTasks), ("created_at", p.createdAt.toJson)]

/-- The tree of a run that is asked for. -/
def NewPipeline.toJson (p : NewPipeline) : Json :=
  .object [("name", .string p.name), ("blueprint_id", p.blueprintId.toJson),
    ("plan", p.plan.toJson), ("labels", .strings p.labels),
    ("sync_policy", p.syncPolicy.toJson)]

/-- The tree of a project. -/
def Project.toJson (p : Project) : Json :=
  .object [("name", .string p.name), ("description", .ofOption .string p.description),
    ("created_at", p.createdAt.toJson)]

/-- The tree of the setting of a metric. -/
def MetricSetting.toJson (m : MetricSetting) : Json :=
  .object [("project_name", .string m.projectName), ("plugin_name", .string m.pluginName),
    ("plugin_option", m.option.toJson), ("enable", .bool m.enable)]

end Ingestion
