import Ingestion.Decoding
import Ingestion.Encoding
import Ingestion.Error
import Ingestion.Sql.Schema

/-!
# Records and rows

How the records of the program are written to rows and read back from them. A row is read column
by column in the order of the table, and the first column that does not hold what the program
keeps there gives the error.
-/

namespace Ingestion.Sql

/-! ## Reading columns -/

namespace Row

/-- The reason for refusing `NULL`. -/
def unexpectedNull : String :=
  "unexpected null; try decoding as an `Option`"

/-- The reason for refusing a datum of another kind. -/
def unexpectedDatum : String :=
  "mismatched types"

/-- Reads a column that may be `NULL`. -/
def optional {α : Type} (row : Row) (name : String) (of? : Datum → Option α) :
    Except DatabaseError (Option α) :=
  match row.lookup name with
  | none => .ok none
  | some d =>
    match of? d with
    | some a => .ok (some a)
    | none => .error (.column name unexpectedDatum)

/-- Reads a column that may not be `NULL`. -/
def required {α : Type} (row : Row) (name : String) (of? : Datum → Option α) :
    Except DatabaseError α := do
  match ← optional row name of? with
  | some a => .ok a
  | none => .error (.column name unexpectedNull)

/-- Reads a text. -/
def text (row : Row) (name : String) : Except DatabaseError String :=
  required row name fun
    | .text s => some s
    | _ => none

/-- Reads a boolean. -/
def bool (row : Row) (name : String) : Except DatabaseError Bool :=
  required row name fun
    | .bool b => some b
    | _ => none

/-- Reads an identifier. -/
def uuid (row : Row) (name : String) : Except DatabaseError Uuid :=
  required row name fun
    | .uuid u => some u
    | _ => none

/-- The instant of a datum. -/
def instantOf? : Datum → Option Instant
  | .timestamptz t => some t
  | _ => none

/-- Reads an instant. -/
def instant (row : Row) (name : String) : Except DatabaseError Instant :=
  required row name instantOf?

/-- Reads a list of texts. None of them may be `NULL`. -/
def texts (row : Row) (name : String) : Except DatabaseError (List String) := do
  let items ← required row name fun
    | .textArray items => some items
    | _ => none
  match items.mapM id with
  | some xs => .ok xs
  | none => .error (.column name unexpectedNull)

/-- Reads a document. -/
def json {α : Type} (row : Row) (name : String) (d : Json.Decoder α) : Except DatabaseError α := do
  let j ← required row name fun
    | .jsonb j => some j
    | _ => none
  match d.ofJson j with
  | .ok a => .ok a
  | .error _ => .error (.column name unexpectedDatum)

end Row

/-! ## Blueprints -/

/-- The columns of a blueprint and what is written there. -/
def blueprintColumns (b : Blueprint) : List (String × Param) := [
  ("id", .value (.uuid b.id)),
  ("name", .value (.text b.name)),
  ("mode", .value (.text b.mode.name)),
  ("project_name", .value (.text b.projectName)),
  ("cron_config", .value (.text b.cronConfig)),
  ("is_manual", .value (.bool b.isManual)),
  ("enable", .value (.bool b.enable)),
  ("connections", .value (.jsonb (.ofList Connection.toJson b.connections))),
  ("labels", .value (.textArray (b.labels.map some))),
  ("skip_on_fail", .value (.bool b.syncPolicy.skipOnFail)),
  ("full_sync", .value (.bool b.syncPolicy.fullSync)),
  ("skip_collectors", .value (.bool b.syncPolicy.skipCollectors)),
  ("time_after", .ofOption .timestamptz .ofInstant b.syncPolicy.timeAfter),
  ("before_plan", .value (.jsonb b.beforePlan.toJson)),
  ("after_plan", .value (.jsonb b.afterPlan.toJson)),
  ("plan", .value (.jsonb b.plan.toJson)),
  ("created_at", .value (.ofInstant b.createdAt)),
  ("updated_at", .value (.ofInstant b.updatedAt))]

/-- The columns that a blueprint with the same identifier takes over: all but the identifier, the
mode and the instant of creation. -/
def overwrittenColumns : List String :=
  ["name", "project_name", "cron_config", "is_manual", "enable", "connections", "labels",
    "skip_on_fail", "full_sync", "skip_collectors", "time_after", "before_plan", "after_plan",
    "plan", "updated_at"]

/-- The row that the database keeps of what is written to its columns. -/
def Row.ofColumns (columns : List (String × Param)) : Row :=
  columns.filterMap fun c => c.2.datum?.map (c.1, ·)

/-- A blueprint whose mode has not been interpreted. -/
structure BlueprintRow where
  mode : String
  /-- The blueprint, given its mode. -/
  withMode : Mode → Blueprint

/-- Reads a blueprint, up to its mode. -/
def BlueprintRow.read (row : Row) : Except DatabaseError BlueprintRow := do
  let id ← row.uuid "id"
  let name ← row.text "name"
  let mode ← row.text "mode"
  let projectName ← row.text "project_name"
  let cronConfig ← row.text "cron_config"
  let isManual ← row.bool "is_manual"
  let enable ← row.bool "enable"
  let connections ← row.json "connections" (.list Connection.decoder)
  let labels ← row.texts "labels"
  let skipOnFail ← row.bool "skip_on_fail"
  let fullSync ← row.bool "full_sync"
  let skipCollectors ← row.bool "skip_collectors"
  let timeAfter ← row.optional "time_after" Row.instantOf?
  let beforePlan ← row.json "before_plan" Plan.decoder
  let afterPlan ← row.json "after_plan" Plan.decoder
  let plan ← row.json "plan" Plan.decoder
  let createdAt ← row.instant "created_at"
  let updatedAt ← row.instant "updated_at"
  let syncPolicy := { skipOnFail, fullSync, skipCollectors, timeAfter }
  return {
    mode
    withMode := fun mode =>
      { id, name, mode, projectName, cronConfig, isManual, enable, connections, labels,
        syncPolicy, beforePlan, afterPlan, plan, createdAt, updatedAt } }

/-- The blueprint of a row. Its mode may be written in any case. -/
def BlueprintRow.toBlueprint (r : BlueprintRow) : Except StoreError Blueprint :=
  match Mode.parse r.mode with
  | .ok mode => .ok (r.withMode mode)
  | .error complaint =>
    .error (.corrupt ("blueprint " ++ (r.withMode .normal).id.toText ++ ": " ++ complaint))

/-! ## Projects and pipelines -/

/-- Reads a project. -/
def readProject (row : Row) : Except DatabaseError Project := do
  let name ← row.text "name"
  let description ← row.optional "description" fun
    | .text s => some s
    | _ => none
  let createdAt ← row.instant "created_at"
  return { name, description, createdAt }

/-- Reads the setting of a metric. -/
def readMetric (row : Row) : Except DatabaseError MetricSetting := do
  let projectName ← row.text "project_name"
  let pluginName ← row.text "plugin_name"
  let option ← row.json "plugin_option" .value
  let enable ← row.bool "enable"
  return { projectName, pluginName, option, enable }

/-- The largest number of tasks that its column holds. -/
def maxTotalTasks : Nat := 2147483647

/-- The columns of a pipeline and what is written there. -/
def pipelineColumns (p : Pipeline) : List (String × Param) := [
  ("id", .value (.uuid p.id)),
  ("name", .value (.text p.name)),
  ("blueprint_id", .value (.uuid p.blueprintId)),
  ("plan", .value (.jsonb p.plan.toJson)),
  ("labels", .value (.textArray (p.labels.map some))),
  ("sync_policy", .value (.jsonb p.syncPolicy.toJson)),
  ("status", .value (.text p.status.name)),
  ("total_tasks", .value (.int4 p.totalTasks)),
  ("created_at", .value (.ofInstant p.createdAt))]

end Ingestion.Sql
