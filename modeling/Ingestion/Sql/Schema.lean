import Ingestion.Sql.Statement

/-!
# The tables of the database

The definitions of the tables, and the statements that create them where they do not exist yet.
A project belongs to one blueprint at most, by a unique index that leaves the empty name out.
-/

namespace Ingestion.Sql

/-- The type of a column, as a table declares it. -/
inductive ColumnType where
  | uuid
  /-- A text of at most so many characters. -/
  | varchar (length : Nat)
  | text
  | textArray
  | boolean
  | integer
  | jsonb
  | timestamptz
deriving DecidableEq, Repr, Inhabited

namespace ColumnType

/-- The text of a type. -/
def declaration : ColumnType → String
  | uuid => "UUID"
  | varchar length => "VARCHAR(" ++ toString length ++ ")"
  | text => "TEXT"
  | textArray => "TEXT[]"
  | boolean => "BOOLEAN"
  | integer => "INTEGER"
  | jsonb => "JSONB"
  | timestamptz => "TIMESTAMPTZ"

/-- The type of the data that a column holds. -/
def dataType : ColumnType → DataType
  | uuid => .uuid
  | varchar _ | text => .text
  | textArray => .textArray
  | boolean => .bool
  | integer => .int4
  | jsonb => .jsonb
  | timestamptz => .timestamptz

end ColumnType

/-- A column of a table. -/
structure Column where
  name : String
  type : ColumnType
  /-- What the declaration says after the type. -/
  constraint : String := " NOT NULL"
deriving DecidableEq, Repr, Inhabited

/-- The declaration of a column. -/
def Column.declaration (c : Column) : String :=
  c.name ++ " " ++ c.type.declaration ++ c.constraint

/-- A table. -/
structure TableSchema where
  name : String
  columns : List Column
  /-- Constraints that join several columns. -/
  constraints : List String := []
deriving DecidableEq, Repr, Inhabited

namespace TableSchema

/-- The statement that creates the table. -/
def creation (t : TableSchema) : Statement where
  text := "CREATE TABLE IF NOT EXISTS " ++ t.name ++ " ( "
    ++ commaSeparated (t.columns.map Column.declaration ++ t.constraints) ++ " )"

/-- The names of the columns. -/
def columnNames (t : TableSchema) : List String :=
  t.columns.map (·.name)

/-- The column of a name. -/
def column? (t : TableSchema) (name : String) : Option Column :=
  t.columns.find? (·.name == name)

end TableSchema

/-- The table of projects. -/
def projectTable : TableSchema where
  name := "projects"
  columns := [
    { name := "name", type := .varchar 255, constraint := " PRIMARY KEY" },
    { name := "description", type := .text, constraint := "" },
    { name := "created_at", type := .timestamptz, constraint := " NOT NULL DEFAULT NOW()" }]

/-- The table of the settings of metrics. -/
def metricTable : TableSchema where
  name := "project_metric_settings"
  columns := [
    { name := "project_name", type := .varchar 255,
      constraint := " NOT NULL REFERENCES projects(name) ON DELETE CASCADE" },
    { name := "plugin_name", type := .varchar 255 },
    { name := "plugin_option", type := .jsonb, constraint := " NOT NULL DEFAULT '\x7b\x7d'" },
    { name := "enable", type := .boolean, constraint := " NOT NULL DEFAULT TRUE" }]
  constraints := ["PRIMARY KEY (project_name, plugin_name)"]

/-- The table of blueprints. -/
def blueprintTable : TableSchema where
  name := "blueprints"
  columns := [
    { name := "id", type := .uuid, constraint := " PRIMARY KEY" },
    { name := "name", type := .varchar 255 },
    { name := "mode", type := .varchar 20 },
    { name := "project_name", type := .varchar 255, constraint := " NOT NULL DEFAULT ''" },
    { name := "cron_config", type := .varchar 255 },
    { name := "is_manual", type := .boolean, constraint := " NOT NULL DEFAULT FALSE" },
    { name := "enable", type := .boolean, constraint := " NOT NULL DEFAULT TRUE" },
    { name := "connections", type := .jsonb, constraint := " NOT NULL DEFAULT '[]'" },
    { name := "labels", type := .textArray, constraint := " NOT NULL DEFAULT '\x7b\x7d'" },
    { name := "skip_on_fail", type := .boolean, constraint := " NOT NULL DEFAULT FALSE" },
    { name := "full_sync", type := .boolean, constraint := " NOT NULL DEFAULT FALSE" },
    { name := "skip_collectors", type := .boolean, constraint := " NOT NULL DEFAULT FALSE" },
    { name := "time_after", type := .timestamptz, constraint := "" },
    { name := "before_plan", type := .jsonb, constraint := " NOT NULL DEFAULT '[]'" },
    { name := "after_plan", type := .jsonb, constraint := " NOT NULL DEFAULT '[]'" },
    { name := "plan", type := .jsonb, constraint := " NOT NULL DEFAULT '[]'" },
    { name := "created_at", type := .timestamptz },
    { name := "updated_at", type := .timestamptz }]

/-- The table of pipelines. -/
def pipelineTable : TableSchema where
  name := "pipelines"
  columns := [
    { name := "id", type := .uuid, constraint := " PRIMARY KEY" },
    { name := "name", type := .varchar 255 },
    { name := "blueprint_id", type := .uuid },
    { name := "plan", type := .jsonb },
    { name := "labels", type := .textArray, constraint := " NOT NULL DEFAULT '\x7b\x7d'" },
    { name := "sync_policy", type := .jsonb, constraint := " NOT NULL DEFAULT '\x7b\x7d'" },
    { name := "status", type := .varchar 50 },
    { name := "total_tasks", type := .integer },
    { name := "created_at", type := .timestamptz }]

/-- The statements that create all tables and indexes, in order. -/
def migrations : List Statement := [
  projectTable.creation,
  metricTable.creation,
  blueprintTable.creation,
  { text := "CREATE UNIQUE INDEX IF NOT EXISTS idx_blueprints_project_name "
      ++ "ON blueprints(project_name) WHERE project_name <> ''" },
  { text := "CREATE INDEX IF NOT EXISTS idx_blueprints_created_at "
      ++ "ON blueprints(created_at DESC)" },
  pipelineTable.creation,
  { text := "CREATE INDEX IF NOT EXISTS idx_pipelines_status ON pipelines(status)" },
  { text := "CREATE INDEX IF NOT EXISTS idx_pipelines_blueprint_id "
      ++ "ON pipelines(blueprint_id, created_at DESC)" }]

end Ingestion.Sql
