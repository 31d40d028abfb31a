import Ingestion.Blueprint.Patch
import Ingestion.Blueprint.Query
import Ingestion.Json.Decoder
import Ingestion.Pipeline
import Ingestion.Project
import Ingestion.Time.Format

/-!
# Reading JSON forms

The decoders of the data of the domain. `required` fields have to be there, `defaulted` ones have
a default for their absence, and `nullable` ones have no value if they are absent or `null`.
-/

namespace Ingestion

open Json (Decoder Record)
open Json.Record

/-- Reads an identifier. -/
def Uuid.decoder : Decoder Uuid :=
  .parsed Uuid.ofText?

/-- Reads an instant. -/
def Instant.decoder : Decoder Instant :=
  .parsed Instant.ofText?

/-- The fields of a task. -/
def Task.record : Record Task :=
  Task.mk <$> required "plugin" .string <*> defaulted "subtasks" (.list .string) []
    <*> defaulted "options" .members Table.empty

/-- Reads a task. -/
def Task.decoder : Decoder Task :=
  Task.record.decoder

/-- Reads a plan. -/
def Plan.decoder : Decoder Plan := fun d =>
  Plan.mk <$> Decoder.list (.list Task.decoder) d

/-- Reads a mode. -/
def Mode.decoder : Decoder Mode :=
  .variant Mode.ofName?

/-- The fields of a scope. -/
def Scope.record : Record Scope :=
  Scope.mk <$> required "scope_id" .string <*> defaulted "entities" (.list .string) []

/-- Reads a scope. -/
def Scope.decoder : Decoder Scope :=
  Scope.record.decoder

/-- The fields of a connection. -/
def Connection.record : Record Connection :=
  Connection.mk <$> required "plugin_name" .string <*> required "connection_id" .uint64
    <*> defaulted "scopes" (.list Scope.decoder) []

/-- Reads a connection. -/
def Connection.decoder : Decoder Connection :=
  Connection.record.decoder

/-- The fields of a policy. -/
def SyncPolicy.record : Record SyncPolicy :=
  SyncPolicy.mk <$> defaulted "skip_on_fail" .bool false <*> defaulted "full_sync" .bool false
    <*> defaulted "skip_collectors" .bool false
    <*> defaulted "time_after" (.optional Instant.decoder) none

/-- Reads a policy. -/
def SyncPolicy.decoder : Decoder SyncPolicy :=
  SyncPolicy.record.decoder

/-- The fields of a blueprint. -/
def Blueprint.record : Record Blueprint :=
  Blueprint.mk <$> required "id" Uuid.decoder <*> required "name" .string
    <*> required "mode" Mode.decoder <*> defaulted "project_name" .string ""
    <*> required "cron_config" .string <*> required "is_manual" .bool
    <*> required "enable" .bool <*> defaulted "connections" (.list Connection.decoder) []
    <*> defaulted "labels" (.list .string) [] <*> defaulted "sync_policy" SyncPolicy.decoder {}
    <*> defaulted "before_plan" Plan.decoder .nil <*> defaulted "after_plan" Plan.decoder .nil
    <*> defaulted "plan" Plan.decoder .nil <*> required "created_at" Instant.decoder
    <*> required "updated_at" Instant.decoder

/-- Reads a blueprint. -/
def Blueprint.decoder : Decoder Blueprint :=
  Blueprint.record.decoder

/-- The fields of a draft. -/
def Draft.record : Record Draft :=
  Draft.mk <$> required "name" .string <*> required "mode" Mode.decoder
    <*> defaulted "project_name" .string "" <*> defaulted "cron_config" .string manualCron
    <*> defaulted "is_manual" .bool false <*> defaulted "enable" .bool true
    <*> defaulted "connections" (.list Connection.decoder) []
    <*> defaulted "labels" (.list .string) [] <*> defaulted "sync_policy" SyncPolicy.decoder {}
    <*> defaulted "before_plan" Plan.decoder .nil <*> defaulted "after_plan" Plan.decoder .nil
    <*> defaulted "plan" Plan.decoder .nil

/-- Reads a draft. -/
def Draft.decoder : Decoder Draft :=
  Draft.record.decoder

/-- The fields of the patch of a policy. A field that is `null` is not changed, except
`time_after`, which is then cleared. -/
def PolicyPatch.record : Record PolicyPatch :=
  PolicyPatch.mk <$> nullable "skip_on_fail" .bool <*> nullable "full_sync" .bool
    <*> nullable "skip_collectors" .bool
    <*> defaulted "time_after" (fun d => some <$> Decoder.optional Instant.decoder d) none

/-- Reads the patch of a policy. -/
def PolicyPatch.decoder : Decoder PolicyPatch :=
  PolicyPatch.record.decoder

/-- The fields of a patch. -/
def Patch.record : Record Patch :=
  Patch.mk <$> nullable "name" .string <*> nullable "project_name" .string
    <*> nullable "cron_config" .string <*> nullable "is_manual" .bool <*> nullable "enable" .bool
    <*> nullable "connections" (.list Connection.decoder) <*> nullable "labels" (.list .string)
    <*> nullable "sync_policy" PolicyPatch.decoder <*> nullable "before_plan" Plan.decoder
    <*> nullable "after_plan" Plan.decoder <*> nullable "plan" Plan.decoder

/-- Reads a patch. -/
def Patch.decoder : Decoder Patch :=
  Patch.record.decoder

/-- Reads a category. -/
def Category.decoder : Decoder Category :=
  .variant Category.ofName?

/-- The fields of a query. -/
def Query.record : Record Query :=
  Query.mk <$> nullable "enable" .bool <*> nullable "is_manual" .bool <*> nullable "label" .string
    <*> defaulted "type" Category.decoder .all <*> nullable "page" .uint32
    <*> nullable "page_size" .uint32

/-- Reads a query. -/
def Query.decoder : Decoder Query :=
  Query.record.decoder

/-- The fields of a page of blueprints. -/
def Listing.record : Record Listing :=
  Listing.mk <$> required "blueprints" (.list Blueprint.decoder) <*> required "count" .int64

/-- Reads a page of blueprints. -/
def Listing.decoder : Decoder Listing :=
  Listing.record.decoder

/-- Reads a status. -/
def Status.decoder : Decoder Status :=
  .variant Status.ofName?

/-- The fields of a pipeline. -/
def Pipeline.record : Record Pipeline :=
  Pipeline.mk <$> required "id" Uuid.decoder <*> required "name" .string
    <*> required "blueprint_id" Uuid.decoder <*> required "plan" Plan.decoder
    <*> required "labels" (.list .string) <*> required "sync_policy" SyncPolicy.decoder
    <*> required "status" Status.decoder <*> required "total_tasks" .nat
    <*> required "created_at" Instant.decoder

/-- Reads a pipeline. -/
def Pipeline.decoder : Decoder Pipeline :=
  Pipeline.record.decoder

/-- The fields of a run that is asked for. -/
def NewPipeline.record : Record NewPipeline :=
  NewPipeline.mk <$> required "name" .string <*> required "blueprint_id" Uuid.decoder
    <*> required "plan" Plan.decoder <*> required "labels" (.list .string)
    <*> required "sync_policy" SyncPolicy.decoder

/-- Reads a run that is asked for. -/
def NewPipeline.decoder : Decoder NewPipeline :=
  NewPipeline.record.decoder

/-- The fields of a project. -/
def Project.record : Record Project :=
  Project.mk <$> required "name" .string <*> nullable "description" .string
    <*> required "created_at" Instant.decoder

/-- Reads a project. -/
def Project.decoder : Decoder Project :=
  Project.record.decoder

/-- The fields of the setting of a metric. -/
def MetricSetting.record : Record MetricSetting :=
  MetricSetting.mk <$> required "project_name" .string <*> required "plugin_name" .string
    <*> required "plugin_option" .value <*> required "enable" .bool

/-- Reads the setting of a metric. -/
def MetricSetting.decoder : Decoder MetricSetting :=
  MetricSetting.record.decoder

end Ingestion
