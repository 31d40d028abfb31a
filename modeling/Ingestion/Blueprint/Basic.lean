import Ingestion.Plan.Basic
import Ingestion.Time.Instant
import Ingestion.Uuid
import Ingestion.Text

/-!
# Blueprints

A blueprint describes a recurring job of ingestion: which connections and scopes to collect, when
to run, and what to run before and after. Its plan is written by its author in mode `ADVANCED`
and derived from the connections in mode `NORMAL`.
-/

namespace Ingestion

/-- How a blueprint comes to its plan. -/
inductive Mode where
  /-- The plan is derived from the connections and the metrics of the project. -/
  | normal
  /-- The plan is written by the author. -/
  | advanced
deriving DecidableEq, Repr, Inhabited

namespace Mode

/-- The name of a mode. -/
def name : Mode → String
  | normal => "NORMAL"
  | advanced => "ADVANCED"

/-- The mode of a name, as it is written. -/
def ofName? : String → Option Mode
  | "NORMAL" => some normal
  | "ADVANCED" => some advanced
  | _ => none

/-- The mode of a name in any case, or the complaint about it. -/
def parse (s : String) : Except String Mode :=
  match ofName? (Text.upper s) with
  | some m => .ok m
  | none => .error ("unknown blueprint mode: " ++ Text.upper s)

end Mode

/-- A repository, board or project that is collected through a connection. -/
structure Scope where
  scopeId : String
  /-- The types of data to collect. None listed means all. -/
  entities : List String := []
deriving DecidableEq, Repr, Inhabited

/-- A connection to a source of data, with the scopes collected through it. -/
structure Connection where
  pluginName : String
  connectionId : UInt64
  scopes : List Scope := []
deriving DecidableEq, Inhabited

/-- How a run collects. -/
structure SyncPolicy where
  skipOnFail : Bool := false
  /-- Collects everything anew. -/
  fullSync : Bool := false
  /-- Works on what has already been collected. -/
  skipCollectors : Bool := false
  /-- Collects nothing older than this. -/
  timeAfter : Option Instant := none
deriving DecidableEq, Inhabited

/-- The description of a recurring job of ingestion. -/
structure Blueprint where
  id : Uuid
  name : String
  mode : Mode
  /-- The project that the blueprint belongs to. The empty name means none. -/
  projectName : String
  cronConfig : String
  isManual : Bool
  enable : Bool
  connections : List Connection
  labels : List String
  syncPolicy : SyncPolicy
  beforePlan : Plan
  afterPlan : Plan
  plan : Plan
  createdAt : Instant
  updatedAt : Instant
deriving Inhabited

/-- The text in place of a cron expression that asks for runs by hand only. -/
def manualCron : String := "manual"

namespace Blueprint

/-- Whether the blueprint belongs to a project. -/
def hasProject (b : Blueprint) : Bool :=
  b.projectName != ""

/-- Whether the cron expression asks for runs by hand only, in any case. -/
def isManualCron (b : Blueprint) : Bool :=
  Text.sameUpToCase b.cronConfig.toList manualCron.toList

/-- Whether the blueprint is to run by its cron expression. -/
def isSchedulable (b : Blueprint) : Bool :=
  b.enable && !b.isManual

end Blueprint

/-! ## New blueprints -/

/-- What the author of a new blueprint gives. -/
structure Draft where
  name : String
  mode : Mode
  projectName : String := ""
  cronConfig : String := manualCron
  isManual : Bool := false
  enable : Bool := true
  connections : List Connection := []
  labels : List String := []
  syncPolicy : SyncPolicy := {}
  beforePlan : Plan := .nil
  afterPlan : Plan := .nil
  /-- Counts in mode `ADVANCED` only. -/
  plan : Plan := .nil
deriving Inhabited

/-- The blueprint of a draft. -/
def Draft.toBlueprint (d : Draft) (id : Uuid) (now : Instant) : Blueprint where
  id
  name := d.name
  mode := d.mode
  projectName := d.projectName
  cronConfig := d.cronConfig
  isManual := d.isManual
  enable := d.enable
  connections := d.connections
  labels := d.labels
  syncPolicy := d.syncPolicy
  beforePlan := d.beforePlan
  afterPlan := d.afterPlan
  plan := match d.mode with
    | .advanced => d.plan
    | .normal => .nil
  createdAt := now
  updatedAt := now

end Ingestion
