import Ingestion.Blueprint.Basic

/-!
# Pipelines

A pipeline is one run of a blueprint: the plan to carry out and how far it has come.
-/

namespace Ingestion

/-- How far a pipeline has come. -/
inductive Status where
  | created | running | completed | failed | cancelled
deriving DecidableEq, Repr, Inhabited

namespace Status

/-- The name of a status. -/
def name : Status → String
  | created => "Created"
  | running => "Running"
  | completed => "Completed"
  | failed => "Failed"
  | cancelled => "Cancelled"

/-- The status of a name, as it is written. -/
def ofName? : String → Option Status
  | "Created" => some created
  | "Running" => some running
  | "Completed" => some completed
  | "Failed" => some failed
  | "Cancelled" => some cancelled
  | _ => none

/-- The status of a name, or the complaint about it. -/
def parse (s : String) : Except String Status :=
  match ofName? s with
  | some status => .ok status
  | none => .error ("unknown pipeline status: " ++ s)

end Status

/-- One run of a blueprint. -/
structure Pipeline where
  id : Uuid
  name : String
  blueprintId : Uuid
  plan : Plan
  labels : List String
  syncPolicy : SyncPolicy
  status : Status
  totalTasks : Nat
  createdAt : Instant
deriving Inhabited

/-- A run that is asked for. -/
structure NewPipeline where
  name : String
  blueprintId : Uuid
  plan : Plan
  labels : List String
  syncPolicy : SyncPolicy
deriving Inhabited

/-- The pipeline of a run that is asked for. -/
def NewPipeline.toPipeline (p : NewPipeline) (id : Uuid) (now : Instant) : Pipeline where
  id
  name := p.name
  blueprintId := p.blueprintId
  plan := p.plan
  labels := p.labels
  syncPolicy := p.syncPolicy
  status := .created
  totalTasks := p.plan.taskCount
  createdAt := now

end Ingestion
