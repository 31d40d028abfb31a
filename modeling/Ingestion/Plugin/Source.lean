import Ingestion.Blueprint.Basic

/-!
# Sources of data

A plugin that collects data is described by its subtasks and by the tables that its data goes to.
From the description follows the plan of a connection: one stage, with a task for each scope.
-/

namespace Ingestion

/-- The place of a subtask in the chain from collecting to enriching. -/
inductive SubtaskKind where
  | collector | extractor | converter | enricher
deriving DecidableEq, Repr, Inhabited

/-- The kind of subtask of a name, as it is written. -/
def SubtaskKind.ofName? : String → Option SubtaskKind
  | "collector" => some collector
  | "extractor" => some extractor
  | "converter" => some converter
  | "enricher" => some enricher
  | _ => none

/-- The description of a subtask. -/
structure Subtask where
  name : String
  kind : SubtaskKind
  /-- The types of data that the subtask works on. -/
  domains : List String
  /-- Whether the subtask runs unless it is asked not to. -/
  enabledByDefault : Bool := true
deriving DecidableEq, Repr, Inhabited

namespace Subtask

/-- Whether the subtask works on a type of data that is asked for. None listed means all. -/
def serves (s : Subtask) (entities : List String) : Bool :=
  entities.isEmpty || s.domains.any entities.contains

/-- Whether the subtask is part of a run. -/
def isSelected (entities : List String) (skipCollectors : Bool) (s : Subtask) : Bool :=
  s.enabledByDefault && !(skipCollectors && s.kind == .collector) && s.serves entities

/-- The names of the subtasks that are part of a run, in the order of their declaration. -/
def select (subtasks : List Subtask) (entities : List String) (skipCollectors : Bool) :
    List String :=
  (subtasks.filter (isSelected entities skipCollectors)).map name

end Subtask

/-- A row of the tables that the data of a scope goes to. -/
structure DomainScope where
  table : String
  rowId : String
deriving DecidableEq, Repr, Inhabited

/-- The description of a plugin that collects data. -/
structure Collector where
  name : String
  subtasks : List Subtask
  /-- For each type of data, the table that it goes to. -/
  tables : List (String × String) := []
  /-- Whether a connection may list no scope. -/
  scopeOptional : Bool := false
deriving DecidableEq, Repr, Inhabited

namespace Collector

/-- The rows that a scope writes, one for each table of a type of data that is asked for. -/
def domainScopes (c : Collector) (connectionId : UInt64) (scope : Scope) : List DomainScope :=
  (c.tables.filter fun t => scope.entities.isEmpty || scope.entities.contains t.1).map fun t =>
    { table := t.2
      rowId := c.name ++ ":" ++ toString connectionId.toNat ++ ":" ++ scope.scopeId }

/-- The task of a connection without scopes. -/
def connectionTask (c : Collector) (connectionId : UInt64) (skipCollectors : Bool) : Task :=
  ({ plugin := c.name } : Task)
    |>.withSubtasks (Subtask.select c.subtasks [] skipCollectors)
    |>.withOption "connectionId" (.nat connectionId.toNat)

/-- The task of a scope of a connection. -/
def scopeTask (c : Collector) (connectionId : UInt64) (skipCollectors : Bool) (scope : Scope) :
    Task :=
  ({ plugin := c.name } : Task)
    |>.withSubtasks (Subtask.select c.subtasks scope.entities skipCollectors)
    |>.withOption "connectionId" (.nat connectionId.toNat)
    |>.withOption "scopeId" (.string scope.scopeId)

/-- The plan of a connection: one stage, with a task for each scope, or with a single task if
there is none. -/
def plan (c : Collector) (connectionId : UInt64) (scopes : List Scope) (skipCollectors : Bool) :
    Plan :=
  if scopes.isEmpty then .single (c.connectionTask connectionId skipCollectors)
  else ⟨[scopes.map (c.scopeTask connectionId skipCollectors)]⟩

end Collector

/-- A plugin that collects data. -/
inductive Source where
  /-- Its plan follows from its description. -/
  | described (collector : Collector)
  /-- Its plan is always a single task without subtasks and options. It needs scopes, but maps
  none of them. -/
  | plain (name : String)
deriving DecidableEq, Repr, Inhabited

namespace Source

/-- The name of a plugin. -/
def name : Source → String
  | described c => c.name
  | plain name => name

/-- Whether a connection may list no scope. -/
def scopeOptional : Source → Bool
  | described c => c.scopeOptional
  | plain _ => false

/-- The plan of a connection. -/
def plan (s : Source) (connectionId : UInt64) (scopes : List Scope) (skipCollectors : Bool) :
    Plan :=
  match s with
  | described c => c.plan connectionId scopes skipCollectors
  | plain name => .single { plugin := name }

/-- The rows that the scopes of a connection write, in the order of the scopes. -/
def domainScopes (s : Source) (connectionId : UInt64) (scopes : List Scope) : List DomainScope :=
  match s with
  | described c => scopes.flatMap (c.domainScopes connectionId)
  | plain _ => []

end Source

end Ingestion
