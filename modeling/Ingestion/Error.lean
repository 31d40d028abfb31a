import Ingestion.Uuid

/-!
# Errors

What can go wrong, layer by layer: in the store, in expanding a blueprint into a plan, in
scheduling it, and in a request as a whole. Each cause has a message; a cause that wraps another
one carries its message along.
-/

namespace Ingestion

/-! ## Store -/

/-- What can go wrong between the program and its database. -/
inductive DatabaseError where
  /-- The server refuses a statement. -/
  | server (message : String)
  /-- A statement that has to give a row gives none. -/
  | noRow
  /-- A column does not hold what the program keeps there. -/
  | column (name : String) (reason : String)
deriving DecidableEq, Repr, Inhabited

/-- The text of an error of the database. -/
def DatabaseError.message : DatabaseError → String
  | server message => "error returned from database: " ++ message
  | noRow => "no rows returned by a query that expected to return at least one row"
  | column name reason =>
    "error occurred while decoding column \"" ++ name ++ "\": " ++ reason

/-- What can go wrong in the store or the queue of pipelines. -/
inductive StoreError where
  | database (source : DatabaseError)
  | serialization (detail : String)
  /-- A record would break a rule that holds between records. -/
  | constraint (detail : String)
  /-- A record does not make sense. -/
  | corrupt (detail : String)
  | unavailable (detail : String)
deriving DecidableEq, Repr, Inhabited

/-- The text of an error of the store. -/
def StoreError.message : StoreError → String
  | database source => "database error: " ++ source.message
  | serialization detail => "serialization error: " ++ detail
  | constraint detail => "constraint violated: " ++ detail
  | corrupt detail => "corrupt record: " ++ detail
  | unavailable detail => "store unavailable: " ++ detail

/-! ## Plans -/

/-- What can go wrong in making a plan. -/
inductive PlanError where
  | unknownPlugin (plugin : String)
  /-- The plugin exists but is of another kind. -/
  | unsupported (plugin capability : String)
  /-- A connection lists no scope, and its plugin needs one. -/
  | noScope (plugin : String) (connectionId : UInt64)
  | invalidOptions (plugin detail : String)
  | store (source : StoreError)
deriving DecidableEq, Repr, Inhabited

/-- The text of an error in making a plan. -/
def PlanError.message : PlanError → String
  | unknownPlugin plugin => "plugin not found: " ++ plugin
  | unsupported plugin capability => "plugin " ++ plugin ++ " does not support " ++ capability
  | noScope plugin connectionId =>
    "connection " ++ toString connectionId.toNat ++ " of plugin " ++ plugin ++ " has no scope"
  | invalidOptions plugin detail => "invalid options for plugin " ++ plugin ++ ": " ++ detail
  | store source => source.message

/-! ## Schedules -/

/-- What can go wrong in scheduling by a cron expression. -/
inductive CronError where
  | invalidExpression (expression detail : String)
  /-- The expression is valid, but never due again. -/
  | noUpcomingFire (expression : String)
deriving DecidableEq, Repr, Inhabited

/-- The text of an error in scheduling. -/
def CronError.message : CronError → String
  | invalidExpression expression detail =>
    "invalid cron expression '" ++ expression ++ "': " ++ detail
  | noUpcomingFire expression => "no upcoming fire time for '" ++ expression ++ "'"

/-! ## Requests -/

/-- What can go wrong in a request. -/
inductive RequestError where
  | badInput (detail : String)
  | invalidCron (source : CronError)
  /-- The project already belongs to another blueprint. -/
  | projectConflict (project : String) (ownerId : Uuid) (ownerName : String)
  | notFound (detail : String)
  /-- There is nothing to run. -/
  | emptyPlan
  | plan (blueprintId : Uuid) (blueprintName : String) (source : PlanError)
  | submit (blueprintId : Uuid) (blueprintName : String) (source : StoreError)
  /-- The write succeeded, but the schedule could not be rebuilt after it. -/
  | reload (source : RequestError)
  | schedule (blueprintId : Uuid) (source : CronError)
  | internal (detail : String)
  | store (source : StoreError)
deriving DecidableEq, Inhabited

namespace RequestError

/-- The text of an error of a request. -/
def message : RequestError → String
  | badInput detail => detail
  | invalidCron source => "invalid cronConfig: " ++ source.message
  | projectConflict project ownerId ownerName =>
    "Each project can only be used by one blueprint. The currently selected projectName: ["
      ++ project ++ "] has been used by blueprint: [id:" ++ ownerId.toText ++ "] [name:"
      ++ ownerName ++ "] and cannot be reused."
  | notFound detail => detail
  | emptyPlan => "empty plan"
  | plan id name source =>
    "failed to make plan for blueprint [" ++ id.toText ++ "][" ++ name ++ "]: " ++ source.message
  | submit id name source =>
    "failed to create pipeline for blueprint [" ++ id.toText ++ "][" ++ name ++ "]: "
      ++ source.message
  | reload source => "error reloading blueprints: " ++ source.message
  | schedule id source =>
    "created cron job failed for blueprint [" ++ id.toText ++ "]: " ++ source.message
  | internal detail => detail
  | store source => source.message

end RequestError

/-- What an error means for the one who made the request. -/
inductive ErrorKind where
  | badInput | notFound | internal
  /-- There is nothing to run, which is no failure. -/
  | emptyPlan
deriving DecidableEq, Repr, Inhabited

/-- The kind of an error. -/
def RequestError.kind : RequestError → ErrorKind
  | badInput _ | invalidCron _ | projectConflict .. => .badInput
  | notFound _ => .notFound
  | emptyPlan => .emptyPlan
  | plan .. | submit .. | reload _ | schedule .. | internal _ | store _ => .internal

/-- Whether the error only says that there is nothing to run. -/
def RequestError.isEmptyPlan : RequestError → Bool
  | emptyPlan => true
  | _ => false

end Ingestion
