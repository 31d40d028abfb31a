import Ingestion.Blueprint.Query
import Ingestion.Sql.Record

/-!
# The store in the database

Each function of the store sends statements and reads the replies. The database is a peer that is
known by its replies only: `Peer` holds those to come and the statements sent so far.
-/

namespace Ingestion.Sql

/-- The reply to a statement. -/
inductive Reply where
  | rows (rows : List Row)
  /-- The number of rows that the statement changed. -/
  | affected (n : Nat)
  | failed (code message : String)
deriving Inhabited

/-- A database, known by its replies. -/
structure Peer where
  /-- The replies to the next statements. After them, no row is given or changed. -/
  replies : List Reply := []
  /-- The statements sent, in order. -/
  sent : List Statement := []
deriving Inhabited

/-- Something that talks to the database. -/
abbrev Talk (α : Type) : Type :=
  StateM Peer α

namespace Talk

/-- Sends a statement and takes its reply. -/
def send (s : Statement) : Talk Reply := fun peer =>
  match peer.replies with
  | reply :: rest => (reply, { replies := rest, sent := peer.sent ++ [s] })
  | [] => (.affected 0, { peer with sent := peer.sent ++ [s] })

/-- Sends a statement that reads rows. -/
def fetch (s : Statement) : Talk (Except DatabaseError (List Row)) := do
  match ← send s with
  | .rows rows => return .ok rows
  | .affected _ => return .ok []
  | .failed _ message => return .error (.server message)

/-- A failure of a statement. -/
structure Failure where
  code : String
  message : String

/-- Sends a statement that changes rows. The result is their number. -/
def execute (s : Statement) : Talk (Except Failure Nat) := do
  match ← send s with
  | .rows rows => return .ok rows.length
  | .affected n => return .ok n
  | .failed code message => return .error { code, message }

end Talk

/-- The error of a statement that fails. -/
def Talk.Failure.toStoreError (f : Talk.Failure) : StoreError :=
  .database (.server f.message)

/-- An error of the database as one of the store. -/
def liftError {α : Type} : Except DatabaseError α → Except StoreError α
  | .ok a => .ok a
  | .error e => .error (.database e)

/-! ## Blueprints -/

/-- A condition that a column is equal to a parameter. -/
def columnIs (name : String) (d : Datum) : Condition :=
  .equal (.column name) (.param d)

/-- The conditions of a category of schedules. -/
def categoryConditions (c : Category) : List Condition :=
  let byCron := .equal (.column "is_manual") (boolean false)
  match c with
  | .all => []
  | .manual => [.equal (.column "is_manual") (boolean true)]
  | .daily | .weekly | .monthly => [byCron, columnIs "cron_config" (.text (c.cron?.getD ""))]
  | .custom =>
    [byCron, .notIn (.column "cron_config")
      [.param (.text Category.dailyCron), .param (.text Category.weeklyCron),
        .param (.text Category.monthlyCron)]]

/-- The conditions of a query, in the order in which they are sent. -/
def queryConditions (q : Query) : List Condition :=
  [.equal one one]
    ++ (q.enable.map fun b => columnIs "enable" (.bool b)).toList
    ++ (q.label.map fun l => Condition.equalAny (.param (.text l)) "labels").toList
    ++ match q.isManual with
      | some b => [columnIs "is_manual" (.bool b)]
      | none => categoryConditions q.category

/-- The statement that counts the blueprints of a query. -/
def countBlueprints (q : Query) : Select where
  columns := ["COUNT(*)"]
  source := blueprintTable.name
  conditions := queryConditions q

/-- The statement that lists a page of the blueprints of a query. -/
def listBlueprints (q : Query) : Select where
  columns := blueprintTable.columnNames
  source := blueprintTable.name
  conditions := queryConditions q
  order := [{ column := "created_at", descending := true }]
  page := q.limit?.map fun limit => (limit, q.offset)

/-- The statement that reads blueprints by a column. -/
def blueprintsWhere (name : String) (d : Datum) : Select where
  columns := blueprintTable.columnNames
  source := blueprintTable.name
  conditions := [columnIs name d]

/-- The number in the only column of the first row. -/
def countOf (rows : List Row) : Except DatabaseError Int64 :=
  match rows with
  | [] => .error .noRow
  | row :: _ =>
    match row.lookup "count" with
    | some (.int8 n) => .ok (.ofInt n)
    | some _ => .error (.column "count" Row.unexpectedDatum)
    | none => .error (.column "count" Row.unexpectedNull)

/-- The blueprint of the first row, if there is a row. -/
def firstBlueprint (rows : List Row) : Except StoreError (Option Blueprint) :=
  match rows with
  | [] => .ok none
  | row :: _ => do
    let r ← liftError (BlueprintRow.read row)
    some <$> r.toBlueprint

/-- Reads all rows before it interprets any of them. -/
def blueprintsOf (rows : List Row) : Except StoreError (List Blueprint) := do
  let rs ← liftError (rows.mapM BlueprintRow.read)
  rs.mapM BlueprintRow.toBlueprint

/-- The blueprints of a query, and the number of those on all its pages. -/
def findBlueprints (q : Query) : Talk (Except StoreError (List Blueprint × Int64)) := do
  match (← Talk.fetch (countBlueprints q).toStatement) >>= countOf with
  | .error e => return .error (.database e)
  | .ok count =>
    match ← Talk.fetch (listBlueprints q).toStatement with
    | .error e => return .error (.database e)
    | .ok rows => return (·, count) <$> blueprintsOf rows

/-- The blueprint of the first row that a statement reads. -/
def findFirst (s : Select) : Talk (Except StoreError (Option Blueprint)) := do
  return liftError (← Talk.fetch s.toStatement) >>= firstBlueprint

/-- The blueprint of an identifier. -/
def findBlueprint (id : Uuid) : Talk (Except StoreError (Option Blueprint)) :=
  findFirst (blueprintsWhere "id" (.uuid id))

/-- The blueprint that a project belongs to. -/
def findOwner (project : String) : Talk (Except StoreError (Option Blueprint)) :=
  findFirst (blueprintsWhere "project_name" (.text project))

/-- The statement that stores a blueprint. -/
def storeBlueprint (b : Blueprint) : Insert where
  target := blueprintTable.name
  row := blueprintColumns b
  overwrites := some overwrittenColumns

/-- The code of a failure to keep an index unique. -/
def uniqueViolation : String := "23505"

/-- Stores a blueprint in place of the one that may have its identifier. The index of projects
refuses a project that belongs to another one. -/
def saveBlueprint (b : Blueprint) : Talk (Except StoreError Unit) := do
  match ← Talk.execute (storeBlueprint b).toStatement with
  | .ok _ => return .ok ()
  | .error f =>
    if f.code == uniqueViolation then
      return .error (.constraint ("project_name " ++ b.projectName ++ " is already used"))
    else return .error f.toStoreError

/-- The statement that deletes a blueprint. -/
def removeBlueprint (id : Uuid) : Delete where
  target := blueprintTable.name
  conditions := [columnIs "id" (.uuid id)]

/-- Deletes a blueprint. The result tells whether there was one. -/
def deleteBlueprint (id : Uuid) : Talk (Except StoreError Bool) := do
  match ← Talk.execute (removeBlueprint id).toStatement with
  | .ok n => return .ok (0 < n)
  | .error f => return .error f.toStoreError

/-! ## Projects and pipelines -/

/-- The statement that reads a project. -/
def projectNamed (name : String) : Select where
  columns := projectTable.columnNames
  source := projectTable.name
  conditions := [columnIs "name" (.text name)]

/-- The project of the first row, if there is a row. -/
def firstProject : List Row → Except DatabaseError (Option Project)
  | [] => .ok none
  | row :: _ => some <$> readProject row

/-- The project of a name. -/
def findProject (name : String) : Talk (Except StoreError (Option Project)) := do
  let rows ← Talk.fetch (projectNamed name).toStatement
  return liftError (rows >>= firstProject)

/-- The statement that reads the settings of a project that are enabled. -/
def enabledMetrics (project : String) : Select where
  columns := metricTable.columnNames
  source := metricTable.name
  conditions :=
    [columnIs "project_name" (.text project), .equal (.column "enable") (boolean true)]
  order := [{ column := "plugin_name" }]

/-- The settings of a project that are enabled. -/
def findMetrics (project : String) : Talk (Except StoreError (List MetricSetting)) := do
  let rows ← Talk.fetch (enabledMetrics project).toStatement
  return liftError (rows >>= (·.mapM readMetric))

/-- The statement that stores a pipeline. -/
def storePipeline (p : Pipeline) : Insert where
  target := pipelineTable.name
  row := pipelineColumns p

/-- Stores a pipeline, unless it has more tasks than their column holds. -/
def submitPipeline (p : Pipeline) : Talk (Except StoreError Pipeline) := do
  if maxTotalTasks < p.totalTasks then
    return .error (.constraint ("pipeline has " ++ toString p.totalTasks
      ++ " tasks, more than the total_tasks column holds"))
  match ← Talk.execute (storePipeline p).toStatement with
  | .ok _ => return .ok p
  | .error f => return .error f.toStoreError

/-! ## Creating tables -/

/-- Sends statements one after another, up to the first that fails. -/
def sendAll : List Statement → Talk (Except StoreError Unit)
  | [] => return .ok ()
  | s :: rest => do
    match ← Talk.execute s with
    | .ok _ => sendAll rest
    | .error f => return .error f.toStoreError

/-- Creates the tables where they do not exist yet. -/
def migrate : Talk (Except StoreError Unit) :=
  sendAll migrations

end Ingestion.Sql
