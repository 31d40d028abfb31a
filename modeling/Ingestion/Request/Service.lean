import Ingestion.Blueprint.Patch
import Ingestion.Request.Validation

/-!
# The requests of the service

Blueprints are created, read, listed, patched, deleted and run. After each change the agenda is
rebuilt from the store, under a lock that makes rebuilds queue. The error of a rebuild is
reported as such, because the change itself has been stored by then.
-/

namespace Ingestion.Service

/-! ## The agenda -/

/-- Holds the agenda while a program runs. -/
def holdingAgenda {α : Type} (p : Program α) : Program α := do
  Program.ask .lockAgenda
  let a ← p
  Program.ask .unlockAgenda
  return a

/-- Rebuilds the agenda for every blueprint that is to run by its cron expression. The result
tells their number. -/
def reconcile : Request Nat :=
  ExceptT.mk <| holdingAgenda do
    match ← Program.ask (.findBlueprints .schedulable) with
    | .error e => return .error (.store e)
    | .ok (blueprints, _) => Program.ask (.rebuildAgenda blueprints)

/-- Rebuilds the agenda after a change. -/
def reload : Request Unit :=
  ExceptT.mk do
    match ← reconcile.run with
    | .ok _ => return .ok ()
    | .error e => return .error (.reload e)

/-- The entries of the agenda, the one that is due soonest first. -/
def schedule : Program (List ScheduledBlueprint) :=
  holdingAgenda (Program.ask .listAgenda)

/-- Stops running blueprints by their cron expressions. -/
def shutdown : Program Unit :=
  holdingAgenda (Program.ask .stopAgenda)

/-! ## Reading -/

/-- The error for an identifier that no blueprint has. -/
def blueprintNotFound (id : Uuid) : RequestError :=
  .notFound ("blueprint " ++ id.toText ++ " not found")

/-- The blueprint of an identifier. -/
def get (id : Uuid) : Request Blueprint := do
  match ← Request.store (Program.ask (.findBlueprint id)) with
  | some b => return b
  | none => throw (blueprintNotFound id)

/-- The blueprints of a query. -/
def list (q : Query) : Request Listing := do
  let (blueprints, count) ← Request.store (Program.ask (.findBlueprints q))
  return { blueprints, count }

/-- The blueprint that a project belongs to, if there is one. -/
def getByProject (name : String) : Request (Option Blueprint) := do
  if Text.isBlank name then throw (.internal "project name is required")
  .store (Program.ask (.findOwner name))

/-! ## Changing -/

/-- The error for a blueprint that the store refuses: the conflict with the owner of its project,
if there is one by now. -/
def refusal (b : Blueprint) (detail : String) : Request Unit := do
  match ← Request.store (Program.ask (.findOwner b.projectName)) with
  | some owner =>
    if owner.id ≠ b.id then throw (b.conflictWith owner) else throw (.badInput detail)
  | none => throw (.badInput detail)

/-- Stores a validated blueprint. Its project may have been taken since the validation; then the
store refuses it. -/
def save (b : Blueprint) : Request Unit := do
  match ← Request.always (Program.ask (.saveBlueprint b)) with
  | .ok () => return
  | .error (.constraint detail) => refusal b detail
  | .error e => throw (.store e)

/-- Creates a blueprint. -/
def create (d : Draft) : Request Blueprint := do
  let id ← Request.always (Program.ask .freshId)
  let now ← Request.always (Program.ask .now)
  let b ← (d.toBlueprint id now).validated
  save b
  reload
  return b

/-- Whether a patch sets the plan of a blueprint whose plan is not its author's to write. -/
def setsDerivedPlan (p : Patch) (b : Blueprint) : Bool :=
  p.plan.isSome && b.mode == .normal

/-- Patches a blueprint. -/
def patch (id : Uuid) (p : Patch) : Request Blueprint := do
  let b ← get id
  if setsDerivedPlan p b then throw (.badInput "plan can only be set on ADVANCED blueprints")
  let now ← Request.always (Program.ask .now)
  let b ← (p.apply b now).validated
  save b
  reload
  return b

/-- Deletes a blueprint. -/
def delete (id : Uuid) : Request Unit := do
  let found ← Request.store (Program.ask (.deleteBlueprint id))
  if !found then throw (blueprintNotFound id)
  reload

/-! ## Running -/

/-- The policy of a run that is asked for: whether to skip collectors and whether to sync fully
is taken from the request, all else from the blueprint. -/
def runPolicy (own asked : SyncPolicy) : SyncPolicy :=
  { own with skipCollectors := asked.skipCollectors, fullSync := asked.fullSync }

/-- Runs a blueprint now. -/
def trigger (id : Uuid) (asked : SyncPolicy) : Request Pipeline := do
  let b ← get id
  let b := { b with syncPolicy := runPolicy b.syncPolicy asked }
  b.run b.syncPolicy

end Ingestion.Service
