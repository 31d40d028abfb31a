import Ingestion.Request.Run

/-!
# Validating blueprints

A blueprint is stored only if it is valid. The rules are checked one after another, and the first
that is broken gives the error: the form of the fields, the project, the cron expression, and
the plan. On the way the blueprint is completed: a cron expression that asks for runs by hand
only sets the flag for it, and in mode `NORMAL` the plan is composed anew.
-/

namespace Ingestion.Blueprint

/-- The longest name, in characters. -/
def maxNameLength : Nat := 255

/-- The first rule on the form of the fields that is broken. -/
def formFault? (b : Blueprint) : Option String :=
  if Text.isBlank b.name then some "Blueprint name cannot be empty"
  else if maxNameLength < b.name.length then
    some ("Blueprint name is too long (max " ++ toString maxNameLength ++ " characters)")
  else if !b.isManual && Text.isBlank b.cronConfig then some "cronConfig cannot be empty"
  else if b.labels.any Text.isBlank then some "Labels cannot be empty"
  else if b.connections.any (Text.isBlank ·.pluginName) then
    some "Connection plugin name cannot be empty"
  else none

/-- Checks the form of the fields. -/
def checkForm (b : Blueprint) : Except RequestError Unit :=
  match b.formFault? with
  | some detail => .error (.badInput detail)
  | none => .ok ()

/-- The error for a project that another blueprint owns. -/
def conflictWith (b owner : Blueprint) : RequestError :=
  .projectConflict b.projectName owner.id owner.name

/-- Checks that the project of a blueprint exists and belongs to no other one. -/
def checkProject (b : Blueprint) : Request Unit := do
  if b.hasProject then
    let project ← .store (Program.ask (.findProject b.projectName))
    if project.isNone then
      throw (.notFound ("invalid projectName: [" ++ b.projectName ++ "] for the blueprint ["
        ++ b.name ++ "]"))
    let owner ← .store (Program.ask (.findOwner b.projectName))
    match owner with
    | some owner => if owner.id ≠ b.id then throw (b.conflictWith owner)
    | none => return

/-- The blueprint with the flag for runs by hand set, if its cron expression asks for it. -/
def normalized (b : Blueprint) : Blueprint :=
  { b with isManual := b.isManual || b.isManualCron }

/-- Checks the cron expression of a blueprint that is to run by it. -/
def checkCron (b : Blueprint) : Except RequestError Unit :=
  if b.isManual then .ok ()
  else
    match Cron.read b.cronConfig with
    | .ok _ => .ok ()
    | .error e => .error (.invalidCron e)

/-- Checks the plan of a blueprint, or composes it. The result is the completed blueprint. -/
def withPlan (b : Blueprint) : Request Blueprint := do
  match b.mode with
  | .advanced =>
    if b.plan.hasNoStages then
      throw (.badInput "invalid plan: ADVANCED blueprints need a non-empty plan")
    return b
  | .normal =>
    let plan ← .lift (.plan b.id b.name) (b.composePlan b.syncPolicy)
    return { b with plan }

/-- Validates a blueprint. The result holds the blueprint as far as it has been completed, also
if a rule is broken. -/
def validation (b : Blueprint) : Program (Except RequestError Unit × Blueprint) := do
  match b.checkForm with
  | .error e => return (.error e, b)
  | .ok () =>
    match ← b.checkProject.run with
    | .error e => return (.error e, b)
    | .ok () =>
      let b := b.normalized
      match b.checkCron with
      | .error e => return (.error e, b)
      | .ok () =>
        match ← b.withPlan.run with
        | .error e => return (.error e, b)
        | .ok b => return (.ok (), b)

/-- Validates a blueprint. The result is the completed blueprint. -/
def validated (b : Blueprint) : Request Blueprint :=
  ExceptT.mk do
    match ← b.validation with
    | (.ok (), b) => return .ok b
    | (.error e, _) => return .error e

end Ingestion.Blueprint
