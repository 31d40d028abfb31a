import Ingestion.Blueprint.Basic
import Ingestion.Json.Basic
import Ingestion.Schedule.Engine
import Ingestion.Time.Format

/-!
# The agenda of blueprints

The agenda is the cron engine that runs blueprints, with the blueprint that each entry runs. It
is rebuilt from a list of blueprints as a whole: all entries of before are removed, and each
blueprint gets a new one. If the expression of one is refused, nothing stays of the rebuild.
-/

namespace Ingestion

/-- The entries of the engine that runs blueprints. -/
structure Agenda where
  /-- The job of an entry is the blueprint as it was when the entry was made. -/
  engine : Engine Blueprint := {}
  /-- The blueprint of each entry. -/
  owners : Table Nat Uuid := Table.empty
deriving Inhabited

/-- What a rebuild meets outside the agenda. -/
structure Surroundings where
  /-- The readings of the clock, by their number: one for each entry that is added, and one when
  the engine is started. -/
  clock : Nat → Instant
  /-- A refusal by the engine of the entry of this number, whatever its expression. -/
  refusal : Nat → Option CronError := fun _ => none

namespace Surroundings

/-- A clock that stands still. -/
def still (now : Instant) : Surroundings :=
  { clock := fun _ => now }

end Surroundings

namespace Agenda

/-- The agenda without the entries of its blueprints. -/
def clear (a : Agenda) : Agenda where
  engine := a.owners.keys.foldl Engine.remove a.engine
  owners := Table.empty

/-- Adds an entry for a blueprint, the `index`-th one of a rebuild. -/
def add (s : Surroundings) (index : Nat) (b : Blueprint) (a : Agenda) :
    Except CronError Agenda := do
  match s.refusal index with
  | some e => throw e
  | none =>
    let engine ← a.engine.add (s.clock index) b.cronConfig b
    return { engine, owners := a.owners.insert engine.lastId b.id }

/-- Adds entries for blueprints, the first of which is the `index`-th of a rebuild. -/
def addAll (s : Surroundings) : Nat → List Blueprint → Agenda → Except RequestError Nat × Agenda
  | index, [], a =>
    let engine := if index = 0 then a.engine else a.engine.start (s.clock index)
    (.ok index, { a with engine })
  | index, b :: rest, a =>
    match a.add s index b with
    | .ok a => addAll s (index + 1) rest a
    | .error source => (.error (.schedule b.id source), a.clear)

/-- Rebuilds the agenda for the given blueprints. The result tells their number. -/
def rebuild (s : Surroundings) (blueprints : List Blueprint) (a : Agenda) :
    Except RequestError Nat × Agenda :=
  let cleared := a.clear
  addAll s 0 blueprints { cleared with engine := cleared.engine.stop }

/-- The agenda with its timer stopped. The entries stay. -/
def stop (a : Agenda) : Agenda :=
  { a with engine := a.engine.stop }

/-- The agenda after its timer has seen the clock, and the blueprints whose entries it fired. -/
def wake (a : Agenda) (now : Instant) : List Blueprint × Agenda :=
  let (fired, engine) := a.engine.wake now
  (fired.map (·.job), { a with engine })

end Agenda

/-! ## Listing -/

/-- An entry of the agenda as it is listed. -/
structure ScheduledBlueprint where
  entryId : Nat
  blueprintId : Uuid
  cronConfig : String
  nextFire : Option Instant
deriving DecidableEq, Inhabited

namespace ScheduledBlueprint

/-- Whether an entry is listed before another one, or at the same place: by the next instant,
those without one last, then by number. -/
def before (a b : ScheduledBlueprint) : Bool :=
  match a.nextFire, b.nextFire with
  | some s, some t => s < t || (s == t && a.entryId ≤ b.entryId)
  | some _, none => true
  | none, some _ => false
  | none, none => a.entryId ≤ b.entryId

/-- The tree of an entry. -/
def toJson (s : ScheduledBlueprint) : Json :=
  .object [("entry_id", .nat s.entryId), ("blueprint_id", .string s.blueprintId.toText),
    ("cron_config", .string s.cronConfig),
    ("next_fire", .ofOption (fun t => .string t.toText) s.nextFire)]

end ScheduledBlueprint

namespace Agenda

/-- The entry as it is listed, if it is the entry of a blueprint. -/
def listed? (a : Agenda) (e : Entry Blueprint) : Option ScheduledBlueprint :=
  (a.owners.find? e.id).map fun blueprintId =>
    { entryId := e.id, blueprintId, cronConfig := e.expression, nextFire := e.nextFire }

/-- The entries, the one that is due soonest first. -/
def list (a : Agenda) : List ScheduledBlueprint :=
  (a.engine.entries.filterMap a.listed?).mergeSort ScheduledBlueprint.before

end Agenda

end Ingestion
