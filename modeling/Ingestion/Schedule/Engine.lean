import Ingestion.Cron.Expression
import Ingestion.Error

/-!
# The cron engine

The engine holds entries, each with a schedule, a job and the instant at which the job is due
next. A timer runs while the engine is started: it sleeps until the earliest of these instants
and then fires every entry that is due, once each, however many of its instants have passed. A
fired entry is next due after the reading of the clock at which it was fired.

Entries get ascending numbers, and no number is given twice.
-/

namespace Ingestion

/-- Reads a cron expression. -/
def Cron.read (expression : String) : Except CronError Cron.Schedule :=
  match Cron.Schedule.read expression with
  | .ok s => .ok s
  | .error fault => .error (.invalidExpression expression fault.message)

/-- A job and the schedule that it runs by. -/
structure Entry (J : Type) where
  id : Nat
  expression : String
  schedule : Cron.Schedule
  job : J
  /-- The instant at which the job is due next, if there is one. -/
  nextFire : Option Instant
deriving Inhabited

namespace Entry

variable {J : Type}

/-- Whether the entry is due by an instant. -/
def isDue (e : Entry J) (now : Instant) : Bool :=
  e.nextFire.any (· ≤ now)

/-- The entry, due at the first instant of its schedule after `now`. -/
def reschedule (e : Entry J) (now : Instant) : Entry J :=
  { e with nextFire := e.schedule.next? now }

end Entry

/-- The entries of a cron engine, and whether its timer runs. -/
structure Engine (J : Type) where
  /-- The entries in the order of their registration. -/
  entries : List (Entry J) := []
  /-- The number given last. -/
  lastId : Nat := 0
  isRunning : Bool := false
deriving Inhabited

namespace Engine

variable {J : Type}

/-- Registers a job. Its entry gets the number `lastId` of the new engine. An expression that is
never due again is refused. -/
def add (e : Engine J) (now : Instant) (expression : String) (job : J) :
    Except CronError (Engine J) := do
  let schedule ← Cron.read expression
  match schedule.next? now with
  | none => throw (.noUpcomingFire expression)
  | some next =>
    let id := e.lastId + 1
    let entry := { id, expression, schedule, job, nextFire := some next }
    return { e with entries := e.entries ++ [entry], lastId := id }

/-- Removes an entry, if there is one of this number. -/
def remove (e : Engine J) (id : Nat) : Engine J :=
  { e with entries := e.entries.filter (·.id != id) }

/-- Starts the timer, unless it runs. What would have been due while it did not run is passed
over. -/
def start (e : Engine J) (now : Instant) : Engine J :=
  if e.isRunning then e
  else { e with entries := e.entries.map (·.reschedule now), isRunning := true }

/-- Stops the timer. The entries stay. -/
def stop (e : Engine J) : Engine J :=
  { e with isRunning := false }

/-- The entries that are due. -/
def due (e : Engine J) (now : Instant) : List (Entry J) :=
  e.entries.filter (·.isDue now)

/-- The engine after every entry that is due has been fired. -/
def fireDue (e : Engine J) (now : Instant) : Engine J :=
  { e with entries := e.entries.map fun entry =>
      if entry.isDue now then entry.reschedule now else entry }

/-! ## The timer -/

/-- The instant until which the timer sleeps: the earliest at which an entry is due. -/
def wakeTime? (e : Engine J) : Option Instant :=
  e.entries.foldl (fun earliest entry =>
    match earliest, entry.nextFire with
    | some a, some b => if b < a then some b else some a
    | none, next => next
    | some a, none => some a) none

/-- Lets the timer see the clock: if it runs and its sleep is over, it fires what is due. The
result holds the entries that are fired, in order. -/
def wake (e : Engine J) (now : Instant) : List (Entry J) × Engine J :=
  if e.isRunning && e.wakeTime?.any (· ≤ now) then (e.due now, e.fireDue now) else ([], e)

end Engine

end Ingestion
