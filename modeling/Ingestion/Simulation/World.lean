import Ingestion.Http.Handler
import Ingestion.Request.Service
import Ingestion.Store.Memory

/-!
# A service in virtual time

The service over a store in memory, with a clock that only moves when it is told to. Failures of
the store can be planned, and so can writes by others that come right before a write of the
service. A second agenda over the same store stands for another instance of the scheduler.
-/

namespace Ingestion.Simulation

/-- The functions of the store that a failure can be planned for. -/
inductive StoreFunction where
  | findBlueprints | findBlueprint | findOwner | saveBlueprint | deleteBlueprint | findProject
  | findMetrics | submitPipeline
deriving DecidableEq, Repr, Inhabited

/-- The function of the store that a call uses, if it uses one. -/
def functionOf? : Call → Option StoreFunction
  | .findBlueprints _ => some .findBlueprints
  | .findBlueprint _ => some .findBlueprint
  | .findOwner _ => some .findOwner
  | .saveBlueprint _ => some .saveBlueprint
  | .deleteBlueprint _ => some .deleteBlueprint
  | .findProject _ => some .findProject
  | .findMetrics _ => some .findMetrics
  | .submitPipeline _ => some .submitPipeline
  | _ => none

/-- A planned failure of the store. -/
structure PlannedFault where
  on : StoreFunction
  error : StoreError
  /-- The number of calls that still go through. -/
  after : Nat
deriving DecidableEq, Repr, Inhabited

/-- The agendas of a world. -/
inductive Seat where
  /-- The agenda of the service. -/
  | service
  /-- The agenda of the second scheduler. -/
  | spare
deriving DecidableEq, Repr, Inhabited

/-- The service and its surroundings. -/
structure World where
  clock : Instant
  registry : Registry
  /-- The identifiers that are handed out, in order. -/
  supply : Nat → Uuid
  /-- The number of identifiers handed out so far. -/
  used : Nat := 0
  memory : Memory := {}
  agenda : Agenda := {}
  spare : Agenda := {}
  /-- The planned failures, the oldest first. -/
  faults : List PlannedFault := []
  /-- The planned writes by others, the oldest first. -/
  rivals : List Blueprint := []

/-- Something that happens in a world. -/
abbrev Sim (α : Type) : Type :=
  StateM World α

namespace Sim

/-- The next identifier. -/
def freshId : Sim Uuid :=
  modifyGet fun w => (w.supply w.used, { w with used := w.used + 1 })

/-- The agenda of a seat. -/
def agendaOf (w : World) : Seat → Agenda
  | .service => w.agenda
  | .spare => w.spare

/-- Puts the agenda of a seat. -/
def putAgenda (seat : Seat) (a : Agenda) : Sim Unit :=
  modify fun w =>
    match seat with
    | .service => { w with agenda := a }
    | .spare => { w with spare := a }

/-- The failure that is planned for a call of a function: the oldest one for this function. If it
is not yet due, it comes one call nearer. -/
def takeFault (f : StoreFunction) : Sim (Option StoreError) :=
  modifyGet fun w =>
    let before := w.faults.takeWhile (·.on != f)
    match w.faults.dropWhile (·.on != f) with
    | [] => (none, w)
    | fault :: rest =>
      if 0 < fault.after then
        (none, { w with faults := before ++ { fault with after := fault.after - 1 } :: rest })
      else (some fault.error, { w with faults := before ++ rest })

/-- Stores a blueprint. -/
def save (b : Blueprint) : Sim (Except StoreError Unit) := do
  match (← get).memory.saveBlueprint b with
  | .ok memory =>
    modify fun w => { w with memory }
    return .ok ()
  | .error e => return .error e

/-- Stores a blueprint of the service, after the oldest planned write by another. -/
def saveAfterRival (b : Blueprint) : Sim (Except StoreError Unit) := do
  match (← get).rivals with
  | [] => save b
  | rival :: rest =>
    modify fun w => { w with rivals := rest }
    match ← save rival with
    | .ok () => save b
    | .error e => return .error e

/-- Submits a pipeline. -/
def submit (p : NewPipeline) : Sim Pipeline := do
  let id ← freshId
  let pipeline := p.toPipeline id (← get).clock
  modify fun w => { w with memory := w.memory.addPipeline pipeline }
  return pipeline

/-- Does something in a call of the store, unless a failure is planned for it. -/
def unlessFaulty {α : Type} (f : StoreFunction) (p : Sim (Except StoreError α)) :
    Sim (Except StoreError α) := do
  match ← takeFault f with
  | some e => return .error e
  | none => p

/-- Answers a call of a program that uses the agenda of the given seat. -/
def answer (seat : Seat) : (c : Call) → Sim c.Reply
  | .findBlueprints q => unlessFaulty .findBlueprints do
    return .ok ((← get).memory.findBlueprints q)
  | .findBlueprint id => unlessFaulty .findBlueprint do
    return .ok ((← get).memory.findBlueprint id)
  | .findOwner project => unlessFaulty .findOwner do
    return .ok ((← get).memory.findOwner project)
  | .saveBlueprint b => unlessFaulty .saveBlueprint (saveAfterRival b)
  | .deleteBlueprint id => unlessFaulty .deleteBlueprint do
    let found := ((← get).memory.findBlueprint id).isSome
    modify fun w => { w with memory := w.memory.deleteBlueprint id }
    return .ok found
  | .findProject name => unlessFaulty .findProject do
    return .ok ((← get).memory.findProject name)
  | .findMetrics project => unlessFaulty .findMetrics do
    return .ok ((← get).memory.findMetrics project)
  | .submitPipeline p => unlessFaulty .submitPipeline do
    return .ok (← submit p)
  | .generatePlan r => do return (← get).registry.generate r
  | .now => do return (← get).clock
  | .freshId => freshId
  | .lockAgenda => return ()
  | .unlockAgenda => return ()
  | .rebuildAgenda bs => do
    let w ← get
    let (result, a) := (agendaOf w seat).rebuild (.still w.clock) bs
    putAgenda seat a
    return result
  | .listAgenda => do return (agendaOf (← get) seat).list
  | .stopAgenda => do putAgenda seat (agendaOf (← get) seat).stop

/-- Runs a program that uses the agenda of the given seat. -/
def runAt {α : Type} (seat : Seat) (p : Program α) : Sim α :=
  p.run (answer seat)

/-- Runs a program of the service. -/
def run {α : Type} (p : Program α) : Sim α :=
  runAt .service p

/-- Runs blueprints whose entries have been fired, each under its own policy. -/
def runFired (seat : Seat) : List Blueprint → Sim Unit
  | [] => return
  | b :: rest => do
    let _ ← runAt seat (b.run b.syncPolicy).run
    runFired seat rest

/-- Lets the timer of an agenda see the clock, and runs what it fires. -/
def wake (seat : Seat) : Sim Unit := do
  let w ← get
  let (fired, a) := (agendaOf w seat).wake w.clock
  putAgenda seat a
  runFired seat fired

/-- Moves the clock by some seconds at once and lets both timers see it. -/
def advance (seconds : Nat) : Sim Unit := do
  modify fun w => { w with clock := (w.clock.addSeconds? seconds).getD w.clock }
  wake .service
  wake .spare

end Sim

end Ingestion.Simulation
