import Ingestion.Request.Service
import Ingestion.Sql.Store

/-!
# A service over a scripted database

The service over a database that is known by its replies only, with a clock that only moves when
it is told to.
-/

namespace Ingestion.Simulation

/-- The service and its surroundings, the store being a database. -/
structure Desk where
  clock : Instant
  registry : Registry
  /-- The identifiers that are handed out, in order. -/
  supply : Nat → Uuid
  /-- The number of identifiers handed out so far. -/
  used : Nat := 0
  agenda : Agenda := {}
  peer : Sql.Peer := {}

/-- Something that happens at a desk. -/
abbrev DeskM (α : Type) : Type :=
  StateM Desk α

namespace Desk

/-- Talks to the database. -/
def talk {α : Type} (p : Sql.Talk α) : DeskM α :=
  modifyGet fun d =>
    let (a, peer) := p d.peer
    (a, { d with peer })

/-- The next identifier. -/
def freshId : DeskM Uuid :=
  modifyGet fun d => (d.supply d.used, { d with used := d.used + 1 })

/-- Submits a pipeline. -/
def submit (p : NewPipeline) : DeskM (Except StoreError Pipeline) := do
  let id ← freshId
  talk (Sql.submitPipeline (p.toPipeline id (← get).clock))

/-- Answers a call of a program of the service. -/
def answer : (c : Call) → DeskM c.Reply
  | .findBlueprints q => talk (Sql.findBlueprints q)
  | .findBlueprint id => talk (Sql.findBlueprint id)
  | .findOwner project => talk (Sql.findOwner project)
  | .saveBlueprint b => talk (Sql.saveBlueprint b)
  | .deleteBlueprint id => talk (Sql.deleteBlueprint id)
  | .findProject name => talk (Sql.findProject name)
  | .findMetrics project => talk (Sql.findMetrics project)
  | .submitPipeline p => submit p
  | .generatePlan r => do return (← get).registry.generate r
  | .now => do return (← get).clock
  | .freshId => freshId
  | .lockAgenda => return ()
  | .unlockAgenda => return ()
  | .rebuildAgenda bs => do
    let d ← get
    let (result, agenda) := d.agenda.rebuild (.still d.clock) bs
    set { d with agenda }
    return result
  | .listAgenda => do return (← get).agenda.list
  | .stopAgenda => modify fun d => { d with agenda := d.agenda.stop }

/-- Runs a program of the service. -/
def run {α : Type} (p : Program α) : DeskM α :=
  p.run answer

/-- Moves the clock by some seconds. -/
def advance (seconds : Nat) : DeskM Unit :=
  modify fun d => { d with clock := (d.clock.addSeconds? seconds).getD d.clock }

end Desk

end Ingestion.Simulation
