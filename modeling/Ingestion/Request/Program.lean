import Ingestion.Blueprint.Query
import Ingestion.Pipeline
import Ingestion.Plugin.Generator
import Ingestion.Project
import Ingestion.Schedule.Agenda

/-!
# Requests as programs

A request is a program of calls. A call asks the surroundings for one thing, such as a record of
the store or a reading of the clock, and the program goes on with the reply. What the
surroundings are is left open: `Program.run` takes a function that answers the calls. The same
program so runs against a store in memory, against a database, with failures put in, or step by
step among other programs.
-/

namespace Ingestion

/-- Something that a request asks of its surroundings. -/
inductive Call where
  /-- The blueprints of a query, and the number of those on all its pages. -/
  | findBlueprints (q : Query)
  | findBlueprint (id : Uuid)
  /-- The blueprint that a project belongs to. -/
  | findOwner (project : String)
  /-- Stores a blueprint in place of the one that may have its identifier. -/
  | saveBlueprint (b : Blueprint)
  /-- Deletes a blueprint. The reply tells whether there was one. -/
  | deleteBlueprint (id : Uuid)
  | findProject (name : String)
  /-- The settings of a project that are enabled. -/
  | findMetrics (project : String)
  | submitPipeline (p : NewPipeline)
  | generatePlan (r : PlanRequest)
  /-- A reading of the clock. -/
  | now
  /-- An identifier that has not been used. -/
  | freshId
  /-- Waits until no other request holds the agenda, and holds it from then on. -/
  | lockAgenda
  | unlockAgenda
  /-- Rebuilds the agenda for the given blueprints. -/
  | rebuildAgenda (bs : List Blueprint)
  | listAgenda
  | stopAgenda

/-- What a call is answered with. -/
@[reducible]
def Call.Reply : Call → Type
  | .findBlueprints _ => Except StoreError (List Blueprint × Int64)
  | .findBlueprint _ => Except StoreError (Option Blueprint)
  | .findOwner _ => Except StoreError (Option Blueprint)
  | .saveBlueprint _ => Except StoreError Unit
  | .deleteBlueprint _ => Except StoreError Bool
  | .findProject _ => Except StoreError (Option Project)
  | .findMetrics _ => Except StoreError (List MetricSetting)
  | .submitPipeline _ => Except StoreError Pipeline
  | .generatePlan _ => Except PlanError Plan
  | .now => Instant
  | .freshId => Uuid
  | .lockAgenda => Unit
  | .unlockAgenda => Unit
  | .rebuildAgenda _ => Except RequestError Nat
  | .listAgenda => List ScheduledBlueprint
  | .stopAgenda => Unit

/-- A program of calls with a result. -/
inductive Program (α : Type) where
  | done (a : α)
  | call (c : Call) (next : c.Reply → Program α)

namespace Program

variable {α β : Type}

/-- Goes on with a program that depends on the result. -/
def bind : Program α → (α → Program β) → Program β
  | .done a, f => f a
  | .call c next, f => .call c fun reply => (next reply).bind f

instance : Monad Program where
  pure := .done
  bind := bind

@[simp]
theorem bind_done (a : α) (f : α → Program β) : (Program.done a).bind f = f a :=
  rfl

@[simp]
theorem bind_call (c : Call) (next : c.Reply → Program α) (f : α → Program β) :
    (Program.call c next).bind f = .call c fun reply => (next reply).bind f :=
  rfl

theorem bind_pure (p : Program α) : p.bind .done = p := by
  induction p with
  | done a => rfl
  | call c next ih => simp [ih]

theorem bind_assoc {γ : Type} (p : Program α) (f : α → Program β) (g : β → Program γ) :
    (p.bind f).bind g = p.bind fun a => (f a).bind g := by
  induction p with
  | done a => rfl
  | call c next ih => simp [ih]

instance : LawfulMonad Program :=
  LawfulMonad.mk' Program bind_pure (fun _ _ => rfl) bind_assoc

/-- The program of a single call. -/
def ask (c : Call) : Program c.Reply :=
  .call c .done

/-- Runs a program, given the answers to its calls. -/
def run {m : Type → Type} [Monad m] (answer : (c : Call) → m c.Reply) : Program α → m α
  | .done a => pure a
  | .call c next => do
    let reply ← answer c
    (next reply).run answer

end Program

/-- A program that may fail. -/
abbrev Request (α : Type) : Type :=
  ExceptT RequestError Program α

namespace Request

/-- A program whose error is wrapped into that of a request. -/
def lift {ε α : Type} (wrap : ε → RequestError) (p : Program (Except ε α)) : Request α :=
  ExceptT.mk do
    match ← p with
    | .ok a => return .ok a
    | .error e => return .error (wrap e)

/-- A program that does not fail. -/
def always {α : Type} (p : Program α) : Request α :=
  ExceptT.mk do return .ok (← p)

/-- A call of the store. -/
def store {α : Type} (p : Program (Except StoreError α)) : Request α :=
  lift .store p

end Request

end Ingestion
