import Mathlib
import Ingestion.Plugin.Generator
import Ingestion.Proofs.Request.Command
import Ingestion.Store.Memory

/-!
# Requests side by side

Any number of requests are under way over one store in memory and one agenda. They go on in any
order, one call at a time: a step carries out the next call of one request. A request that asks for
the agenda while another one holds it cannot go on. Between the calls requests arrive, the timer of
the agenda sees the clock and sets off runs, and others add projects and settings.

What a step cannot know, an identifier drawn at random and the readings of the clock during a
rebuild, is left to chance and comes with the action.
-/

namespace Ingestion

/-! ## What requests share -/

/-- The store, the agenda and the clock. -/
structure Shared where
  clock : Instant
  memory : Memory := {}
  agenda : Agenda := {}
  /-- The number of the request that holds the agenda. -/
  holder : Option Nat := none
  /-- The identifiers that have been drawn or are in use. None of them is drawn again. -/
  issued : List Uuid := []

/-- What is left to chance in a step. -/
structure Chance where
  /-- The identifier that is drawn, if one is. -/
  id : Uuid
  /-- The readings of the clock during a rebuild. -/
  readings : Nat → Instant

namespace Shared

variable (registry : Registry)

/-- The reply to a call of the request `k`, and what the call changes. There is none while the
call has to wait, or if an identifier was drawn that is in use. -/
def answer (k : Nat) (chance : Chance) (s : Shared) : (c : Call) → Option (c.Reply × Shared)
  | .findBlueprints q => some (.ok (s.memory.findBlueprints q), s)
  | .findBlueprint id => some (.ok (s.memory.findBlueprint id), s)
  | .findOwner project => some (.ok (s.memory.findOwner project), s)
  | .saveBlueprint b =>
    match s.memory.saveBlueprint b with
    | .ok memory => some (.ok (), { s with memory })
    | .error e => some (.error e, s)
  | .deleteBlueprint id =>
    some (.ok (s.memory.findBlueprint id).isSome, { s with memory := s.memory.deleteBlueprint id })
  | .findProject name => some (.ok (s.memory.findProject name), s)
  | .findMetrics project => some (.ok (s.memory.findMetrics project), s)
  | .submitPipeline p =>
    if chance.id ∈ s.issued then none
    else
      let pipeline := p.toPipeline chance.id s.clock
      some (.ok pipeline,
        { s with memory := s.memory.addPipeline pipeline, issued := chance.id :: s.issued })
  | .generatePlan r => some (registry.generate r, s)
  | .now => some (s.clock, s)
  | .freshId =>
    if chance.id ∈ s.issued then none
    else some (chance.id, { s with issued := chance.id :: s.issued })
  | .lockAgenda => if s.holder = none then some ((), { s with holder := some k }) else none
  | .unlockAgenda => some ((), { s with holder := none })
  | .rebuildAgenda bs =>
    let (result, agenda) := s.agenda.rebuild { clock := chance.readings } bs
    some (result, { s with agenda })
  | .listAgenda => some (s.agenda.list, s)
  | .stopAgenda => some ((), { s with agenda := s.agenda.stop })

end Shared

/-! ## Steps -/

/-- A request that has arrived, and what is left of it. -/
structure Pending where
  command : Command
  rest : Program (Except RequestError command.Value)

/-- A request that has just arrived. -/
def Pending.arrived (c : Command) : Pending :=
  { command := c, rest := c.program }

/-- Whether a request has come to its end is decided by what is left of it. -/
instance (p : Pending) : Decidable (∃ r, p.rest = .done r) :=
  match p with
  | ⟨_, .done r⟩ => .isTrue ⟨r, rfl⟩
  | ⟨_, .call _ _⟩ => .isFalse (by rintro ⟨r, ⟨⟩⟩)

/-- Whether a request has come to its end with success. -/
def Pending.hasSucceeded (p : Pending) : Bool :=
  match p.rest with
  | .done (.ok _) => true
  | _ => false

/-- The requests, in the order of their arrival, and what they share. -/
structure System where
  shared : Shared
  requests : List Pending := []

/-- Something that happens to the system. -/
inductive Action where
  /-- Nothing happens. -/
  | idle
  | arrive (c : Command)
  /-- The next call of a request is carried out. -/
  | proceed (k : Nat) (chance : Chance)
  /-- The clock is set, and the timer sees it. -/
  | tick (now : Instant)
  | addProject (p : Project)
  | putMetric (m : MetricSetting)

namespace System

/-- The system with a request `k` carried on by one call. -/
def proceed (registry : Registry) (k : Nat) (chance : Chance) (s : System) : Option System :=
  match s.requests[k]? with
  | none => none
  | some p =>
    match p.rest with
    | .done _ => none
    | .call c next =>
      match s.shared.answer registry k chance c with
      | none => none
      | some (reply, shared) =>
        some { shared, requests := s.requests.set k { p with rest := next reply } }

/-- The system after an action, if the action is possible. -/
def step (registry : Registry) (a : Action) (s : System) : Option System :=
  match a with
  | .idle => some s
  | .arrive c => some { s with requests := s.requests ++ [.arrived c] }
  | .proceed k chance => s.proceed registry k chance
  | .tick now =>
    let woken := s.shared.agenda.wake now
    some { shared := { s.shared with clock := now, agenda := woken.2 },
           requests := s.requests ++ woken.1.map fun b => .arrived (.run b) }
  | .addProject p =>
    some { s with shared := { s.shared with memory := s.shared.memory.addProject p } }
  | .putMetric m =>
    some { s with shared := { s.shared with memory := s.shared.memory.putMetric m } }

/-- The request `k` is of a command and has succeeded. -/
def Succeeded (s : System) (k : Nat) (c : Command) : Prop :=
  ∃ p, s.requests[k]? = some p ∧ p.command = c ∧ ∃ v, p.rest = .done (.ok v)

/-- No request is under way. -/
def Quiet (s : System) : Prop :=
  ∀ p ∈ s.requests, ∃ r, p.rest = .done r

instance (s : System) : Decidable s.Quiet :=
  inferInstanceAs (Decidable (∀ p ∈ s.requests, ∃ r, p.rest = .done r))

/-- Nothing has been asked for yet: the agenda is empty, and the store holds blueprints under their
own identifiers, none of which will be drawn. -/
structure Initial (s : System) : Prop where
  requests : s.requests = []
  agenda : s.shared.agenda = {}
  holder : s.shared.holder = none
  keyed : ∀ id b, s.shared.memory.findBlueprint id = some b → b.id = id
  issued : ∀ id b, s.shared.memory.findBlueprint id = some b → id ∈ s.shared.issued

end System

/-! ## Runs -/

/-- A sequence of actions that are possible one after another, from a beginning on. -/
structure Run (registry : Registry) where
  state : Nat → System
  action : Nat → Action
  initial : (state 0).Initial
  step : ∀ i, (state i).step registry (action i) = some (state (i + 1))

namespace Run

variable {registry : Registry} (r : Run registry)

/-- The store at a moment. -/
def memory (i : Nat) : Memory :=
  (r.state i).shared.memory

/-- The agenda at a moment. -/
def agenda (i : Nat) : Agenda :=
  (r.state i).shared.agenda

/-- At the moment `i` the request `k` makes a call and gets a reply. -/
def Exchanges (i k : Nat) (c : Call) (reply : c.Reply) : Prop :=
  ∃ chance p next, r.action i = .proceed k chance ∧ (r.state i).requests[k]? = some p ∧
    p.rest = .call c next ∧
    (r.state i).shared.answer registry k chance c = some (reply, (r.state (i + 1)).shared) ∧
    (r.state (i + 1)).requests = (r.state i).requests.set k { p with rest := next reply }

end Run

/-! ## Runs of given actions -/

namespace System

/-- The states that actions lead through one after another. After the last one nothing happens any
more. An action that is not possible leaves the state as it is. -/
def trace (registry : Registry) (actions : List Action) (start : System) : Nat → System
  | 0 => start
  | i + 1 =>
    let s := trace registry actions start i
    (s.step registry (actions.getD i .idle)).getD s

/-- All actions of a list are possible one after another. -/
def allows (registry : Registry) (start : System) (actions : List Action) : Bool :=
  (List.range actions.length).all fun i =>
    ((trace registry actions start i).step registry (actions.getD i .idle)).isSome

theorem trace_of_length_le (registry : Registry) (actions : List Action) (start : System) {i : Nat}
    (hi : actions.length ≤ i) :
    start.trace registry actions i = start.trace registry actions actions.length := by
  induction i, hi using Nat.le_induction with
  | base => rfl
  | succ i hi ih =>
    rw [trace, List.getD_eq_default _ _ hi, ← ih]
    rfl

end System

/-- The run of the given actions. -/
def Run.ofActions (registry : Registry) (start : System) (actions : List Action)
    (hstart : start.Initial) (h : start.allows registry actions = true) : Run registry where
  state := start.trace registry actions
  action i := actions.getD i .idle
  initial := hstart
  step i := by
    have hsome : ((start.trace registry actions i).step registry
        (actions.getD i .idle)).isSome := by
      rcases Nat.lt_or_ge i actions.length with hi | hi
      · exact List.all_eq_true.1 h i (List.mem_range.2 hi)
      · rw [List.getD_eq_default _ _ hi]
        rfl
    exact (Option.getD_of_ne_none (Option.isSome_iff_ne_none.1 hsome) _).symm

/-- An action that is not given any more from some moment on is not taken any more. -/
theorem Run.ofActions_action_ne {registry : Registry} {start : System} {actions : List Action}
    {hstart : start.Initial} {h : start.allows registry actions = true} {a : Action} {n i : Nat}
    (ha : a ∉ actions.drop n) (hidle : .idle ≠ a) (hi : n ≤ i) :
    (Run.ofActions registry start actions hstart h).action i ≠ a := by
  show actions.getD i .idle ≠ a
  rw [← Nat.add_sub_cancel' hi, List.getD_eq_getElem?_getD, ← List.getElem?_drop]
  cases hget : (actions.drop n)[i - n]? with
  | none => exact hidle
  | some a' =>
    rintro rfl
    exact ha (List.mem_of_getElem? hget)

end Ingestion
