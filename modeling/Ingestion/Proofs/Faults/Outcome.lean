import Mathlib
import Ingestion.Proofs.Concurrent.Acceptance
import Ingestion.Proofs.Concurrent.Patching
import Ingestion.Proofs.Faults.Calls
import Ingestion.Proofs.Schedule.Reconcile

/-!
# What a request leaves behind

A request makes up to a dozen calls and may fail at any of them. Whatever fails, it leaves one of
three states behind (`Shared.Reached.request_outcome`). If it succeeds, the store has changed by
just what is asked for, and the agenda registers what the new store is to run. If it fails, nothing
has changed, except after the error of a rebuild: then the store has changed by what is asked for,
and the agenda is as before, if the blueprints could not be fetched, or else empty and stopped.

The proof follows the programs by a protocol whose stages are what is known of the state
(`Shared.knowledge`).
-/

namespace Ingestion

/-! ## What is asked for -/

/-- Validation completes a blueprint to another one, over the settings of a store. -/
structure Blueprint.CompletesOver (registry : Registry) (m : Memory) (b b' : Blueprint) : Prop where
  fields : b' = { b.normalized with plan := b'.plan }
  advanced : b.mode = .advanced → b'.plan = b.plan
  normal : b.mode = .normal → b'.PlanDerived registry m

/-- What a command has to make of a store, and the value that it returns for it. -/
inductive Command.Effect (registry : Registry) (m : Memory) :
    (c : Command) → c.Value → Memory → Prop
  /-- The new blueprint is stored under an identifier that has not been in use. -/
  | create {d : Draft} {id : Uuid} {t : Instant} {b : Blueprint}
      (hnew : m.findBlueprint id = none) (hid : b.id = id)
      (hb : (d.toBlueprint id t).CompletesOver registry m b) :
      Effect registry m (.create d) b { m with blueprints := m.blueprints.insert id b }
  /-- The patched blueprint is stored in place of the old one. -/
  | patch {id : Uuid} {p : Patch} {t : Instant} {old b : Blueprint}
      (hold : m.findBlueprint id = some old) (hid : b.id = id)
      (hb : (p.apply old t).CompletesOver registry m b) :
      Effect registry m (.patch id p) b { m with blueprints := m.blueprints.insert id b }
  | delete {id : Uuid} {old : Blueprint} (hold : m.findBlueprint id = some old) :
      Effect registry m (.delete id) () { m with blueprints := m.blueprints.erase id }
  /-- A pipeline with the plan of the blueprint is added. -/
  | trigger {id : Uuid} {asked : SyncPolicy} {old b : Blueprint} {plan : Plan}
      {pipelineId : Uuid} {t : Instant} {pipeline : Pipeline}
      (hold : m.findBlueprint id = some old)
      (hb : b = { old with syncPolicy := Service.runPolicy old.syncPolicy asked })
      (hadvanced : b.mode = .advanced → plan = b.plan)
      (hnormal : b.mode = .normal → { b with plan }.PlanDerived registry m)
      (hplan : plan.isEmpty = false)
      (hpipeline : pipeline = (b.newPipeline b.syncPolicy plan).toPipeline pipelineId t) :
      Effect registry m (.trigger id asked) pipeline
        { m with pipelines := m.pipelines ++ [pipeline] }

namespace Shared

/-- The result of a request that was made in the state `s`, and the state that it leaves behind.
What it has to make of the store is told by `effect`, and `writes` tells whether it is to rebuild
the agenda after that. -/
inductive Outcome (s : Shared) {α : Type} (writes : Bool) (effect : α → Memory → Prop) :
    Except RequestError α → Shared → Prop
  | succeeded {v : α} {s' : Shared} (changed : effect v s'.memory)
      (shown : writes = true → s'.agenda.Registers s'.memory.scheduled)
      (kept : writes = false → s'.agenda = s.agenda) : Outcome s writes effect (.ok v) s'
  | failed {e : RequestError} {s' : Shared} (early : e.isReload = false)
      (memory : s'.memory = s.memory) (agenda : s'.agenda = s.agenda) :
      Outcome s writes effect (.error e) s'
  /-- The store failed to tell what it is to run. -/
  | unfetched {v : α} {e : StoreError} {s' : Shared} (hwrites : writes = true)
      (changed : effect v s'.memory) (agenda : s'.agenda = s.agenda) :
      Outcome s writes effect (.error (.reload (.store e))) s'
  /-- The engine refused an entry. -/
  | refused {v : α} {id : Uuid} {source : CronError} {s' : Shared} (hwrites : writes = true)
      (changed : effect v s'.memory) (agenda : s'.agenda.Cleared) :
      Outcome s writes effect (.error (.reload (.schedule id source))) s'

/-! ## Knowledge of the state -/

/-- The protocol whose stages tell what is known of the state. All calls are allowed. The replies
are those of states with the settings of the given store. -/
def knowledge (registry : Registry) (k : Nat) (m : Memory) : Protocol (Shared → Prop) where
  Replies c reply :=
    ∃ s s' : Shared, s.memory.metrics = m.metrics ∧ s.Responds registry k c reply s'
  Next S c reply S' := ∀ s s' : Shared, S s → s.Responds registry k c reply s' → S' s'

variable {registry : Registry} {k : Nat} {m : Memory}

open Program (Obeys)

/-- What is known of the state is true of it. -/
theorem Performs.of_obeys {α : Type} {p : Program α} {S : Shared → Prop}
    {post : (Shared → Prop) → α → Prop} {s s' : Shared} {a : α}
    (hobeys : p.Obeys (knowledge registry k m) S post) (h : Performs registry k p s a s')
    (hS : S s) (hm : s.memory.metrics = m.metrics) : ∃ S', post S' a ∧ S' s' := by
  induction h generalizing S with
  | done => exact ⟨S, hobeys, hS⟩
  | call h hrest ih =>
    obtain ⟨S', hnext, hobeys'⟩ := hobeys _ ⟨_, _, hm, h⟩
    exact ih hobeys' (hnext _ _ hS h) (h.metrics.trans hm)

theorem knowledge_ignores (S : Shared → Prop) :
    (knowledge registry k m).Ignores S Call.isLookup := by
  intro c hc reply s s' hS h
  rw [h.eq_of_isLookup hc]
  exact hS

/-- A plan that is composed by replies is derived from the store. -/
theorem planDerived_of_composes {b : Blueprint} {plan : Plan}
    (h : b.Composes (knowledge registry k m).Replies b.syncPolicy plan) :
    { b with plan }.PlanDerived registry m := by
  refine h.planDerived ?_ ?_
  · rintro project settings ⟨s, s', hm, hreply⟩
    rw [hreply.findMetrics]
    simp only [Memory.findMetrics, hm]
  · rintro request generated ⟨s, s', -, hreply⟩
    exact hreply.generatePlan

theorem completesOver_of_completes {b b' : Blueprint}
    (h : b.Completes (knowledge registry k m).Replies b') : b.CompletesOver registry m b' :=
  ⟨h.fields, h.advanced, fun hmode => planDerived_of_composes (h.normal hmode)⟩

/-! ## The rebuild -/

/-- How a rebuild after a change ends, by the agenda before it, and by the store and the agenda
after it. -/
inductive Reloaded (a : Agenda) (m : Memory) (a' : Agenda) : Except RequestError Unit → Prop
  | shown (h : a'.Registers m.scheduled) : Reloaded a m a' (.ok ())
  | unfetched {e : StoreError} (h : a' = a) : Reloaded a m a' (.error (.reload (.store e)))
  | refused {id : Uuid} {source : CronError} (h : a'.Cleared) :
      Reloaded a m a' (.error (.reload (.schedule id source)))

/-- The result of a rebuild, with its error as the one of a change. -/
def afterChange : Except RequestError Nat → Except RequestError Unit
  | .ok _ => .ok ()
  | .error e => .error (.reload e)

theorem Reloaded.of_rebuild {a : Agenda} (ha : a.Consistent) (m : Memory) (met : Surroundings) :
    Reloaded a m (a.rebuild met m.scheduled).2 (afterChange (a.rebuild met m.scheduled).1) := by
  rcases ha.rebuild_cases met m.scheduled with
    ⟨hresult, hregisters, -⟩ | ⟨i, b, source, -, -, -, hresult, hcleared⟩
  · rw [hresult]
    exact .shown hregisters
  · rw [hresult]
    exact .refused hcleared

/-- The blueprints that the store is to run are fetched, and the agenda is rebuilt for them. -/
theorem refresh_obeys_knowledge {a : Agenda} (ha : a.Consistent) (W : Memory → Prop) :
    (do
      match ← Program.ask (.findBlueprints .schedulable) with
      | .error e => return .error (.store e)
      | .ok (blueprints, _) => Program.ask (.rebuildAgenda blueprints) :
        Program (Except RequestError Nat)).Obeys (knowledge registry k m)
      (fun s => W s.memory ∧ s.agenda = a)
      fun S r => ∀ s, S s → W s.memory ∧ Reloaded a s.memory s.agenda (afterChange r) := by
  refine Obeys.bind (Q := fun S reply => S = fun s => (W s.memory ∧ s.agenda = a) ∧
    ∀ found, reply = .ok found → found.1 = s.memory.scheduled)
    (Obeys.ask fun reply _ => ⟨_, ?_, rfl⟩) ?_
  · intro s s' hS h
    obtain ⟨rfl, hfound⟩ := h.findBlueprints
    refine ⟨hS, ?_⟩
    rintro found rfl
    rw [hfound found rfl, Memory.findBlueprints_schedulable]
  · rintro _ (e | ⟨bs, n⟩) rfl
    · exact Obeys.done fun s hs => ⟨hs.1.1, .unfetched hs.1.2⟩
    · refine Obeys.ask fun reply _ =>
        ⟨fun s => W s.memory ∧ Reloaded a s.memory s.agenda (afterChange reply), ?_,
          fun s hs => hs⟩
      rintro s s' ⟨⟨hW, rfl⟩, hbs⟩ h
      obtain ⟨met, rfl, rfl⟩ := h.rebuildAgenda
      obtain rfl : bs = s.memory.scheduled := hbs _ rfl
      exact ⟨hW, .of_rebuild ha s.memory met⟩

/-- A rebuild leaves the store as it is, and the agenda as told by its result. -/
theorem reload_obeys_knowledge {a : Agenda} (ha : a.Consistent) (W : Memory → Prop) :
    Service.reload.run.Obeys (knowledge registry k m) (fun s => W s.memory ∧ s.agenda = a)
      fun S r => ∀ s, S s → W s.memory ∧ Reloaded a s.memory s.agenda r := by
  let known (r : Except RequestError Unit) (s : Shared) : Prop :=
    W s.memory ∧ Reloaded a s.memory s.agenda r
  rw [Service.reload]
  refine Obeys.bind (Q := fun S r => ∀ s, S s → known (afterChange r) s) ?_ ?_
  · rw [Service.reconcile, Service.holdingAgenda]
    refine Obeys.bind (Q := fun S _ => S = fun s => W s.memory ∧ s.agenda = a)
      (Obeys.ask fun _ _ => ⟨_, ?_, rfl⟩) ?_
    · rintro s s' ⟨hW, rfl⟩ h
      obtain ⟨hmemory, hagenda⟩ := h.lockAgenda
      exact ⟨hmemory ▸ hW, hagenda⟩
    rintro _ _ rfl
    refine (refresh_obeys_knowledge ha W).bind ?_
    intro S r hS
    refine Obeys.bind (Q := fun S _ => S = known (afterChange r))
      (Obeys.ask fun _ _ => ⟨_, ?_, rfl⟩) ?_
    · intro s s' hs h
      obtain ⟨hmemory, hagenda⟩ := h.unlockAgenda
      have hknown := hS s hs
      change W s'.memory ∧ Reloaded a s'.memory s'.agenda (afterChange r)
      rw [hmemory, hagenda]
      exact hknown
    · rintro _ _ rfl
      exact Obeys.done fun s hs => hs
  · rintro S (e | n) hS
    · exact Obeys.done hS
    · exact Obeys.done hS

/-! ## The commands -/

variable {s₀ : Shared}

/-- The store and the agenda are as in the state `s₀`. -/
def Same (s₀ s : Shared) : Prop :=
  s.memory = s₀.memory ∧ s.agenda = s₀.agenda

theorem Outcome.of_same {α : Type} {writes : Bool} {effect : α → Memory → Prop} {s : Shared}
    {e : RequestError} (h : Same s₀ s) (he : e.isReload = false) :
    Outcome s₀ writes effect (.error e) s :=
  .failed he h.1 h.2

theorem Outcome.of_reloaded {α : Type} {effect : α → Memory → Prop} {v : α} {s : Shared}
    {r : Except RequestError Unit} (h : effect v s.memory)
    (hreloaded : Reloaded s₀.agenda s.memory s.agenda r) :
    Outcome s₀ true effect (r.map fun _ => v) s := by
  cases hreloaded with
  | shown hshown => exact .succeeded h (fun _ => hshown) (by rintro ⟨⟩)
  | unfetched hkept => exact .unfetched rfl h hkept
  | refused hcleared => exact .refused rfl h hcleared

/-- A drafted blueprint is validated and stored, and the agenda is rebuilt. -/
theorem save_drafted_obeys_knowledge {b : Blueprint} {S : Shared → Prop}
    {effect : Blueprint → Memory → Prop} (ha : s₀.agenda.Consistent)
    (hsame : ∀ s, S s → Same s₀ s)
    (heffect : ∀ s b', S s → b.CompletesOver registry s₀.memory b' →
      effect b' { s₀.memory with blueprints := s₀.memory.blueprints.insert b'.id b' }) :
    (do
      let b ← b.validated
      Service.save b
      Service.reload
      return b : Request Blueprint).run.Obeys (knowledge registry k s₀.memory) S
        fun S r => ∀ s, S s → Outcome s₀ true effect r s := by
  refine Obeys.andThen (b.validated_obeys (knowledge_ignores S)) ?_ ?_
  · rintro S b' ⟨rfl, hpasses⟩
    have hcompletes := completesOver_of_completes hpasses.toCompletes
    refine Obeys.andThen
      (Q := fun (S' : Shared → Prop) r => match r with
        | .ok _ => S' = fun s => effect b' s.memory ∧ s.agenda = s₀.agenda
        | .error e => e.isReload = false ∧ ∀ s, S' s → Same s₀ s)
      (Service.save_obeys (fun _ => ⟨_, ?_, rfl⟩) fun e => ?_) ?_ ?_
    · intro s s' hs h
      obtain ⟨hmemory, hagenda⟩ := hsame s hs
      rw [h.saveBlueprint_ok]
      refine ⟨?_, hagenda⟩
      change effect b' { s.memory with blueprints := s.memory.blueprints.insert b'.id b' }
      rw [hmemory]
      exact heffect s b' hs hcompletes
    · refine ⟨S, ?_, knowledge_ignores S, fun e he => ⟨he, hsame⟩⟩
      intro s s' hs h
      rw [h.saveBlueprint_error]
      exact hs
    · rintro _ u rfl
      refine Obeys.andThen (reload_obeys_knowledge ha (effect b')) ?_ ?_
      · intro S' u hS'
        exact Obeys.pure fun s hs => .of_reloaded (hS' s hs).1 (hS' s hs).2
      · intro S' e hS' s hs
        exact .of_reloaded (v := b') (hS' s hs).1 (hS' s hs).2
    · rintro S' e ⟨he, hS'⟩ s hs
      exact .of_same (hS' s hs) he
  · rintro _ e ⟨rfl, he⟩ s hs
    exact .of_same (hsame s hs) he

theorem create_obeys_knowledge (hs₀ : s₀.Sound) (d : Draft) :
    (Command.create d).program.Obeys (knowledge registry k s₀.memory) (fun s => s = s₀)
      fun S r => ∀ s, S s →
        Outcome s₀ true ((Command.create d).Effect registry s₀.memory) r s := by
  change (Service.create d).run.Obeys _ _ _
  rw [Service.create]
  refine Obeys.andThen
    (Q := fun S r => ∃ id, r = .ok id ∧ S = fun s => Same s₀ s ∧ id ∉ s₀.issued)
    (Obeys.always (Obeys.ask fun id _ => ⟨_, ?_, id, rfl, rfl⟩)) ?_ (by rintro S e ⟨id, ⟨⟩, -⟩)
  · rintro s s' rfl h
    obtain ⟨hmemory, hagenda, hfresh, -⟩ := h.freshId
    exact ⟨⟨hmemory, hagenda⟩, hfresh⟩
  rintro _ id ⟨_, ⟨⟩, rfl⟩
  refine Obeys.andThen
    (Q := fun S r => ∃ t, r = .ok t ∧ S = fun s => Same s₀ s ∧ id ∉ s₀.issued)
    (Obeys.always (Obeys.ask fun t _ => ⟨_, ?_, t, rfl, rfl⟩)) ?_ (by rintro S e ⟨t, ⟨⟩, -⟩)
  · intro s s' hs h
    rw [h.now]
    exact hs
  rintro _ t ⟨_, ⟨⟩, rfl⟩
  refine save_drafted_obeys_knowledge hs₀.consistent (fun s hs => hs.1) ?_
  rintro s b' ⟨-, hfresh⟩ hcompletes
  have hid : b'.id = id := by
    rw [hcompletes.fields]
    rfl
  -- An identifier that is not in use is not the one of a stored blueprint.
  have hnew : s₀.memory.findBlueprint id = none := by
    by_contra hstored
    obtain ⟨b, hb⟩ := Option.ne_none_iff_exists'.1 hstored
    exact hfresh (hs₀.issued id b hb)
  rw [hid]
  exact .create hnew hid hcompletes

/-- The blueprint that a request has got is the one that is stored. -/
theorem get_obeys_knowledge (id : Uuid) :
    (Service.get id).run.Obeys (knowledge registry k s₀.memory) (fun s => s = s₀)
      fun S r => match r with
        | .ok b => S = fun s => Same s₀ s ∧ s₀.memory.findBlueprint id = some b
        | .error e => e.isReload = false ∧ ∀ s, S s → Same s₀ s := by
  refine Service.get_obeys (fun b _ => ⟨_, ?_, rfl⟩) fun reply => ?_
  · rintro s s' rfl h
    obtain ⟨rfl, hfound⟩ := h.findBlueprint
    exact ⟨⟨rfl, rfl⟩, hfound b rfl⟩
  · refine ⟨fun s => s = s₀, ?_, fun e he => ⟨he, ?_⟩⟩
    · rintro s s' rfl h
      exact h.findBlueprint.1
    · rintro s rfl
      exact ⟨rfl, rfl⟩

theorem patch_obeys_knowledge (hs₀ : s₀.Sound) (id : Uuid) (p : Patch) :
    (Command.patch id p).program.Obeys (knowledge registry k s₀.memory) (fun s => s = s₀)
      fun S r => ∀ s, S s →
        Outcome s₀ true ((Command.patch id p).Effect registry s₀.memory) r s := by
  change (Service.patch id p).run.Obeys _ _ _
  rw [Service.patch]
  refine Obeys.andThen (get_obeys_knowledge id) ?_ ?_
  · rintro _ old rfl
    split
    · exact Obeys.throw fun s hs => .of_same hs.1 rfl
    · refine Obeys.andThen
        (Q := fun S r => ∃ t, r = .ok t ∧
          S = fun s => Same s₀ s ∧ s₀.memory.findBlueprint id = some old)
        (Obeys.always (Obeys.ask fun t _ => ⟨_, ?_, t, rfl, rfl⟩)) ?_
        (by rintro S e ⟨t, ⟨⟩, -⟩)
      · intro s s' hs h
        rw [h.now]
        exact hs
      rintro _ t ⟨_, ⟨⟩, rfl⟩
      refine save_drafted_obeys_knowledge hs₀.consistent (fun s hs => hs.1) ?_
      rintro s b' ⟨-, hold⟩ hcompletes
      have hid : b'.id = id := by
        rw [hcompletes.fields]
        exact hs₀.keyed id old hold
      rw [hid]
      exact .patch hold hid hcompletes
  · rintro S e ⟨he, hS⟩ s hs
    exact .of_same (hS s hs) he

theorem delete_obeys_knowledge (hs₀ : s₀.Sound) (id : Uuid) :
    (Command.delete id).program.Obeys (knowledge registry k s₀.memory) (fun s => s = s₀)
      fun S r => ∀ s, S s →
        Outcome s₀ true ((Command.delete id).Effect registry s₀.memory) r s := by
  change (Service.delete id).run.Obeys _ _ _
  rw [Service.delete]
  refine Obeys.andThen
    (Q := fun (S : Shared → Prop) r => match r with
      | .ok true => S = fun s =>
          (Command.delete id).Effect registry s₀.memory () s.memory ∧ s.agenda = s₀.agenda
      | .ok false => ∀ s, S s → Same s₀ s
      | .error e => e.isReload = false ∧ ∀ s, S s → Same s₀ s)
    (Obeys.store (Obeys.ask fun reply _ => ?_)) ?_ ?_
  · have hsame (hreply : reply ≠ .ok true) : (knowledge registry k s₀.memory).Next
        (fun s => s = s₀) (.deleteBlueprint id) reply (Same s₀) := by
      rintro s s' rfl h
      rcases h.deleteBlueprint with ⟨b, -, hfound, -⟩ | ⟨-, rfl⟩
      · exact absurd hfound hreply
      · exact ⟨rfl, rfl⟩
    match reply with
    | .ok true =>
      refine ⟨_, ?_, rfl⟩
      rintro s s' rfl h
      rcases h.deleteBlueprint with ⟨b, hb, -, rfl⟩ | ⟨hne, -⟩
      · exact ⟨.delete hb, rfl⟩
      · exact absurd rfl hne
    | .ok false => exact ⟨Same s₀, hsame (by simp), fun s hs => hs⟩
    | .error e => exact ⟨Same s₀, hsame (by simp), rfl, fun s hs => hs⟩
  · intro S found hS
    cases found with
    | false => exact Obeys.throw fun s hs => .of_same (hS s hs) rfl
    | true =>
      obtain rfl := hS
      refine (reload_obeys_knowledge hs₀.consistent
        ((Command.delete id).Effect registry s₀.memory ())).mono ?_
      intro S' r hS' s hs
      have houtcome := Outcome.of_reloaded (v := ()) (hS' s hs).1 (hS' s hs).2
      cases r with
      | ok u => exact houtcome
      | error e => exact houtcome
  · rintro S e ⟨he, hS⟩ s hs
    exact .of_same (hS s hs) he

theorem trigger_obeys_knowledge (id : Uuid) (asked : SyncPolicy) :
    (Command.trigger id asked).program.Obeys (knowledge registry k s₀.memory) (fun s => s = s₀)
      fun S r => ∀ s, S s →
        Outcome s₀ false ((Command.trigger id asked).Effect registry s₀.memory) r s := by
  change (Service.trigger id asked).run.Obeys _ _ _
  rw [Service.trigger]
  refine Obeys.andThen (get_obeys_knowledge id) ?_ ?_
  · rintro _ old rfl
    refine Blueprint.run_obeys _ _ (knowledge_ignores _) ?_ ?_
    · intro plan hplan hne reply
      refine ⟨fun s => Outcome s₀ false ((Command.trigger id asked).Effect registry s₀.memory)
        (reply.mapError (.submit old.id old.name)) s, ?_, fun s hs => hs⟩
      rintro s s' ⟨⟨hmemory, hagenda⟩, hold⟩ h
      rcases h.submitPipeline with ⟨pipelineId, t, rfl, hmemory', hagenda'⟩ | ⟨⟨e, rfl⟩, rfl⟩
      · refine .succeeded ?_ (by rintro ⟨⟩) fun _ => hagenda'.trans hagenda
        rw [hmemory', hmemory]
        exact .trigger hold rfl hplan.advanced
          (fun hmode => planDerived_of_composes (hplan.normal hmode)) hne rfl
      · exact .failed rfl hmemory hagenda
    · rintro e he s ⟨hsame, -⟩
      exact .of_same hsame he
  · rintro S e ⟨he, hS⟩ s hs
    exact .of_same (hS s hs) he

/-- In every state that is reached, a request to create, patch, delete or run a blueprint leaves one
of three states behind if nothing else happens, whatever calls of it fail. After a success just what
is asked for has changed, and the agenda registers what the new store is to run, if the request is
one that changes blueprints. After an error that is not the one of a rebuild the store and the
agenda are as before. After the error of a rebuild just what is asked for has changed, and the
agenda is as before, if the blueprints could not be fetched, or else empty and stopped. -/
theorem Reached.request_outcome {s s' : Shared} (hs : Reached registry s) {c : Command}
    (hc : c.writes = true ∨ ∃ id asked, c = .trigger id asked)
    {result : Except RequestError c.Value} (h : Performs registry k c.program s result s') :
    Outcome s c.writes (c.Effect registry s.memory) result s' := by
  have houtcome {post : (Shared → Prop) → Except RequestError c.Value → Prop}
      (hobeys : c.program.Obeys (knowledge registry k s.memory) (fun x => x = s) post) :
      ∃ S, post S result ∧ S s' := h.of_obeys hobeys rfl rfl
  cases c with
  | create d =>
    obtain ⟨S, hS, hs'⟩ := houtcome (create_obeys_knowledge hs.sound d)
    exact hS s' hs'
  | patch id p =>
    obtain ⟨S, hS, hs'⟩ := houtcome (patch_obeys_knowledge hs.sound id p)
    exact hS s' hs'
  | delete id =>
    obtain ⟨S, hS, hs'⟩ := houtcome (delete_obeys_knowledge hs.sound id)
    exact hS s' hs'
  | trigger id asked =>
    obtain ⟨S, hS, hs'⟩ := houtcome (trigger_obeys_knowledge id asked)
    exact hS s' hs'
  | _ =>
    rcases hc with hc | ⟨id, asked, hc⟩
    · cases hc
    · cases hc

/-- A stored blueprint is deleted, and then the blueprints to rebuild the agenda for cannot be
fetched. -/
theorem performs_delete_unfetched {s : Shared} {id : Uuid} {b : Blueprint}
    (hb : s.memory.findBlueprint id = some b) (hfree : s.holder = none) (e : StoreError) :
    ∃ s', Performs registry k (Command.delete id).program s (.error (.reload (.store e))) s' := by
  let deleted : Shared := { s with memory := s.memory.deleteBlueprint id }
  let held : Shared := { deleted with holder := some k }
  have hdelete : s.Responds registry k (.deleteBlueprint id) (.ok true) deleted := by
    refine .answers ⟨id, fun _ => s.clock⟩ ?_
    rw [answer, hb]
    rfl
  have hlock : deleted.Responds registry k .lockAgenda () held := by
    refine .answers ⟨id, fun _ => s.clock⟩ ?_
    rw [answer, if_pos hfree]
  have hunlock : held.Responds registry k .unlockAgenda () { held with holder := none } :=
    .answers ⟨id, fun _ => s.clock⟩ rfl
  exact ⟨_, .call hdelete (.call hlock (.call (.fails (.findBlueprints e)) (.call hunlock .done)))⟩

end Shared

namespace Sample

/-- A request creates a blueprint and is carried on to its end. -/
def creation : Run {} :=
  .ofActions {} empty (.arrive (.create midnightly) :: List.replicate 7 (.proceed 0 chance))
    empty_initial (by decide +kernel)

end Sample

namespace Shared

theorem creation_undone : ∃ s', Performs {} 1 (Command.delete (.ofNat 1)).program
      (Sample.creation.state 8).shared (.error (.reload (.store (.unavailable "down")))) s' ∧
    s'.memory.findBlueprint (.ofNat 1) = none ∧ s'.agenda.owners.values = [.ofNat 1] := by
  have hstored : ((Sample.creation.memory 8).findBlueprint (.ofNat 1)).isSome = true := by
    decide +kernel
  have hfree : (Sample.creation.state 8).shared.holder = none := by
    decide +kernel
  have hshown : (Sample.creation.agenda 8).owners.values = [.ofNat 1] := by
    decide +kernel
  obtain ⟨b, hb⟩ := Option.isSome_iff_exists.1 hstored
  obtain ⟨s', hperforms⟩ : ∃ s', Performs {} 1 (Command.delete (.ofNat 1)).program
      (Sample.creation.state 8).shared (.error (.reload (.store (.unavailable "down")))) s' :=
    performs_delete_unfetched hb hfree _
  refine ⟨s', hperforms, ?_⟩
  have houtcome := (Sample.creation.reached 8).request_outcome (.inl rfl) hperforms
  cases houtcome with
  | failed early => cases early
  | unfetched _ changed kept =>
    rw [kept]
    refine ⟨?_, hshown⟩
    generalize s'.memory = m at changed
    cases changed with
    | delete hold => exact Table.find?_erase_self _ _

end Shared

end Ingestion
