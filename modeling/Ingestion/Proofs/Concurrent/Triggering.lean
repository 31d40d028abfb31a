import Mathlib
import Ingestion.Plugin.Catalog
import Ingestion.Proofs.Concurrent.Ownership
import Ingestion.Proofs.Concurrent.Validity
import Ingestion.Proofs.Request.Running

/-!
# Triggered by hand or by the agenda

Three paths lead to the plan of a blueprint: validation composes it before the blueprint is saved,
the entry of the agenda composes it for the blueprint that it was registered with, and a trigger by
hand for the blueprint that it reads. While the agenda is current the last two come to the same
(`Run.triggered_alike`), and while the settings of the project stay the same they also come to what
is stored.

What a run of a blueprint comes to depends only on the blueprint and the settings of the store
(`Blueprint.outcome`). Both paths are compared with that.
-/

namespace Ingestion

/-! ## What a run comes to -/

namespace Blueprint

/-- The settings of the blueprint's project that a store holds, none if it has no project. -/
def settingsIn (b : Blueprint) (m : Memory) : List MetricSetting :=
  if b.hasProject then m.findMetrics b.projectName else []

/-- The plan that is composed for a blueprint with given settings. -/
def composedPlan (registry : Registry) (b : Blueprint) (policy : SyncPolicy)
    (settings : List MetricSetting) : Except PlanError Plan :=
  (registry.generate (b.planRequest policy settings)).map b.wrapPlan

/-- The plan that a run of a blueprint carries out with given settings. -/
def runnablePlan (registry : Registry) (b : Blueprint) (policy : SyncPolicy)
    (settings : List MetricSetting) : Except RequestError Plan :=
  match b.mode with
  | .normal => (b.composedPlan registry policy settings).mapError (.plan b.id b.name)
  | .advanced => .ok b.plan

/-- The pipeline that a run of a blueprint submits if its plan is worth running. -/
def submission (b : Blueprint) (policy : SyncPolicy) (plan : Plan) :
    Except RequestError NewPipeline :=
  if plan.isEmpty then .error .emptyPlan else .ok (b.newPipeline policy plan)

/-- What a run of a blueprint comes to with given settings: the pipeline that it submits, or its
error. -/
def outcome (registry : Registry) (b : Blueprint) (policy : SyncPolicy)
    (settings : List MetricSetting) : Except RequestError NewPipeline :=
  (b.runnablePlan registry policy settings).bind (b.submission policy)

end Blueprint

/-! ## Carrying out a run -/

namespace Shared

variable {registry : Registry} {k : Nat} {chance : Chance} {s : Shared}

/-- The store after a run that came to an outcome, and what the run gives back. -/
def submitted (s : Shared) (chance : Chance) :
    Except RequestError NewPipeline → Except RequestError Pipeline × Shared
  | .error e => (.error e, s)
  | .ok p =>
    let pipeline := p.toPipeline chance.id s.clock
    (.ok pipeline,
      { s with memory := s.memory.addPipeline pipeline, issued := chance.id :: s.issued })

/-- Surroundings that look up in the store what is looked up, and generate plans by `generate`. -/
structure LooksUp (answer : (c : Call) → StateT Shared Option c.Reply)
    (generate : PlanRequest → Except PlanError Plan) : Prop where
  findBlueprint (id : Uuid) (s : Shared) :
    answer (.findBlueprint id) s = some (.ok (s.memory.findBlueprint id), s)
  findMetrics (project : String) (s : Shared) :
    answer (.findMetrics project) s = some (.ok (s.memory.findMetrics project), s)
  generatePlan (request : PlanRequest) (s : Shared) :
    answer (.generatePlan request) s = some (generate request, s)

namespace LooksUp

variable {answer : (c : Call) → StateT Shared Option c.Reply}
  {generate : PlanRequest → Except PlanError Plan}

theorem run_metrics (h : LooksUp answer generate) (b : Blueprint) (s : Shared) :
    b.metrics.run answer s = some (.ok (b.settingsIn s.memory), s) := by
  unfold Blueprint.metrics Blueprint.settingsIn
  split
  · rw [Program.run_ask]
    exact h.findMetrics _ s
  · rfl

theorem run_composePlan (h : LooksUp answer generate) (b : Blueprint) (policy : SyncPolicy)
    (s : Shared) : (b.composePlan policy).run answer s =
      some ((generate (b.planRequest policy (b.settingsIn s.memory))).map b.wrapPlan, s) := by
  let request := b.planRequest policy (b.settingsIn s.memory)
  unfold Blueprint.composePlan
  rw [Program.run_bind]
  show (b.metrics.run answer s).bind _ = _
  rw [h.run_metrics, Option.bind_some]
  show Program.run answer (Program.ask (.generatePlan request) >>= _) s = _
  rw [Program.run_bind, Program.run_ask]
  show (answer (.generatePlan request) s).bind _ = _
  rw [h.generatePlan, Option.bind_some]
  cases generate request with
  | error e => rfl
  | ok generated => rfl

/-- A lookup of a blueprint by its identifier. -/
theorem run_findBlueprint (h : LooksUp answer generate) (id : Uuid) (s : Shared) :
    Program.run answer (Request.store (Program.ask (.findBlueprint id))).run s =
      some (.ok (s.memory.findBlueprint id), s) := by
  refine Request.run_lift (r := .ok (s.memory.findBlueprint id)) ?_
  rw [Program.run_ask]
  exact h.findBlueprint id s

theorem run_get (h : LooksUp answer generate) {id : Uuid} {b : Blueprint} {s : Shared}
    (hb : s.memory.findBlueprint id = some b) :
    Program.run answer (Service.get id).run s = some (.ok b, s) := by
  unfold Service.get
  rw [Request.run_andThen (h.run_findBlueprint id s), hb]
  rfl

end LooksUp

theorem looksUp (registry : Registry) (k : Nat) (chance : Chance) :
    LooksUp (fun c s => s.answer registry k chance c) registry.generate :=
  ⟨fun _ _ => rfl, fun _ _ => rfl, fun _ _ => rfl⟩

theorem perform_bind {α β : Type} (p : Program α) (f : α → Program β) (s : Shared) :
    perform registry k chance (p >>= f) s =
      (perform registry k chance p s).bind fun x => perform registry k chance (f x.1) x.2 := by
  rw [perform, Program.run_bind]
  rfl

theorem perform_ask (c : Call) :
    perform registry k chance (Program.ask c) s = s.answer registry k chance c := by
  rw [perform, Program.run_ask]

/-- A request after a request that succeeds. -/
theorem perform_andThen {α β : Type} {x : Request α} {f : α → Request β} {a : α} {s' : Shared}
    (h : perform registry k chance x.run s = some (.ok a, s')) :
    perform registry k chance (x >>= f).run s = perform registry k chance (f a).run s' :=
  Request.run_andThen h

/-- A request after a request that fails. -/
theorem perform_andThen_error {α β : Type} {x : Request α} {f : α → Request β} {e : RequestError}
    {s' : Shared} (h : perform registry k chance x.run s = some (.error e, s')) :
    perform registry k chance (x >>= f).run s = some (.error e, s') :=
  Request.run_andThen_error h

theorem perform_lift {ε α : Type} {wrap : ε → RequestError} {p : Program (Except ε α)}
    {r : Except ε α} {s' : Shared} (h : perform registry k chance p s = some (r, s')) :
    perform registry k chance (Request.lift wrap p).run s = some (r.mapError wrap, s') :=
  Request.run_lift h

theorem perform_composePlan (b : Blueprint) (policy : SyncPolicy) :
    perform registry k chance (b.composePlan policy) s =
      some (b.composedPlan registry policy (b.settingsIn s.memory), s) :=
  (looksUp registry k chance).run_composePlan b policy s

theorem perform_runPlan (b : Blueprint) (policy : SyncPolicy) :
    perform registry k chance (b.runPlan policy).run s =
      some (b.runnablePlan registry policy (b.settingsIn s.memory), s) := by
  unfold Blueprint.runPlan Blueprint.runnablePlan
  cases b.mode with
  | normal => exact perform_lift (perform_composePlan b policy)
  | advanced => rfl

/-- A pipeline is submitted under an identifier that is not in use. -/
theorem perform_submit (hfresh : chance.id ∉ s.issued) (p : NewPipeline)
    (wrap : StoreError → RequestError) :
    perform registry k chance (Request.lift wrap (Program.ask (.submitPipeline p))).run s =
      some (s.submitted chance (.ok p)) := by
  have hanswer : s.answer registry k chance (.submitPipeline p) =
      some (.ok (p.toPipeline chance.id s.clock),
        { s with
          memory := s.memory.addPipeline (p.toPipeline chance.id s.clock)
          issued := chance.id :: s.issued }) := by
    rw [answer, if_neg hfresh]
  exact perform_lift ((perform_ask _).trans hanswer)

/-- A run of a blueprint comes to its outcome with the settings of the store. -/
theorem perform_run (hfresh : chance.id ∉ s.issued) (b : Blueprint) (policy : SyncPolicy) :
    perform registry k chance (b.run policy).run s =
      some (s.submitted chance (b.outcome registry policy (b.settingsIn s.memory))) := by
  have hplan : perform registry k chance (b.runPlan policy).run s =
      some (b.runnablePlan registry policy (b.settingsIn s.memory), s) :=
    perform_runPlan b policy
  unfold Blueprint.run Blueprint.outcome
  cases hp : b.runnablePlan registry policy (b.settingsIn s.memory) with
  | error e =>
    rw [hp] at hplan
    exact perform_andThen_error hplan
  | ok plan =>
    rw [hp] at hplan
    rw [perform_andThen hplan]
    show _ = some (s.submitted chance (b.submission policy plan))
    unfold Blueprint.submission
    split
    · rfl
    · exact perform_submit hfresh (b.newPipeline policy plan) _

theorem perform_get {id : Uuid} {b : Blueprint} (hb : s.memory.findBlueprint id = some b) :
    perform registry k chance (Service.get id).run s = some (.ok b, s) :=
  (looksUp registry k chance).run_get hb

/-- A trigger by hand that asks for the own policy of the blueprint runs it as it is stored. -/
theorem perform_trigger (hfresh : chance.id ∉ s.issued) {b : Blueprint}
    (hb : s.memory.findBlueprint b.id = some b) :
    perform registry k chance (Service.trigger b.id b.syncPolicy).run s =
      some (s.submitted chance (b.outcome registry b.syncPolicy (b.settingsIn s.memory))) := by
  unfold Service.trigger
  rw [perform_andThen (perform_get hb)]
  exact perform_run hfresh b b.syncPolicy

end Shared

/-- A plan that is derived from a store is the one that is composed with the settings of the
store. -/
theorem Blueprint.PlanDerived.composedPlan_eq {registry : Registry} {m : Memory} {b : Blueprint}
    (h : b.PlanDerived registry m) :
    b.composedPlan registry b.syncPolicy (b.settingsIn m) = .ok b.plan := by
  obtain ⟨generated, hgenerated, hplan⟩ := h
  rw [composedPlan, settingsIn, hgenerated, hplan]
  rfl

/-- A blueprint whose plan is derived from a store is run with this plan on the settings of the
store. -/
theorem Blueprint.PlanDerived.outcome_eq {registry : Registry} {m : Memory} {b : Blueprint}
    (h : b.PlanDerived registry m) (hmode : b.mode = .normal) :
    b.outcome registry b.syncPolicy (b.settingsIn m) = b.submission b.syncPolicy b.plan := by
  rw [outcome, runnablePlan, hmode]
  dsimp only
  rw [h.composedPlan_eq]
  rfl

namespace Run

variable {registry : Registry} {r : Run registry}

/-! ## The last save of a blueprint -/

variable (r) in
/-- At the moment `w` the request `k` saves a blueprint, and nobody saves a version of it after that
before the moment `j`. For its plan the request has asked for the settings of its project, if it
has one, at the moment `v`. -/
structure LastSave (j w v k : Nat) (b : Blueprint) : Prop where
  lt : w < j
  save : r.Exchanges w k (.saveBlueprint b) (.ok ())
  last : ∀ w', w < w' → w' < j → ∀ k' b',
    r.Exchanges w' k' (.saveBlueprint b') (.ok ()) → b'.id ≠ b.id
  read_le : v ≤ w
  read : b.hasProject = true → r.Exchanges v k (.findMetrics b.projectName)
    (.ok ((r.memory v).findMetrics b.projectName))

/-- If the store is empty at first, what is stored has been saved before, and no version of it after
that. -/
theorem exists_last_save (hempty : (r.memory 0).blueprints = Table.empty) {j : Nat} {id : Uuid}
    {b : Blueprint} (h : (r.memory j).findBlueprint id = some b) :
    ∃ w < j, ∃ k, r.Exchanges w k (.saveBlueprint b) (.ok ()) ∧
      ∀ w', w < w' → w' < j → ∀ k' b', r.Exchanges w' k' (.saveBlueprint b') (.ok ()) →
        b'.id ≠ id := by
  induction j with
  | zero =>
    rw [Memory.findBlueprint, hempty, Table.find?_empty] at h
    cases h
  | succ j ih =>
    by_cases hsave : ∃ k b', r.Exchanges j k (.saveBlueprint b') (.ok ()) ∧ b'.id = id
    · obtain ⟨k, b', hsave, rfl⟩ := hsave
      have hb : b' = b := Option.some.inj (hsave.stored_next.symm.trans h)
      rw [hb] at hsave
      refine ⟨j, Nat.lt_succ_self j, k, hsave, ?_⟩
      intro w' hw hw'
      omega
    · rcases stored_cases h with h | ⟨k, hk, hid⟩
      · obtain ⟨w, hw, k, hk, hlast⟩ := ih h
        refine ⟨w, Nat.lt_succ_of_lt hw, k, hk, ?_⟩
        intro w' hww hw' k' b' he hid
        rcases Nat.lt_succ_iff_lt_or_eq.1 hw' with hw' | rfl
        · exact hlast w' hww hw' k' b' he hid
        · exact hsave ⟨k', b', he, hid⟩
      · exact absurd ⟨k, b, hk, hid⟩ hsave

/-- A blueprint that is stored in mode `NORMAL` has the plan that is derived from the store as its
last save has found it. -/
theorem exists_derived_save (hempty : (r.memory 0).blueprints = Table.empty) {j : Nat} {id : Uuid}
    {b : Blueprint} (h : (r.memory j).findBlueprint id = some b) (hmode : b.mode = .normal) :
    ∃ w v k, r.LastSave j w v k b ∧ b.PlanDerived registry (r.memory v) := by
  obtain ⟨w, hw, k, hsave, hlast⟩ := exists_last_save hempty h
  obtain ⟨v, hvw, hderived, hread⟩ := hsave.save_derived hmode
  rw [← r.keyed j h] at hlast
  exact ⟨w, v, k, ⟨hw, hsave, hlast, hvw, hread⟩, hderived⟩

/-- If nobody puts settings between two moments, a blueprint has the same ones at both. -/
theorem settingsIn_eq {i j : Nat} (hij : i ≤ j)
    (h : ∀ x, i ≤ x → x < j → ∀ m, r.action x ≠ .putMetric m) (b : Blueprint) :
    b.settingsIn (r.memory j) = b.settingsIn (r.memory i) := by
  simp only [Blueprint.settingsIn, Memory.findMetrics, metrics_eq hij h]

/-! ## A current agenda -/

variable (r) in
/-- Before the moment `j` the agenda has been rebuilt, the last time with success and for what the
store held at some moment, and no blueprint has been written from that moment on. -/
def LastRebuildCurrent (j : Nat) : Prop :=
  ∃ f x, f < x ∧ x < j ∧
    (∃ k n, r.Exchanges x k (.rebuildAgenda (r.memory f).scheduled) (.ok n)) ∧
    r.NoRebuild (x + 1) j ∧ ∀ w, f ≤ w → w < j → ∀ k, ¬ r.Writes w k

/-- While no request is under way, the agenda is current if the last rebuild was successful. -/
theorem LastRebuildSucceeded.current {j : Nat} (h : r.LastRebuildSucceeded j)
    (hquiet : (r.state j).Quiet) : r.LastRebuildCurrent j := by
  obtain ⟨stage, f, hupkept⟩ := r.exists_upkept j
  obtain ⟨x, hxj, ⟨k, bs, n, he⟩, hlast⟩ := h
  obtain ⟨hfx, hrebuild, -⟩ := hupkept.upToDate.of_last hxj he hlast
  exact ⟨f, x, hfx, hxj, hrebuild, hlast, hupkept.no_write_of_quiet hquiet⟩

/-- An agenda that is current shows what the store is to run. -/
theorem LastRebuildCurrent.shows {j : Nat} (h : r.LastRebuildCurrent j) :
    (r.agenda j).Shows (r.memory j).scheduled := by
  obtain ⟨f, x, hfx, hxj, ⟨k, n, he⟩, hlast, hwrites⟩ := h
  have hsame : (r.memory j).blueprints = (r.memory f).blueprints :=
    r.blueprints_eq_of_no_write (hfx.trans hxj).le hwrites
  rw [Memory.scheduled, hsame]
  -- From the rebuild on nothing takes its place.
  have hupToDate : ∀ i, x + 1 ≤ i → i ≤ j → r.UpToDate i f := by
    intro i hi
    induction i, hi using Nat.le_induction with
    | base => exact fun _ => .inr ⟨x, he.rebuilt hfx⟩
    | succ i hi ih =>
      intro hij
      have hi' : r.UpToDate i f := ih (Nat.le_of_succ_le hij)
      exact hi'.succ (hlast i hi hij)
  obtain ⟨-, -, hshows⟩ := (hupToDate j hxj le_rfl).of_last hxj he hlast
  exact hshows

/-- The entries of an agenda that is current hold the blueprints as they are stored. -/
theorem LastRebuildCurrent.stored {j : Nat} (h : r.LastRebuildCurrent j) {e : Entry Blueprint}
    (he : e ∈ (r.agenda j).engine.entries) :
    (r.memory j).findBlueprint e.job.id = some e.job := by
  have hjob : e.job ∈ (r.memory j).scheduled := by
    rw [← h.shows.jobs]
    exact List.mem_map_of_mem he
  obtain ⟨⟨id, hstored⟩, -⟩ := Memory.mem_scheduled.1 hjob
  rw [r.keyed j hstored]
  exact hstored

end Run

/-! ## A blueprint of a project -/

namespace Sample

def apollo : Project where
  name := "apollo"
  createdAt := .midnight .epoch

def apolloDora : MetricSetting where
  projectName := apollo.name
  pluginName := "dora"
  option := .null
  enable := true

/-- A new blueprint that collects a repository for a project. -/
def collecting : Draft where
  name := "collecting"
  mode := .normal
  projectName := apollo.name
  cronConfig := "0 0 * * *"
  connections :=
    [{ pluginName := "gitlab", connectionId := 1, scopes := [{ scopeId := "lander" }] }]

/-- A metric is enabled for a project. Then a request creates the blueprint and is carried on to its
end. -/
def collectionActions : List Action :=
  [.addProject apollo, .putMetric apolloDora] ++
    .arrive (.create collecting) :: List.replicate 11 (.proceed 0 chance)

def collection : Run Catalog.registry :=
  .ofActions Catalog.registry empty collectionActions empty_initial (by decide +kernel)

theorem collection_quiet : (collection.state 14).Quiet := by
  decide +kernel

theorem collection_entry : ∃ e ∈ (collection.agenda 14).engine.entries,
    e.job.mode = .normal ∧ e.job.hasProject = true ∧ e.job.plan.isEmpty = false := by
  have h : (collection.agenda 14).engine.entries.any (fun e =>
      e.job.mode == .normal && (e.job.hasProject && !e.job.plan.isEmpty)) = true := by
    decide +kernel
  obtain ⟨e, he, h⟩ := List.any_eq_true.1 h
  rw [Bool.and_eq_true, Bool.and_eq_true, beq_iff_eq, Bool.not_eq_true'] at h
  exact ⟨e, he, h⟩

/-- Settings are put only before the request arrives. -/
theorem collection_no_setting {x : Nat} (hx : 2 ≤ x) (m : MetricSetting) :
    collection.action x ≠ .putMetric m := by
  have hnot : .putMetric m ∉ collectionActions.drop 2 := by simp [collectionActions]
  exact Run.ofActions_action_ne hnot (by rintro ⟨⟩) hx

end Sample

namespace Run

variable {registry : Registry} {r : Run registry}

/-- Let the store be without blueprints at first, and let the agenda be current, as is the case if
it has an entry while no request is under way (`lastRebuildSucceeded_of_mem`,
`LastRebuildSucceeded.current`). Then for every entry the run that it sets off and a trigger by hand
under the policy of the blueprint come to the same: to the same error, or to pipelines that differ
only in their identifiers and the times of their creation. If the plan of the blueprint is derived,
and the settings of its project are the same as when its last save asked for them, then this is the
outcome for the plan that is stored. -/
theorem triggered_alike (hempty : (r.memory 0).blueprints = Table.empty) {j : Nat}
    (hcurrent : r.LastRebuildCurrent j) {e : Entry Blueprint}
    (he : e ∈ (r.agenda j).engine.entries) :
    (r.memory j).findBlueprint e.job.id = some e.job ∧
      ∃ outcome : Except RequestError NewPipeline,
        (∀ (s : Shared) (k : Nat) (chance : Chance), s.memory = r.memory j →
          chance.id ∉ s.issued →
          Shared.perform registry k chance (Command.run e.job).program s =
              some (s.submitted chance outcome) ∧
            Shared.perform registry k chance
                (Command.trigger e.job.id e.job.syncPolicy).program s =
              some (s.submitted chance outcome)) ∧
        (e.job.mode = .normal → ∃ w v k, r.LastSave j w v k e.job ∧
          ((∀ x, v ≤ x → x < w → ∀ m, r.action x ≠ .putMetric m) →
            e.job.settingsIn (r.memory w) = e.job.settingsIn (r.memory v)) ∧
          (e.job.settingsIn (r.memory j) = e.job.settingsIn (r.memory v) →
            outcome = if e.job.plan.isEmpty then .error .emptyPlan
              else .ok (e.job.newPipeline e.job.syncPolicy e.job.plan))) := by
  have hstored := hcurrent.stored he
  refine ⟨hstored,
    e.job.outcome registry e.job.syncPolicy (e.job.settingsIn (r.memory j)), ?_, ?_⟩
  · intro s k chance hmemory hfresh
    rw [← hmemory] at hstored ⊢
    exact ⟨Shared.perform_run hfresh e.job e.job.syncPolicy, Shared.perform_trigger hfresh hstored⟩
  · intro hmode
    obtain ⟨w, v, k, hsave, hderived⟩ := exists_derived_save hempty hstored hmode
    refine ⟨w, v, k, hsave, fun hput => settingsIn_eq hsave.read_le hput e.job, ?_⟩
    intro hsettings
    rw [hsettings]
    exact hderived.outcome_eq hmode

theorem collection_triggered_alike : ∃ e ∈ (Sample.collection.agenda 14).engine.entries,
    e.job.mode = .normal ∧ e.job.hasProject = true ∧
    ∃ (p p' : Pipeline) (s s' : Shared),
      Shared.perform Catalog.registry 1 { Sample.chance with id := .ofNat 2 }
        (Command.run e.job).program (Sample.collection.state 14).shared = some (.ok p, s) ∧
      Shared.perform Catalog.registry 1 { Sample.chance with id := .ofNat 3 }
        (Command.trigger e.job.id e.job.syncPolicy).program (Sample.collection.state 14).shared =
          some (.ok p', s') ∧
      p.plan = e.job.plan ∧ p'.plan = e.job.plan := by
  obtain ⟨e, he, hmode, hproject, hnonempty⟩ := Sample.collection_entry
  have hcurrent : Sample.collection.LastRebuildCurrent 14 :=
    (lastRebuildSucceeded_of_mem he).current Sample.collection_quiet
  obtain ⟨-, outcome, hsame, hnormal⟩ := triggered_alike rfl hcurrent he
  obtain ⟨w, v, k, hsave, -, hplan⟩ := hnormal hmode
  -- The request for the settings comes after they have been put.
  have hv : 2 ≤ v := (hsave.read hproject).le_of_arrived (i := 2) (Nat.zero_le k)
  have hsettings := settingsIn_eq (hsave.read_le.trans hsave.lt.le)
    (fun x hx _ => Sample.collection_no_setting (hv.trans hx)) e.job
  have houtcome := hplan hsettings
  rw [hnonempty] at houtcome
  rw [houtcome] at hsame
  have hrun := (hsame (Sample.collection.state 14).shared 1 { Sample.chance with id := .ofNat 2 }
    rfl (by decide +kernel)).1
  have htrigger := (hsame (Sample.collection.state 14).shared 1
    { Sample.chance with id := .ofNat 3 } rfl (by decide +kernel)).2
  exact ⟨e, he, hmode, hproject, _, _, _, _, hrun, htrigger, rfl, rfl⟩

end Run

end Ingestion
