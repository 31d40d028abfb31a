import Mathlib
import Ingestion.Http.Handler
import Ingestion.Proofs.Simulation.Alike

/-!
# What clients learn of failures

Clients are told the same of all internal errors, so the layers that wrap the failure of a store
need not matter to them. What has to be shown is that no part of a request lets a failure through as
anything but an internal error, or goes on differently after it. This is done part by part
(`Request.Discreet`), from the composition of plans up to the routes (`Http.handle_alike`).
-/

namespace Ingestion

/-- Clients are told the same of two errors. -/
def RequestError.ToldAlike (e e' : RequestError) : Prop :=
  e.kind = e'.kind ∧ Http.publicMessage e = Http.publicMessage e'

namespace RequestError

variable {e e' : RequestError}

theorem ToldAlike.refl (e : RequestError) : e.ToldAlike e :=
  ⟨rfl, rfl⟩

/-- Clients are told the same of all internal errors. -/
theorem ToldAlike.of_internal (h : e.kind = .internal) (h' : e'.kind = .internal) :
    e.ToldAlike e' := by
  refine ⟨h.trans h'.symm, ?_⟩
  rw [Http.publicMessage, Http.publicMessage, h, h']

end RequestError

open RequestError (ToldAlike)
open Program (Alike)

/-- Two runs of a request that meet with different failures of the store come to results that
clients cannot tell apart. -/
def Request.Discreet {α : Type} (x : Request α) : Prop :=
  x.run.Alike (SameUpTo ToldAlike) x.run

namespace Request.Discreet

variable {α β : Type}

theorem andThen {x : Request α} {f : α → Request β} (h : x.Discreet)
    (hf : ∀ a, (f a).Discreet) : (x >>= f).Discreet :=
  Alike.andThen h hf

theorem pure (a : α) : (Pure.pure a : Request α).Discreet :=
  Alike.pure a

theorem throw (e : RequestError) : (MonadExcept.throw e : Request α).Discreet :=
  Alike.throw (.refl e)

/-- A refusal before the rest of a request. -/
theorem throwIf {c : Prop} [Decidable c] {e : RequestError} {x : Request α} (h : x.Discreet) :
    (if c then (MonadExcept.throw e : Request PUnit) >>= fun _ => x else x).Discreet := by
  split
  · exact (throw e).andThen fun _ => h
  · exact h

/-- A program whose errors are wrapped into internal ones. -/
theorem lift {ε : Type} {wrap : ε → RequestError} {p : Program (Except ε α)} {D : ε → ε → Prop}
    (h : p.Alike (SameUpTo D) p) (hwrap : ∀ e, (wrap e).kind = .internal) :
    (Request.lift wrap p).Discreet :=
  Alike.lift h fun e e' _ => .of_internal (hwrap e) (hwrap e')

/-- A call of the store. -/
theorem store {p : Program (Except StoreError α)} (h : p.Alike (SameUpTo StoreError.Alike) p) :
    (Request.store p).Discreet :=
  lift h fun _ => rfl

/-- A program that does not depend on failures. -/
theorem always {p : Program α} (h : p.Alike Eq p) : (Request.always p).Discreet :=
  Alike.always h

end Request.Discreet

/-! ## Plans and runs -/

namespace Blueprint

open Request (Discreet)

theorem metrics_alike (b : Blueprint) : b.metrics.Alike (SameUpTo StoreError.Alike) b.metrics := by
  unfold metrics
  split
  · exact .ask (.findMetrics b.projectName)
  · exact .done (.ok [])

/-- To compose a plan fails alike, though with another error if the store has failed. -/
theorem composePlan_alike (b : Blueprint) (policy : SyncPolicy) :
    (b.composePlan policy).Alike (SameUpTo fun _ _ => True) (b.composePlan policy) := by
  unfold composePlan
  refine b.metrics_alike.bind ?_
  rintro _ _ (settings | he)
  · refine (Alike.ask (.generatePlan (b.planRequest policy settings))).bind ?_
    rintro (e | plan) _ rfl
    · exact .done (.error trivial)
    · exact .done (.ok _)
  · exact .done (.error trivial)

theorem runPlan_discreet (b : Blueprint) (policy : SyncPolicy) : (b.runPlan policy).Discreet := by
  unfold runPlan
  split
  · exact .lift (b.composePlan_alike policy) fun _ => rfl
  · exact .pure _

theorem run_discreet (b : Blueprint) (policy : SyncPolicy) : (b.run policy).Discreet := by
  unfold run
  refine (b.runPlan_discreet policy).andThen fun plan => .throwIf ?_
  exact .lift (.ask (.submitPipeline (b.newPipeline policy plan))) fun _ => rfl

/-! ## Validation -/

theorem checkProject_discreet (b : Blueprint) : b.checkProject.Discreet := by
  unfold checkProject
  split
  · refine (Discreet.store (.ask (.findProject b.projectName))).andThen fun project => .throwIf ?_
    refine (Discreet.store (.ask (.findOwner b.projectName))).andThen fun owner => ?_
    split
    · split
      · exact .throw _
      · exact .pure _
    · exact .pure _
  · exact .pure _

theorem withPlan_discreet (b : Blueprint) : b.withPlan.Discreet := by
  unfold withPlan
  split
  · exact .throwIf (.pure b)
  · exact (Discreet.lift (b.composePlan_alike b.syncPolicy) fun _ => rfl).andThen fun _ => .pure _

/-- The results of two validations: the same one, or errors that clients are told the same of. -/
def ValidatedAlike (r r' : Except RequestError Unit × Blueprint) : Prop :=
  r = r' ∨ ∃ e e', r.1 = .error e ∧ r'.1 = .error e' ∧ e.ToldAlike e'

theorem validation_alike (b : Blueprint) : b.validation.Alike ValidatedAlike b.validation := by
  unfold validation
  split
  · exact .done (.inl rfl)
  · refine b.checkProject_discreet.bind ?_
    rintro _ _ (⟨⟨⟩⟩ | he)
    · dsimp only
      split
      · exact .done (.inl rfl)
      · refine b.normalized.withPlan_discreet.bind ?_
        rintro _ _ (b' | he)
        · exact .done (.inl rfl)
        · exact .done (.inr ⟨_, _, rfl, rfl, he⟩)
    · exact .done (.inr ⟨_, _, rfl, rfl, he⟩)

theorem validated_discreet (b : Blueprint) : b.validated.Discreet := by
  refine b.validation_alike.bind ?_
  rintro ⟨e | _, b'⟩ r' (rfl | ⟨e₁, e₂, h₁, h₂, he⟩)
  · exact .done (.error (.refl e))
  · obtain ⟨r', b''⟩ := r'
    cases h₁
    cases h₂
    exact .done (.error he)
  · exact .done (.ok b')
  · cases h₁

end Blueprint

/-! ## The service -/

namespace Service

open Request (Discreet)

theorem holdingAgenda_alike {α : Type} {R : α → α → Prop} {p : Program α} (h : p.Alike R p) :
    (holdingAgenda p).Alike R (holdingAgenda p) := by
  refine (Alike.ask .lockAgenda).bind fun _ _ _ => ?_
  refine h.bind fun a a' ha => ?_
  exact (Alike.ask .unlockAgenda).bind fun _ _ _ => .done ha

/-- A rebuild fails alike, though with another error if the store has failed. -/
theorem reconcile_alike : reconcile.run.Alike (SameUpTo fun _ _ => True) reconcile.run := by
  refine holdingAgenda_alike ?_
  refine (Alike.ask (.findBlueprints .schedulable)).bind ?_
  rintro _ _ (⟨bs, n⟩ | he)
  · refine (Alike.ask (.rebuildAgenda bs)).mono ?_
    rintro r _ rfl
    exact .refl (fun _ => trivial) r
  · exact .done (.error trivial)

theorem reload_discreet : reload.Discreet := by
  refine reconcile_alike.bind ?_
  rintro _ _ (n | he)
  · exact .done (.ok ())
  · exact .done (.error (.of_internal rfl rfl))

theorem schedule_alike : schedule.Alike Eq schedule :=
  holdingAgenda_alike (.ask .listAgenda)

theorem get_discreet (id : Uuid) : (get id).Discreet := by
  refine (Discreet.store (.ask (.findBlueprint id))).andThen fun found => ?_
  split
  · exact .pure _
  · exact .throw _

theorem list_discreet (q : Query) : (list q).Discreet :=
  (Discreet.store (.ask (.findBlueprints q))).andThen fun _ => .pure _

theorem getByProject_discreet (name : String) : (getByProject name).Discreet := by
  unfold getByProject
  exact .throwIf (.store (.ask (.findOwner name)))

theorem refusal_discreet (b : Blueprint) (detail : String) : (refusal b detail).Discreet := by
  refine (Discreet.store (.ask (.findOwner b.projectName))).andThen fun owner => ?_
  split
  · split
    · exact .throw _
    · exact .throw _
  · exact .throw _

/-- How a save goes on with the reply of the store. -/
def afterSave (b : Blueprint) : Except StoreError Unit → Request Unit
  | .ok () => return
  | .error (.constraint detail) => refusal b detail
  | .error e => throw (.store e)

theorem save_eq (b : Blueprint) :
    save b = Request.always (Program.ask (.saveBlueprint b)) >>= afterSave b := by
  refine congrArg (Request.always (Program.ask (.saveBlueprint b)) >>= ·) (funext ?_)
  rintro (e | ⟨⟨⟩⟩)
  · cases e <;> rfl
  · rfl

theorem afterSave_failure (b : Blueprint) {e : StoreError} (h : e.isConstraint = false) :
    afterSave b (.error e) = throw (.store e) := by
  cases e with
  | constraint detail => cases h
  | _ => rfl

/-- A constraint is the same one in both runs, so that both go on to the same refusal. -/
theorem save_discreet (b : Blueprint) : (save b).Discreet := by
  rw [save_eq]
  refine Alike.bind (p := (Request.always (Program.ask (.saveBlueprint b))).run)
    (R := fun r r' => ∃ reply reply', r = .ok reply ∧ r' = .ok reply' ∧
      SameUpTo StoreError.Alike reply reply') ?_ ?_
  · exact (Alike.ask (.saveBlueprint b)).bind fun _ _ h => .done ⟨_, _, rfl, rfl, h⟩
  · rintro _ _ ⟨_, _, rfl, rfl, ⟨⟨⟩⟩ | @⟨e, e', rfl | ⟨he, he'⟩⟩⟩
    · exact .pure ()
    · cases e with
      | constraint detail => exact refusal_discreet b detail
      | _ => exact Discreet.throw _
    · show (afterSave b (.error e)).run.Alike _ (afterSave b (.error e')).run
      rw [afterSave_failure b he, afterSave_failure b he']
      exact Alike.throw (.of_internal rfl rfl)

theorem freshId_discreet : (Request.always (Program.ask .freshId)).Discreet :=
  .always (.ask .freshId)

theorem now_discreet : (Request.always (Program.ask .now)).Discreet :=
  .always (.ask .now)

theorem create_discreet (d : Draft) : (create d).Discreet :=
  freshId_discreet.andThen fun id => now_discreet.andThen fun now =>
    (d.toBlueprint id now).validated_discreet.andThen fun b =>
      (save_discreet b).andThen fun _ => reload_discreet.andThen fun _ => .pure b

theorem patch_discreet (id : Uuid) (p : Patch) : (patch id p).Discreet := by
  refine (get_discreet id).andThen fun b => .throwIf ?_
  exact now_discreet.andThen fun now => (p.apply b now).validated_discreet.andThen fun b =>
    (save_discreet b).andThen fun _ => reload_discreet.andThen fun _ => .pure b

theorem delete_discreet (id : Uuid) : (delete id).Discreet := by
  exact (Discreet.store (.ask (.deleteBlueprint id))).andThen fun found => .throwIf reload_discreet

theorem trigger_discreet (id : Uuid) (asked : SyncPolicy) : (trigger id asked).Discreet :=
  (get_discreet id).andThen fun b =>
    Blueprint.run_discreet { b with syncPolicy := runPolicy b.syncPolicy asked } _

end Service

/-! ## The routes -/

namespace Http

/-- Errors that clients are told the same of give the same response. -/
theorem respond_eq {α : Type} {success : α → HttpResponse} {r r' : Except RequestError α}
    (h : SameUpTo ToldAlike r r') : respond success r = respond success r' := by
  cases h with
  | ok a => rfl
  | error h =>
    obtain ⟨hkind, hmessage⟩ := h
    rw [respond, respond, errorBody, errorBody, hkind, hmessage]

theorem answer_alike {α : Type} {request : Request α} (h : request.Discreet)
    (success : α → HttpResponse) : (answer request success).Alike Eq (answer request success) :=
  Alike.bind (p := request.run) h fun _ _ hr => .done (respond_eq hr)

theorem refused_alike (status : Nat) :
    (pure (.refusal status) : Program HttpResponse).Alike Eq (pure (.refusal status)) :=
  .done rfl

theorem withBody_alike {α : Type} (d : Json.Decoder α) (r : HttpRequest)
    {next : α → Program HttpResponse} (h : ∀ a, (next a).Alike Eq (next a)) :
    (withBody d r next).Alike Eq (withBody d r next) := by
  unfold withBody
  split
  · exact h _
  · exact refused_alike _

theorem withId_alike (piece : List Char) {next : Uuid → Program HttpResponse}
    (h : ∀ id, (next id).Alike Eq (next id)) :
    (withId piece next).Alike Eq (withId piece next) := by
  unfold withId
  split
  · exact h _
  · exact refused_alike _

theorem get?_alike {target : Target} {route : Route} {p : Program HttpResponse}
    (h : get? target route = some p) : p.Alike Eq p := by
  cases route with
  | health =>
    cases h
    exact .done rfl
  | blueprints =>
    cases h
    split
    · exact answer_alike (Service.list_discreet _) _
    · exact refused_alike _
  | schedule =>
    cases h
    refine Service.schedule_alike.bind ?_
    rintro l _ rfl
    exact .done rfl
  | blueprint id =>
    cases h
    exact withId_alike id fun id => answer_alike (Service.get_discreet id) _
  | projectBlueprint name =>
    cases h
    split
    · exact answer_alike (Service.getByProject_discreet _) _
    · exact refused_alike _
  | trigger id => cases h

theorem triggerBlueprint_alike (r : HttpRequest) (id : Uuid) :
    (triggerBlueprint r id).Alike Eq (triggerBlueprint r id) := by
  have hrun (policy : SyncPolicy) := answer_alike (Service.trigger_discreet id policy)
    fun p => .json 200 p.toJson
  unfold triggerBlueprint
  split
  · exact withBody_alike _ r hrun
  · exact hrun {}

theorem dispatch_alike (r : HttpRequest) (route : Route) :
    (dispatch r route).Alike Eq (dispatch r route) := by
  unfold dispatch
  split
  · cases hget : get? r.target _ with
    | some p => exact get?_alike hget
    | none => exact refused_alike _
  · split
    · next p hget =>
      refine (get?_alike hget).bind ?_
      rintro response _ rfl
      exact .done rfl
    · exact refused_alike _
  · exact withBody_alike _ r fun d => answer_alike (Service.create_discreet d) _
  · exact withId_alike _ fun id => withBody_alike _ r fun p =>
      answer_alike (Service.patch_discreet id p) _
  · exact withId_alike _ fun id => answer_alike (Service.delete_discreet id) _
  · exact withId_alike _ fun id => triggerBlueprint_alike r id
  · exact refused_alike _

/-- Two runs of an HTTP request that meet with different failures of the store end with the same
response. -/
theorem handle_alike (r : HttpRequest) : (handle r).Alike Eq (handle r) := by
  unfold handle
  split
  · exact dispatch_alike r _
  · exact refused_alike _

/-- Let two services answer calls alike, up to failures of their stores. Then they give the same
response to every HTTP request, and are again in states in which they answer alike. -/
theorem failures_concealed {σ σ' : Type} {S : σ → σ' → Prop}
    {answer : (c : Call) → StateM σ c.Reply} {answer' : (c : Call) → StateM σ' c.Reply}
    (hanswer : ∀ c s s', S s s' → c.Alike ((answer c).run s).1 ((answer' c).run s').1 ∧
      S ((answer c).run s).2 ((answer' c).run s').2)
    (r : HttpRequest) {s : σ} {s' : σ'} (hs : S s s') :
    (((handle r).run answer).run s).1 = (((handle r).run answer').run s').1 ∧
      S (((handle r).run answer).run s).2 (((handle r).run answer').run s').2 :=
  (handle_alike r).run hanswer hs

namespace Sample

/-- A service whose store fails at the next list of blueprints. -/
def outage (error : StoreError) : Simulation.World where
  clock := .midnight .epoch
  registry := {}
  supply := .ofNat
  faults := [{ on := .findBlueprints, error, after := 0 }]

/-- A request for the list of blueprints. -/
def listing : HttpRequest where
  method := "GET"
  target := { path := ["blueprints".toList], query := [] }

/-- The response of this service to this request. -/
def outageResponse (error : StoreError) : HttpResponse :=
  (Simulation.Sim.run (handle listing) (outage error)).1

end Sample

theorem outage_concealed :
    Sample.outageResponse (.unavailable "pool timed out") =
        Sample.outageResponse (.database .noRow) ∧
      (Sample.outageResponse (.database .noRow)).status = 500 := by
  have hfault : Simulation.PlannedFault.Alike ⟨.findBlueprints, .unavailable "pool timed out", 0⟩
      ⟨.findBlueprints, .database .noRow, 0⟩ :=
    ⟨rfl, .inr ⟨rfl, rfl⟩, rfl⟩
  have hworlds : Simulation.World.Alike (Sample.outage (.unavailable "pool timed out"))
      (Sample.outage (.database .noRow)) :=
    .intro (.cons hfault .nil)
  exact ⟨(failures_concealed (Simulation.Sim.answer_alike .service) Sample.listing hworlds).1,
    by decide +kernel⟩

end Http

end Ingestion
