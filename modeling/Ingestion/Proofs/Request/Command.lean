import Mathlib
import Ingestion.Proofs.Request.Validation
import Ingestion.Request.Service

/-!
# Commands

The requests of the service as data, so that many of them can be under way at once. The run of a
blueprint that an entry of the agenda sets off counts as a command too.

The rules for the parts of the service that several commands share are stated for any protocol.
-/

namespace Ingestion

/-- What is asked of the service. -/
inductive Command where
  | create (d : Draft)
  | get (id : Uuid)
  | list (q : Query)
  | getByProject (name : String)
  | patch (id : Uuid) (p : Patch)
  | delete (id : Uuid)
  | trigger (id : Uuid) (asked : SyncPolicy)
  | reload
  | schedule
  | shutdown
  /-- The run of a blueprint whose entry was fired. -/
  | run (b : Blueprint)

namespace Command

/-- What is given back if the command succeeds. -/
@[reducible]
def Value : Command → Type
  | create _ => Blueprint
  | get _ => Blueprint
  | list _ => Listing
  | getByProject _ => Option Blueprint
  | patch _ _ => Blueprint
  | delete _ => Unit
  | trigger _ _ => Pipeline
  | reload => Unit
  | schedule => List ScheduledBlueprint
  | shutdown => Unit
  | run _ => Pipeline

/-- The request that carries out a command. -/
def request : (c : Command) → Request c.Value
  | create d => Service.create d
  | get id => Service.get id
  | list q => Service.list q
  | getByProject name => Service.getByProject name
  | patch id p => Service.patch id p
  | delete id => Service.delete id
  | trigger id asked => Service.trigger id asked
  | reload => Service.reload
  | schedule => .always Service.schedule
  | shutdown => .always Service.shutdown
  | run b => b.run b.syncPolicy

/-- The command changes a blueprint of the store. -/
def writes : Command → Bool
  | create _ | patch _ _ | delete _ => true
  | _ => false

/-- The command has to do neither with changes nor with the agenda. -/
def isQuiet : Command → Bool
  | get _ | list _ | getByProject _ | trigger _ _ | run _ => true
  | _ => false

/-- What is left to do at the beginning. -/
abbrev program (c : Command) : Program (Except RequestError c.Value) :=
  c.request.run

end Command

/-! ## Parts of the service -/

/-- The calls that change the blueprints of the store. -/
def Call.isWrite : Call → Bool
  | .saveBlueprint _ | .deleteBlueprint _ => true
  | _ => false

/-- The calls that change no blueprint of the store and do not touch the agenda. -/
def Call.isQuiet : Call → Bool
  | .saveBlueprint _ | .deleteBlueprint _ | .lockAgenda | .unlockAgenda | .rebuildAgenda _
  | .listAgenda | .stopAgenda => false
  | _ => true

theorem Call.isWrite_of_isLookup (c : Call) (h : c.isLookup = true) : c.isWrite = false := by
  cases c <;> first | rfl | cases h

theorem Call.isWrite_of_isQuiet (c : Call) (h : c.isQuiet = true) : c.isWrite = false := by
  cases c <;> first | rfl | cases h

theorem Call.isWrite_of_isUpkeep (c : Call) (h : c.isUpkeep = true) : c.isWrite = false := by
  cases c <;> first | rfl | cases h

theorem Protocol.Ignores.lookups {σ : Type} {P : Protocol σ} {s : σ}
    (h : P.Ignores s Call.isQuiet) : P.Ignores s Call.isLookup := by
  intro c hc
  exact h c (by cases c <;> first | rfl | cases hc)

namespace Service

open Program (Obeys)
open Protocol (Ends)

variable {σ : Type} {P : Protocol σ} {s : σ}

theorem get_obeys {id : Uuid} {post : σ → Except RequestError Blueprint → Prop}
    (hfound : ∀ b, P.Replies (.findBlueprint id) (.ok (some b)) →
      ∃ s', P.Next s (.findBlueprint id) (.ok (some b)) s' ∧ post s' (.ok b))
    (hother : ∀ reply, ∃ s', P.Next s (.findBlueprint id) reply s' ∧
      ∀ e, e.isReload = false → post s' (.error e)) :
    (get id).run.Obeys P s post := by
  unfold get
  refine Obeys.andThen (Q := fun s' r => match r with
      | .ok (some b) => post s' (.ok b)
      | .ok none => ∀ e, e.isReload = false → post s' (.error e)
      | .error e => post s' (.error e))
    (Obeys.store (Obeys.ask fun reply hreply => ?_)) ?_ fun s' e hr => hr
  · match reply with
    | .ok (some b) => exact hfound b hreply
    | .ok none => exact hother (.ok none)
    | .error e =>
      obtain ⟨s', hnext, hpost⟩ := hother (.error e)
      exact ⟨s', hnext, hpost _ rfl⟩
  · rintro s' (_ | b) hr
    · exact Obeys.throw (hr _ rfl)
    · exact Obeys.pure hr

/-- A refused blueprint is looked up once more, and the request fails. -/
theorem refusal_obeys (b : Blueprint) (detail : String) (h : P.Ignores s Call.isLookup) :
    (refusal b detail).run.Obeys P s (Ends s fun _ => False) := by
  unfold refusal
  refine Obeys.ends_andThen (Q := fun _ => True)
    (Obeys.ends_lift ((Obeys.ask_ignored h rfl).mono fun _ _ hr => ⟨hr.1, fun _ _ => trivial⟩)
      fun _ => rfl) ?_
  rintro (_ | owner) -
  · exact Obeys.throw ⟨rfl, rfl⟩
  · dsimp only
    split
    · exact Obeys.throw ⟨rfl, rfl⟩
    · exact Obeys.throw ⟨rfl, rfl⟩

theorem save_obeys {b : Blueprint} {post : σ → Except RequestError Unit → Prop}
    (hok : P.Replies (.saveBlueprint b) (.ok ()) →
      ∃ s', P.Next s (.saveBlueprint b) (.ok ()) s' ∧ post s' (.ok ()))
    (herror : ∀ e, ∃ s', P.Next s (.saveBlueprint b) (.error e) s' ∧
      P.Ignores s' Call.isLookup ∧ ∀ e, e.isReload = false → post s' (.error e)) :
    (save b).run.Obeys P s post := by
  unfold save
  refine Obeys.andThen (Q := fun s' r => ∃ reply, r = .ok reply ∧ match reply with
      | .ok () => post s' (.ok ())
      | .error _ => P.Ignores s' Call.isLookup ∧ ∀ e, e.isReload = false → post s' (.error e))
    (Obeys.always (Obeys.ask fun reply hreply => ?_)) ?_ ?_
  · cases reply with
    | ok =>
      obtain ⟨s', hnext, hpost⟩ := hok hreply
      exact ⟨s', hnext, .ok (), rfl, hpost⟩
    | error e =>
      obtain ⟨s', hnext, hpost⟩ := herror e
      exact ⟨s', hnext, .error e, rfl, hpost⟩
  · rintro s' reply ⟨_, ⟨⟩, hr⟩
    split
    · exact Obeys.pure hr
    · refine (refusal_obeys b _ hr.1).mono ?_
      rintro s'' (e | _) ⟨rfl, he⟩
      · exact hr.2 e he
      · exact he.elim
    · exact Obeys.throw (hr.2 _ rfl)
  · rintro s' e ⟨reply, ⟨⟩, -⟩

theorem holdingAgenda_obeys {α : Type} {p : Program α} (h : P.Ignores s Call.isUpkeep)
    (hp : p.Obeys P s fun s' _ => s' = s) : (holdingAgenda p).Obeys P s fun s' _ => s' = s := by
  unfold holdingAgenda
  refine (Obeys.ask_ignored h rfl).bind ?_
  rintro _ _ ⟨rfl, -⟩
  refine hp.bind ?_
  rintro _ a rfl
  refine (Obeys.ask_ignored h rfl).bind ?_
  rintro _ _ ⟨rfl, -⟩
  exact Obeys.done rfl

/-- The calls of a rebuild: the agenda is rebuilt for what the store gives, and let go in any
case. -/
theorem reconcile_calls : ∃ next,
    (reconcile.run = .call .lockAgenda fun _ => .call (.findBlueprints .schedulable) next) ∧
    (∀ e, next (.error e) = .call .unlockAgenda fun _ => .done (.error (.store e))) ∧
    ∀ bs n, next (.ok (bs, n)) =
      .call (.rebuildAgenda bs) fun result => .call .unlockAgenda fun _ => .done result :=
  ⟨_, rfl, fun _ => rfl, fun _ _ => rfl⟩

/-- A protocol that takes no notice of the agenda takes none of a rebuild. -/
theorem reload_obeys (h : P.Ignores s Call.isUpkeep) :
    reload.run.Obeys P s fun s' _ => s' = s := by
  unfold reload reconcile
  refine Obeys.bind (Q := fun s' _ => s' = s) (holdingAgenda_obeys h ?_) ?_
  · refine (Obeys.ask_ignored h rfl).bind ?_
    rintro _ (e | ⟨bs, n⟩) ⟨rfl, -⟩
    · exact Obeys.done rfl
    · exact (Obeys.ask_ignored h rfl).mono fun _ _ hr => hr.1
  · rintro _ (e | n) rfl
    · exact Obeys.done rfl
    · exact Obeys.done rfl

/-- The end of a change: a blueprint is validated and stored, and the agenda is rebuilt. -/
theorem change_obeys {b : Blueprint} {post : σ → Except RequestError Blueprint → Prop}
    (hlookup : P.Ignores s Call.isLookup)
    (hsave : ∀ b', b.Passes P.Replies b' → ∃ s', P.Next s (.saveBlueprint b') (.ok ()) s' ∧
      P.Ignores s' Call.isUpkeep ∧ post s' (.ok b') ∧ ∀ e, post s' (.error e))
    (hrefuse : ∀ b' e, b.Passes P.Replies b' → ∃ s', P.Next s (.saveBlueprint b') (.error e) s' ∧
      P.Ignores s' Call.isLookup ∧ ∀ e, post s' (.error e))
    (herror : ∀ e, post s (.error e)) :
    (do
      let b ← b.validated
      save b
      reload
      return b : Request Blueprint).run.Obeys P s post := by
  refine Obeys.andThen (b.validated_obeys hlookup) ?_ ?_
  · rintro _ b' ⟨rfl, hb'⟩
    refine Obeys.andThen (Q := fun s' r => match r with
        | .ok () => P.Ignores s' Call.isUpkeep ∧ post s' (.ok b') ∧ ∀ e, post s' (.error e)
        | .error e => post s' (.error e))
      (save_obeys (fun _ => hsave b' hb') fun e => ?_) ?_ fun _ _ he => he
    · obtain ⟨s', hnext, hignores, hpost⟩ := hrefuse b' e hb'
      exact ⟨s', hnext, hignores, fun e _ => hpost e⟩
    · rintro s' ⟨⟩ ⟨hupkeep, hok, hfailed⟩
      refine Obeys.andThen (reload_obeys hupkeep) ?_ ?_
      · rintro _ _ rfl
        exact Obeys.pure hok
      · rintro _ e rfl
        exact hfailed e
  · rintro _ e ⟨rfl, -⟩
    exact herror e

end Service

/-! ## Quiet commands -/

section Quiet

open Program (Obeys)

variable {σ : Type} {P : Protocol σ} {s : σ}

/-- A plan is one that a run of a blueprint carries out, told by the replies to lookups. -/
structure Blueprint.RunsPlan (b : Blueprint) (replies : (c : Call) → c.Reply → Prop)
    (policy : SyncPolicy) (plan : Plan) : Prop where
  advanced : b.mode = .advanced → plan = b.plan
  normal : b.mode = .normal → b.Composes replies policy plan

theorem Blueprint.runPlan_obeys (b : Blueprint) (policy : SyncPolicy)
    (h : P.Ignores s Call.isLookup) :
    (b.runPlan policy).run.Obeys P s (Protocol.Ends s (b.RunsPlan P.Replies policy)) := by
  unfold runPlan
  split
  · next hmode =>
    refine Obeys.ends_lift ((b.composePlan_obeys policy h).mono ?_) fun _ => rfl
    rintro s' r ⟨rfl, hr⟩
    exact ⟨rfl, fun plan hplan => ⟨by simp [hmode], fun _ => hr plan hplan⟩⟩
  · next hmode => exact Obeys.pure ⟨rfl, fun _ => rfl, by simp [hmode]⟩

/-- A run makes lookups, and then submits a pipeline if the plan is worth running. -/
theorem Blueprint.run_obeys (b : Blueprint) (policy : SyncPolicy)
    {post : σ → Except RequestError Pipeline → Prop} (h : P.Ignores s Call.isLookup)
    (hsubmit : ∀ plan, b.RunsPlan P.Replies policy plan → plan.isEmpty = false →
      ∀ reply, ∃ s', P.Next s (.submitPipeline (b.newPipeline policy plan)) reply s' ∧
        post s' (reply.mapError (.submit b.id b.name)))
    (herror : ∀ e, e.isReload = false → post s (.error e)) :
    (b.run policy).run.Obeys P s post := by
  unfold run
  refine Obeys.andThen (b.runPlan_obeys policy h) ?_ ?_
  · rintro s' plan ⟨rfl, hplan⟩
    split
    · exact Obeys.throw (herror _ rfl)
    · next hempty =>
      exact Obeys.lift (Obeys.ask fun reply _ =>
        hsubmit plan hplan (Bool.eq_false_of_not_eq_true hempty) reply)
  · rintro s' e ⟨rfl, he⟩
    exact herror e he

theorem Command.quiet_obeys (c : Command) (hc : c.isQuiet = true) (h : P.Ignores s Call.isQuiet) :
    c.program.Obeys P s fun s' _ => s' = s := by
  have hget (id : Uuid) : (Service.get id).run.Obeys P s fun s' _ => s' = s :=
    Service.get_obeys (fun b _ => ⟨s, h _ rfl _, rfl⟩) fun reply =>
      ⟨s, h _ rfl _, fun _ _ => rfl⟩
  have hrun (b : Blueprint) (policy : SyncPolicy) :
      (b.run policy).run.Obeys P s fun s' _ => s' = s :=
    b.run_obeys policy h.lookups (fun _ _ _ _ => ⟨s, h _ rfl _, rfl⟩) fun _ _ => rfl
  cases c with
  | get id => exact hget id
  | list q =>
    refine Obeys.andThen (Q := fun s' _ => s' = s)
      (Obeys.store ((Obeys.ask_ignored h rfl).mono fun _ _ hr => hr.1)) ?_ fun _ _ hr => hr
    rintro s' r rfl
    exact Obeys.pure rfl
  | getByProject name =>
    change (Service.getByProject name).run.Obeys P s _
    unfold Service.getByProject
    split
    · exact Obeys.throw rfl
    · exact Obeys.store ((Obeys.ask_ignored h rfl).mono fun _ _ hr => hr.1)
  | trigger id asked =>
    refine Obeys.andThen (Q := fun s' _ => s' = s) (hget id) ?_ fun _ _ hr => hr
    rintro s' b rfl
    exact hrun _ _
  | run b => exact hrun b _
  | _ => cases hc

/-- A protocol that takes no notice of the agenda and of quiet calls takes none of a command that
does not write. -/
theorem Command.obeys_of_ignores (c : Command) (hc : c.writes = false)
    (h : P.Ignores s Call.isQuiet) (hupkeep : P.Ignores s Call.isUpkeep) :
    c.program.Obeys P s fun s' _ => s' = s := by
  have halways {α : Type} {p : Program α} (hp : p.Obeys P s fun s' _ => s' = s) :
      (Request.always p).run.Obeys P s fun s' _ => s' = s := Obeys.always hp
  cases c with
  | reload => exact Service.reload_obeys hupkeep
  | schedule =>
    exact halways (Service.holdingAgenda_obeys hupkeep
      ((Obeys.ask_ignored hupkeep rfl).mono fun _ _ hr => hr.1))
  | shutdown =>
    exact halways (Service.holdingAgenda_obeys hupkeep
      ((Obeys.ask_ignored hupkeep rfl).mono fun _ _ hr => hr.1))
  | create d => cases hc
  | patch id p => cases hc
  | delete id => cases hc
  | _ => exact Command.quiet_obeys _ rfl h

end Quiet

end Ingestion
