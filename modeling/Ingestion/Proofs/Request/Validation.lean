import Mathlib
import Ingestion.Proofs.Request.Protocol
import Ingestion.Proofs.Text.Fields
import Ingestion.Request.Validation

/-!
# What validation completes

Validation makes lookups only, so a protocol that takes no notice of these is obeyed by it. What it
makes of a blueprint is told by `Blueprint.Completes`: all fields are kept, except for the flag for
runs by hand, which may get set, and the plan, which in mode `NORMAL` is the generated one between
the blueprint's own plans.
-/

namespace Ingestion.Blueprint

open Program (Obeys)
open Protocol (Ends)

variable {σ : Type} {P : Protocol σ} {s : σ}

/-! ## Runs by hand -/

/-- A text spells `manual` in small or capital letters. -/
def SpellsManual (text : String) : Prop :=
  List.Forall₂ (fun c letter => c = letter ∨ c = letter.toUpper) text.toList
    ['m', 'a', 'n', 'u', 'a', 'l']

theorem isManualCron_iff {b : Blueprint} : b.isManualCron = true ↔ SpellsManual b.cronConfig := by
  have hletters : manualCron.toList = ['m', 'a', 'n', 'u', 'a', 'l'] := by decide
  rw [isManualCron, hletters, SpellsManual]
  exact Text.sameUpToCase_iff (by simp [Char.isUpper])

/-! ## What is told by replies -/

/-- The settings of metrics that go into the plan of a blueprint, told by the replies to lookups. -/
def SettingsAre (b : Blueprint) (replies : (c : Call) → c.Reply → Prop)
    (settings : List MetricSetting) : Prop :=
  if b.hasProject then replies (.findMetrics b.projectName) (.ok settings) else settings = []

/-- A plan is the one that is composed for a blueprint, told by the replies to lookups. -/
def Composes (b : Blueprint) (replies : (c : Call) → c.Reply → Prop) (policy : SyncPolicy)
    (plan : Plan) : Prop :=
  ∃ settings generated, b.SettingsAre replies settings ∧
    replies (.generatePlan (b.planRequest policy settings)) (.ok generated) ∧
    plan = b.wrapPlan generated

/-- Validation makes the second blueprint of the first one. -/
structure Completes (replies : (c : Call) → c.Reply → Prop) (b b' : Blueprint) : Prop where
  form : b.checkForm = .ok ()
  cron : b.normalized.checkCron = .ok ()
  fields : b' = { b.normalized with plan := b'.plan }
  advanced : b.mode = .advanced → b'.plan = b.plan
  normal : b.mode = .normal → b'.Composes replies b'.syncPolicy b'.plan

/-- Validation sets the flag for runs by hand if the cron expression asks for them, and leaves it as
it is otherwise. -/
theorem Completes.isManual_iff {replies : (c : Call) → c.Reply → Prop} {b b' : Blueprint}
    (h : b.Completes replies b') :
    b'.isManual = true ↔ b.isManual = true ∨ SpellsManual b.cronConfig := by
  rw [h.fields, ← isManualCron_iff]
  exact Bool.or_eq_true_iff

/-- The project of a blueprint, if it has one, has been looked up and found. -/
def ProjectFound (replies : (c : Call) → c.Reply → Prop) (b : Blueprint) : Prop :=
  b.hasProject = true → ∃ p, replies (.findProject b.projectName) (.ok (some p))

/-- The first blueprint passes validation, which makes the second one of it. -/
structure Passes (replies : (c : Call) → c.Reply → Prop) (b b' : Blueprint) : Prop
    extends Completes replies b b' where
  project : b.ProjectFound replies
  stages : b.mode = .advanced → b.plan.hasNoStages = false

/-! ## The steps of the validation -/

theorem metrics_obeys (b : Blueprint) (h : P.Ignores s Call.isLookup) :
    b.metrics.Obeys P s fun s' r =>
      s' = s ∧ ∀ settings, r = .ok settings → b.SettingsAre P.Replies settings := by
  unfold metrics SettingsAre
  split
  · refine (Obeys.ask_ignored h rfl).mono fun s' r hr => ⟨hr.1, ?_⟩
    rintro settings rfl
    exact hr.2
  · refine Obeys.done ⟨rfl, ?_⟩
    rintro settings ⟨⟩
    rfl

theorem composePlan_obeys (b : Blueprint) (policy : SyncPolicy) (h : P.Ignores s Call.isLookup) :
    (b.composePlan policy).Obeys P s fun s' r =>
      s' = s ∧ ∀ plan, r = .ok plan → b.Composes P.Replies policy plan := by
  unfold composePlan
  refine (b.metrics_obeys h).bind ?_
  rintro _ (e | settings) ⟨rfl, hsettings⟩
  · exact Obeys.done ⟨rfl, by rintro plan ⟨⟩⟩
  · refine (Obeys.ask_ignored h rfl).bind ?_
    rintro _ (e | generated) ⟨rfl, hgenerated⟩
    · exact Obeys.done ⟨rfl, by rintro plan ⟨⟩⟩
    · refine Obeys.done ⟨rfl, ?_⟩
      rintro plan ⟨⟩
      exact ⟨settings, generated, hsettings settings rfl, hgenerated, rfl⟩

theorem isReload_of_checkForm {b : Blueprint} {e : RequestError} (h : b.checkForm = .error e) :
    e.isReload = false := by
  rw [checkForm] at h
  split at h
  · cases h
    rfl
  · cases h

theorem isReload_of_checkCron {b : Blueprint} {e : RequestError} (h : b.checkCron = .error e) :
    e.isReload = false := by
  rw [checkCron] at h
  split at h
  · cases h
  · split at h
    · cases h
    · cases h
      rfl

theorem checkProject_obeys (b : Blueprint) (h : P.Ignores s Call.isLookup) :
    b.checkProject.run.Obeys P s (Ends s fun _ => b.ProjectFound P.Replies) := by
  have hfind : (Request.store (Program.ask (.findProject b.projectName))).run.Obeys P s
      (Ends s fun found => ∀ p, found = some p → b.ProjectFound P.Replies) := by
    refine Obeys.ends_lift ((Obeys.ask_ignored h rfl).mono ?_) fun _ => rfl
    rintro s' reply ⟨rfl, hreply⟩
    refine ⟨rfl, ?_⟩
    rintro found rfl p rfl -
    exact ⟨p, hreply⟩
  have howner : (Request.store (Program.ask (.findOwner b.projectName))).run.Obeys P s
      (Ends s fun _ => True) :=
    Obeys.ends_lift ((Obeys.ask_ignored h rfl).mono fun _ _ hr => ⟨hr.1, fun _ _ => trivial⟩)
      fun _ => rfl
  unfold checkProject
  split
  · refine Obeys.ends_andThen hfind ?_
    rintro (_ | p) hfound
    · exact Obeys.throw ⟨rfl, rfl⟩
    · refine Obeys.ends_andThen howner ?_
      rintro (_ | owner) -
      · exact Obeys.pure ⟨rfl, hfound p rfl⟩
      · dsimp only
        split
        · exact Obeys.throw ⟨rfl, rfl⟩
        · exact Obeys.pure ⟨rfl, hfound p rfl⟩
  · next hproject => exact Obeys.pure ⟨rfl, fun h => absurd h hproject⟩

theorem withPlan_obeys (b : Blueprint) (h : P.Ignores s Call.isLookup) :
    b.withPlan.run.Obeys P s (Ends s fun b' => b' = { b with plan := b'.plan } ∧
      (b.mode = .advanced → b'.plan = b.plan ∧ b.plan.hasNoStages = false) ∧
      (b.mode = .normal → b'.Composes P.Replies b'.syncPolicy b'.plan)) := by
  unfold withPlan
  split
  · next hmode =>
    split
    · exact Obeys.throw ⟨rfl, rfl⟩
    · next hstages =>
      exact Obeys.pure ⟨rfl, rfl, fun _ => ⟨rfl, Bool.eq_false_of_not_eq_true hstages⟩,
        by simp [hmode]⟩
  · next hmode =>
    refine Obeys.ends_andThen (Obeys.ends_lift (b.composePlan_obeys b.syncPolicy h) fun _ => rfl) ?_
    intro plan hplan
    exact Obeys.pure ⟨rfl, rfl, by simp [hmode], fun _ => hplan⟩

/-! ## The validation as a whole -/

theorem validation_obeys (b : Blueprint) (h : P.Ignores s Call.isLookup) :
    b.validation.Obeys P s fun s' r => Ends s (fun _ => b.Passes P.Replies r.2) s' r.1 := by
  unfold validation
  split
  · next e hform => exact Obeys.done ⟨rfl, isReload_of_checkForm hform⟩
  · next hform =>
    refine (b.checkProject_obeys h).bind ?_
    rintro s' (e | _) ⟨rfl, hproject⟩
    · exact Obeys.done ⟨rfl, hproject⟩
    dsimp only
    split
    · next e hcron => exact Obeys.done ⟨rfl, isReload_of_checkCron hcron⟩
    · next hcron =>
      refine (b.normalized.withPlan_obeys h).bind ?_
      rintro s (e | b') ⟨rfl, hb'⟩
      · exact Obeys.done ⟨rfl, hb'⟩
      · obtain ⟨hfields, hadvanced, hnormal⟩ := hb'
        have hcompletes : b.Completes P.Replies b' :=
          ⟨hform, hcron, hfields, fun hmode => (hadvanced hmode).1, hnormal⟩
        exact Obeys.done ⟨rfl, hcompletes, hproject, fun hmode => (hadvanced hmode).2⟩

/-- What is validated is completed. -/
theorem validated_obeys (b : Blueprint) (h : P.Ignores s Call.isLookup) :
    b.validated.run.Obeys P s (Ends s (b.Passes P.Replies)) := by
  unfold validated
  refine (b.validation_obeys h).bind ?_
  rintro s' ⟨e | _, b'⟩ ⟨rfl, hb'⟩
  · exact Obeys.done ⟨rfl, hb'⟩
  · exact Obeys.done ⟨rfl, hb'⟩

end Ingestion.Blueprint
