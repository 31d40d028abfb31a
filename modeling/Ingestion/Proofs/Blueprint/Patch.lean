import Mathlib
import Ingestion.Proofs.Request.Validation
import Ingestion.Blueprint.Patch

/-!
# Patches one after another

Two patches made one after another come to one patch, which sets the fields of both
(`Patch.both`). If no field is set by both of them, the order does not matter.
-/

namespace Ingestion

theorem or_comm_of_none {α : Type} {a b : Option α} (h : a = none ∨ b = none) :
    a.or b = b.or a := by
  rcases h with rfl | rfl <;> simp

namespace PolicyPatch

/-- The fields of both patches. Where both set a field, the second one counts. -/
def both (p q : PolicyPatch) : PolicyPatch where
  skipOnFail := q.skipOnFail.or p.skipOnFail
  fullSync := q.fullSync.or p.fullSync
  skipCollectors := q.skipCollectors.or p.skipCollectors
  timeAfter := q.timeAfter.or p.timeAfter

/-- No field is set by both patches. -/
structure Disjoint (p q : PolicyPatch) : Prop where
  skipOnFail : p.skipOnFail = none ∨ q.skipOnFail = none
  fullSync : p.fullSync = none ∨ q.fullSync = none
  skipCollectors : p.skipCollectors = none ∨ q.skipCollectors = none
  timeAfter : p.timeAfter = none ∨ q.timeAfter = none

theorem apply_both (p q : PolicyPatch) (s : SyncPolicy) :
    (p.both q).apply s = q.apply (p.apply s) := by
  simp only [apply, both, Option.getD_or]

theorem both_comm {p q : PolicyPatch} (h : p.Disjoint q) : p.both q = q.both p := by
  simp only [both, or_comm_of_none h.skipOnFail, or_comm_of_none h.fullSync,
    or_comm_of_none h.skipCollectors, or_comm_of_none h.timeAfter]

end PolicyPatch

namespace Patch

/-- The fields of both patches. Where both set a field, the second one counts. -/
def both (p q : Patch) : Patch where
  name := q.name.or p.name
  projectName := q.projectName.or p.projectName
  cronConfig := q.cronConfig.or p.cronConfig
  isManual := q.isManual.or p.isManual
  enable := q.enable.or p.enable
  connections := q.connections.or p.connections
  labels := q.labels.or p.labels
  syncPolicy := p.syncPolicy.merge PolicyPatch.both q.syncPolicy
  beforePlan := q.beforePlan.or p.beforePlan
  afterPlan := q.afterPlan.or p.afterPlan
  plan := q.plan.or p.plan

/-- No field is set by both patches, each field of the policy counting by itself. -/
structure Disjoint (p q : Patch) : Prop where
  name : p.name = none ∨ q.name = none
  projectName : p.projectName = none ∨ q.projectName = none
  cronConfig : p.cronConfig = none ∨ q.cronConfig = none
  isManual : p.isManual = none ∨ q.isManual = none
  enable : p.enable = none ∨ q.enable = none
  connections : p.connections = none ∨ q.connections = none
  labels : p.labels = none ∨ q.labels = none
  syncPolicy : ∀ s t, p.syncPolicy = some s → q.syncPolicy = some t → s.Disjoint t
  beforePlan : p.beforePlan = none ∨ q.beforePlan = none
  afterPlan : p.afterPlan = none ∨ q.afterPlan = none
  plan : p.plan = none ∨ q.plan = none

theorem apply_both (p q : Patch) (b : Blueprint) (t t' : Instant) :
    (p.both q).apply b t' = q.apply (p.apply b t) t' := by
  have hpolicy : ((p.both q).syncPolicy.map (·.apply b.syncPolicy)).getD b.syncPolicy =
      (q.syncPolicy.map (·.apply ((p.syncPolicy.map (·.apply b.syncPolicy)).getD
        b.syncPolicy))).getD ((p.syncPolicy.map (·.apply b.syncPolicy)).getD b.syncPolicy) := by
    cases hp : p.syncPolicy <;> cases hq : q.syncPolicy <;>
      simp [both, hp, hq, PolicyPatch.apply_both]
  simp only [apply, hpolicy]
  simp only [both, Option.getD_or]

theorem both_comm {p q : Patch} (h : p.Disjoint q) : p.both q = q.both p := by
  have hpolicy : p.syncPolicy.merge PolicyPatch.both q.syncPolicy =
      q.syncPolicy.merge PolicyPatch.both p.syncPolicy := by
    cases hp : p.syncPolicy with
    | none => cases q.syncPolicy <;> rfl
    | some s =>
      cases hq : q.syncPolicy with
      | none => rfl
      | some t => exact congrArg some (PolicyPatch.both_comm (h.syncPolicy s t hp hq))
  simp only [both, hpolicy, or_comm_of_none h.name, or_comm_of_none h.projectName,
    or_comm_of_none h.cronConfig, or_comm_of_none h.isManual, or_comm_of_none h.enable,
    or_comm_of_none h.connections, or_comm_of_none h.labels, or_comm_of_none h.beforePlan,
    or_comm_of_none h.afterPlan, or_comm_of_none h.plan]

/-- The cron expression asks for runs by hand once the patch has been made. -/
def ForcesManual (p : Patch) (b : Blueprint) : Prop :=
  Blueprint.SpellsManual (p.cronConfig.getD b.cronConfig)

/-- The cron expression asks for runs by hand once both patches have been made, or it did so after
the first one, and the second one does not set the flag anew. -/
def ForcesManualInTurn (p q : Patch) (b : Blueprint) : Prop :=
  (p.both q).ForcesManual b ∨ q.isManual = none ∧ p.ForcesManual b

/-- A blueprint is `b` with the fields of the patch changed. Left aside are the time of the change
and a plan that is derived. The flag for runs by hand is set as well if it is forced. -/
structure KeptBy (p : Patch) (forced : Prop) (b s : Blueprint) : Prop where
  fields : ∃ t plan, s = { p.apply b t with isManual := s.isManual, plan }
  isManual : s.isManual = true ↔ p.isManual.getD b.isManual = true ∨ forced
  plan : b.mode = .advanced → s.plan = p.plan.getD b.plan

theorem keptBy_of_completes {p : Patch} {b s : Blueprint} {t : Instant}
    {replies : (c : Call) → c.Reply → Prop} (h : (p.apply b t).Completes replies s) :
    p.KeptBy (p.ForcesManual b) b s :=
  ⟨⟨t, s.plan, by rw [h.fields]; rfl⟩, h.isManual_iff, h.advanced⟩

/-- A patch of a patched blueprint keeps both. -/
theorem KeptBy.both {p q : Patch} {b s s' : Blueprint} (h : p.KeptBy (p.ForcesManual b) b s)
    (h' : q.KeptBy (q.ForcesManual s) s s') :
    (p.both q).KeptBy (p.ForcesManualInTurn q b) b s' := by
  obtain ⟨t, plan, hs⟩ := h.fields
  obtain ⟨t', plan', hs'⟩ := h'.fields
  refine ⟨⟨t', plan', ?_⟩, ?_, fun hmode => ?_⟩
  · rw [apply_both p q b t t', hs', hs]
    rfl
  · have hcron : q.ForcesManual s ↔ (p.both q).ForcesManual b := by
      rw [ForcesManual, ForcesManual, Patch.both, Option.getD_or, hs]
      rfl
    have hflag : (p.both q).isManual.getD b.isManual =
        q.isManual.getD (p.isManual.getD b.isManual) := Option.getD_or
    rw [h'.isManual, hcron, hflag, ForcesManualInTurn]
    -- The second patch sets the flag anew, or leaves it as the first one has.
    cases q.isManual with
    | none =>
      rw [Option.getD_none, Option.getD_none, h.isManual]
      tauto
    | some v => simp
  · have hmode' : s.mode = .advanced := by
      rw [hs]
      exact hmode
    rw [h'.plan hmode', h.plan hmode]
    exact Option.getD_or.symm

end Patch

end Ingestion
