import Ingestion.Blueprint.Basic

/-!
# Patches

A patch changes some fields of a blueprint and keeps the others. The policy is patched field by
field. Its `timeAfter` has three states in a patch: absent, cleared, or set.
-/

namespace Ingestion

/-- A change of some fields of a policy. -/
structure PolicyPatch where
  skipOnFail : Option Bool := none
  fullSync : Option Bool := none
  skipCollectors : Option Bool := none
  /-- Absent, cleared (`some none`) or set. -/
  timeAfter : Option (Option Instant) := none
deriving DecidableEq, Inhabited

/-- The policy with the fields of the patch changed. -/
def PolicyPatch.apply (p : PolicyPatch) (s : SyncPolicy) : SyncPolicy where
  skipOnFail := p.skipOnFail.getD s.skipOnFail
  fullSync := p.fullSync.getD s.fullSync
  skipCollectors := p.skipCollectors.getD s.skipCollectors
  timeAfter := p.timeAfter.getD s.timeAfter

/-- A change of some fields of a blueprint. Its identity and mode are no such fields. -/
structure Patch where
  name : Option String := none
  projectName : Option String := none
  cronConfig : Option String := none
  isManual : Option Bool := none
  enable : Option Bool := none
  connections : Option (List Connection) := none
  labels : Option (List String) := none
  syncPolicy : Option PolicyPatch := none
  beforePlan : Option Plan := none
  afterPlan : Option Plan := none
  plan : Option Plan := none
deriving Inhabited

/-- The blueprint with the fields of the patch changed. -/
def Patch.apply (p : Patch) (b : Blueprint) (now : Instant) : Blueprint :=
  { b with
    name := p.name.getD b.name
    projectName := p.projectName.getD b.projectName
    cronConfig := p.cronConfig.getD b.cronConfig
    isManual := p.isManual.getD b.isManual
    enable := p.enable.getD b.enable
    connections := p.connections.getD b.connections
    labels := p.labels.getD b.labels
    syncPolicy := (p.syncPolicy.map (·.apply b.syncPolicy)).getD b.syncPolicy
    beforePlan := p.beforePlan.getD b.beforePlan
    afterPlan := p.afterPlan.getD b.afterPlan
    plan := p.plan.getD b.plan
    updatedAt := now }

end Ingestion
