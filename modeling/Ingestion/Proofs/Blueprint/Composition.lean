import Mathlib
import Ingestion.Proofs.Blueprint.Patch

/-!
# What patches come to

A patch is told by what becomes of each field (`Patch.Changes`): a field that is set takes the new
value, and every other one is kept. Two patches made one after another come to the one that sets the
fields of both, so any number of them come to one (`Patch.apply_history`). That a patch made twice
is a patch made once, and that the order of patches without a common field does not matter, are laws
of putting patches together (`Patch.applied`).
-/

namespace Ingestion

/-- What becomes of a field: it takes the value that is given, or is kept if none is. -/
structure Takes {α : Type} (given : Option α) (old new : α) : Prop where
  set : ∀ v, given = some v → new = v
  kept : given = none → new = old

theorem takes_iff {α : Type} {given : Option α} {old new : α} :
    Takes given old new ↔ new = given.getD old := by
  constructor
  · intro h
    cases hgiven : given with
    | none => exact h.kept hgiven
    | some v => exact h.set v hgiven
  · rintro rfl
    constructor
    · rintro v rfl
      rfl
    · rintro rfl
      rfl

namespace PolicyPatch

/-- The second policy is the first one with the fields of the patch changed. A time that the patch
clears is a field that it sets, to no time. -/
structure Changes (p : PolicyPatch) (s s' : SyncPolicy) : Prop where
  skipOnFail : Takes p.skipOnFail s.skipOnFail s'.skipOnFail
  fullSync : Takes p.fullSync s.fullSync s'.fullSync
  skipCollectors : Takes p.skipCollectors s.skipCollectors s'.skipCollectors
  timeAfter : Takes p.timeAfter s.timeAfter s'.timeAfter

theorem changes_iff {p : PolicyPatch} {s s' : SyncPolicy} :
    p.Changes s s' ↔ s' = p.apply s := by
  constructor
  · rintro ⟨hskip, hfull, hcollectors, htime⟩
    obtain ⟨skipOnFail, fullSync, skipCollectors, timeAfter⟩ := s'
    rw [apply, ← takes_iff.1 hskip, ← takes_iff.1 hfull, ← takes_iff.1 hcollectors,
      ← takes_iff.1 htime]
  · rintro rfl
    exact ⟨takes_iff.2 rfl, takes_iff.2 rfl, takes_iff.2 rfl, takes_iff.2 rfl⟩

theorem both_self (p : PolicyPatch) : p.both p = p := by
  simp only [both, Option.or_self]

end PolicyPatch

namespace Patch

/-- The second blueprint is the first one with the fields of the patch changed, the policy field by
field. What it is, how it comes to its plan and when it was created is kept in any case. -/
structure Changes (p : Patch) (b b' : Blueprint) : Prop where
  id : b'.id = b.id
  mode : b'.mode = b.mode
  createdAt : b'.createdAt = b.createdAt
  name : Takes p.name b.name b'.name
  projectName : Takes p.projectName b.projectName b'.projectName
  cronConfig : Takes p.cronConfig b.cronConfig b'.cronConfig
  isManual : Takes p.isManual b.isManual b'.isManual
  enable : Takes p.enable b.enable b'.enable
  connections : Takes p.connections b.connections b'.connections
  labels : Takes p.labels b.labels b'.labels
  syncPolicy : ∀ s, p.syncPolicy = some s → s.Changes b.syncPolicy b'.syncPolicy
  keptPolicy : p.syncPolicy = none → b'.syncPolicy = b.syncPolicy
  beforePlan : Takes p.beforePlan b.beforePlan b'.beforePlan
  afterPlan : Takes p.afterPlan b.afterPlan b'.afterPlan
  plan : Takes p.plan b.plan b'.plan

theorem changes_apply (p : Patch) (b : Blueprint) (t : Instant) : p.Changes b (p.apply b t) where
  id := rfl
  mode := rfl
  createdAt := rfl
  name := takes_iff.2 rfl
  projectName := takes_iff.2 rfl
  cronConfig := takes_iff.2 rfl
  isManual := takes_iff.2 rfl
  enable := takes_iff.2 rfl
  connections := takes_iff.2 rfl
  labels := takes_iff.2 rfl
  syncPolicy s hs := by
    rw [apply, hs]
    exact PolicyPatch.changes_iff.2 rfl
  keptPolicy hs := by
    rw [apply, hs]
    rfl
  beforePlan := takes_iff.2 rfl
  afterPlan := takes_iff.2 rfl
  plan := takes_iff.2 rfl

/-- A patch and a time leave one way to change a blueprint. -/
theorem Changes.unique {p : Patch} {b s s' : Blueprint} (h : p.Changes b s) (h' : p.Changes b s')
    (htime : s.updatedAt = s'.updatedAt) : s = s' := by
  have hfield {α : Type} {given : Option α} {old new new' : α} (h : Takes given old new)
      (h' : Takes given old new') : new = new' :=
    (takes_iff.1 h).trans (takes_iff.1 h').symm
  have hpolicy : s.syncPolicy = s'.syncPolicy := by
    cases hp : p.syncPolicy with
    | none => exact (h.keptPolicy hp).trans (h'.keptPolicy hp).symm
    | some change =>
      have hs := PolicyPatch.changes_iff.1 (h.syncPolicy change hp)
      exact hs.trans (PolicyPatch.changes_iff.1 (h'.syncPolicy change hp)).symm
  cases s
  cases s'
  simp only [Blueprint.mk.injEq]
  exact ⟨h.id.trans h'.id.symm, hfield h.name h'.name, h.mode.trans h'.mode.symm,
    hfield h.projectName h'.projectName, hfield h.cronConfig h'.cronConfig,
    hfield h.isManual h'.isManual, hfield h.enable h'.enable,
    hfield h.connections h'.connections, hfield h.labels h'.labels, hpolicy,
    hfield h.beforePlan h'.beforePlan, hfield h.afterPlan h'.afterPlan, hfield h.plan h'.plan,
    h.createdAt.trans h'.createdAt.symm, htime⟩

theorem both_self (p : Patch) : p.both p = p := by
  have hpolicy : p.syncPolicy.merge PolicyPatch.both p.syncPolicy = p.syncPolicy := by
    cases p.syncPolicy with
    | none => rfl
    | some s => exact congrArg some s.both_self
  simp only [both, Option.or_self, hpolicy]

/-! ## Patches one after another -/

/-- The blueprint after patches, each of them made at its time. -/
def applyAll (history : List (Patch × Instant)) (b : Blueprint) : Blueprint :=
  history.foldl (fun b e => e.1.apply b e.2) b

/-- The patches of a list as one. -/
def together (ps : List Patch) : Patch :=
  ps.foldl both {}

/-- Any number of patches come to one, made at the time of the last of them. -/
theorem apply_history (history : List (Patch × Instant)) (b : Blueprint) :
    applyAll history b = (together (history.map Prod.fst)).apply b
      ((history.map Prod.snd).getLastD b.updatedAt) := by
  induction history using List.reverseRecOn with
  | nil => rfl
  | append_singleton history e ih =>
    have hall : applyAll (history ++ [e]) b = e.1.apply (applyAll history b) e.2 := by
      simp [applyAll]
    rw [hall, ih, ← apply_both]
    simp [together]

/-- The order of patches that set no common field does not matter, but for the time of the
change. -/
theorem apply_comm {p q : Patch} (h : p.Disjoint q) (b : Blueprint) (t t' s s' u : Instant) :
    { q.apply (p.apply b t) t' with updatedAt := u } =
      { p.apply (q.apply b s) s' with updatedAt := u } := by
  rw [← apply_both, ← apply_both, both_comm h]
  rfl

/-- A patch changes the fields that it sets, and the time of the change, and keeps all others. Made
after another one it comes to the patch that sets the fields of both. If no field is set by both,
the order does not matter, but for the time of the change. Made twice at one time it comes to the
same as made once. -/
theorem applied (p q : Patch) (b : Blueprint) (t t' : Instant) :
    (∀ b', p.Changes b b' ∧ b'.updatedAt = t ↔ b' = p.apply b t) ∧
      q.apply (p.apply b t) t' = (p.both q).apply b t' ∧
      (p.Disjoint q → ∀ s s' u, { q.apply (p.apply b t) t' with updatedAt := u } =
        { p.apply (q.apply b s) s' with updatedAt := u }) ∧
      p.apply (p.apply b t) t = p.apply b t := by
  refine ⟨fun b' => ⟨?_, ?_⟩, (apply_both p q b t t').symm,
    fun h s s' u => apply_comm h b t t' s s' u, ?_⟩
  · rintro ⟨hchanges, htime⟩
    exact hchanges.unique (changes_apply p b t) htime
  · rintro rfl
    exact ⟨changes_apply p b t, rfl⟩
  · rw [← apply_both, both_self]

end Patch

/-! ## A policy patched twice -/

namespace Sample

/-- A blueprint that collects nothing older than the beginning of time. -/
def dated : Blueprint :=
  ({ name := "dated", mode := .normal, syncPolicy := { timeAfter := some (.midnight .epoch) } } :
    Draft).toBlueprint (.ofNat 1) (.midnight .epoch)

/-- Clears the time of the policy. -/
def undate : Patch where
  syncPolicy := some { timeAfter := some none }

/-- Collects everything anew, under another name. -/
def renew : Patch where
  name := some "renewed"
  syncPolicy := some { fullSync := some true }

theorem undate_disjoint_renew : undate.Disjoint renew where
  name := .inl rfl
  projectName := .inl rfl
  cronConfig := .inl rfl
  isManual := .inl rfl
  enable := .inl rfl
  connections := .inl rfl
  labels := .inl rfl
  syncPolicy := by
    rintro s t ⟨⟩ ⟨⟩
    exact ⟨.inl rfl, .inl rfl, .inl rfl, .inr rfl⟩
  beforePlan := .inl rfl
  afterPlan := .inl rfl
  plan := .inl rfl

end Sample

/-- A time that one patch clears stays cleared under the other one, whichever comes first. -/
theorem Patch.renew_undate_applied :
    Sample.undate.Disjoint Sample.renew ∧
      { Sample.renew.apply (Sample.undate.apply Sample.dated (.midnight .epoch)) (.midnight .epoch)
        with updatedAt := .midnight .epoch } =
      { Sample.undate.apply (Sample.renew.apply Sample.dated (.midnight .epoch)) (.midnight .epoch)
        with updatedAt := .midnight .epoch } ∧
      (Sample.undate.both Sample.renew).syncPolicy =
        some { fullSync := some true, timeAfter := some none } ∧
      (Sample.renew.apply (Sample.undate.apply Sample.dated (.midnight .epoch))
        (.midnight .epoch)).syncPolicy = { fullSync := true, timeAfter := none } := by
  obtain ⟨-, hboth, hcomm, -⟩ :=
    applied Sample.undate Sample.renew Sample.dated (.midnight .epoch) (.midnight .epoch)
  refine ⟨Sample.undate_disjoint_renew, hcomm Sample.undate_disjoint_renew _ _ _, rfl, ?_⟩
  rw [hboth]
  rfl

end Ingestion
