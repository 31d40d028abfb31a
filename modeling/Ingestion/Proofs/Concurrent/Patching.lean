import Mathlib
import Ingestion.Proofs.Blueprint.Patch
import Ingestion.Proofs.Concurrent.Deletion
import Ingestion.Proofs.Concurrent.Ownership
import Ingestion.Proofs.Store.Settings

/-!
# Two patches at the same time

A patch reads the blueprint, changes its fields, and saves it as a whole. Of two patches of the same
blueprint both are kept if one reads after the other has saved. If each reads before the other one
saves, the one that saves last is kept alone: it has not seen the changes of the first one
(`Run.patches_kept_in_turn`).

There is one field that need not have the patched value. Each of the two saves sets the flag for
runs by hand if the cron expression that it saves asks for them.
-/

namespace Ingestion

/-- The plan of a blueprint is the one that is generated from its fields and the settings of the
store. -/
def Blueprint.PlanDerived (registry : Registry) (m : Memory) (b : Blueprint) : Prop :=
  ∃ generated, registry.generate (b.planRequest b.syncPolicy
      (if b.hasProject then m.findMetrics b.projectName else [])) = .ok generated ∧
    b.plan = b.wrapPlan generated

/-- The plan depends on the store through the settings of the project only. -/
theorem Blueprint.PlanDerived.of_findMetrics_eq {registry : Registry} {m m' : Memory}
    {b : Blueprint} (h : b.PlanDerived registry m) (hsame : b.hasProject = true →
      m'.findMetrics b.projectName = m.findMetrics b.projectName) : b.PlanDerived registry m' := by
  obtain ⟨generated, hgenerated, hplan⟩ := h
  refine ⟨generated, ?_, hplan⟩
  rw [← hgenerated]
  by_cases hproject : b.hasProject = true
  · rw [if_pos hproject, if_pos hproject, hsame hproject]
  · rw [if_neg hproject, if_neg hproject]

/-- A plan that is composed from the settings of the store is derived from it. -/
theorem Blueprint.Composes.planDerived {registry : Registry} {m : Memory}
    {replies : (c : Call) → c.Reply → Prop} {b : Blueprint} {plan : Plan}
    (h : b.Composes replies b.syncPolicy plan)
    (hmetrics : ∀ project settings, replies (.findMetrics project) (.ok settings) →
      settings = m.findMetrics project)
    (hgenerate : ∀ request generated, replies (.generatePlan request) (.ok generated) →
      registry.generate request = .ok generated) : { b with plan }.PlanDerived registry m := by
  obtain ⟨settings, generated, hsettings, hgenerated, hplan⟩ := h
  refine ⟨generated, ?_, hplan⟩
  have hsettings' : settings = if b.hasProject then m.findMetrics b.projectName else [] := by
    rw [SettingsAre] at hsettings
    split at hsettings
    · next hproject =>
      rw [if_pos hproject]
      exact hmetrics _ _ hsettings
    · next hproject =>
      rw [if_neg hproject]
      exact hsettings
  rw [hsettings'] at hgenerated
  exact hgenerate _ _ hgenerated

namespace Run

variable {registry : Registry}

/-- The request `k` reads a blueprint at the moment `m` and saves another version of it at `w`. -/
structure Round (r : Run registry) (k : Nat) (id : Uuid) (m w : Nat) (read saved : Blueprint) :
    Prop where
  lt : m < w
  read : r.Exchanges m k (.findBlueprint id) (.ok (some read))
  save : r.Exchanges w k (.saveBlueprint saved) (.ok ())

variable {r : Run registry}

theorem exists_round {j k : Nat} {id : Uuid} {p : Patch}
    (h : (r.state j).Succeeded k (.patch id p)) :
    ∃ m w read saved t, w < j ∧ r.Round k id m w read saved ∧
      (p.apply read t).Completes (r.Occurs k) saved := by
  obtain ⟨w, hw, hwk, -⟩ := r.exists_covered_write h rfl
  have hcarries : r.Carries j k (.patch id p) := by
    obtain ⟨p, hp, hc, -⟩ := h
    exact ⟨p, hp, hc⟩
  rcases hwk with ⟨saved, he⟩ | ⟨id', he⟩
  · obtain ⟨c, b₀, hcarries', hdrafted, hcompletes⟩ := he.save_origin
    cases hcarries.unique hcarries'
    cases hdrafted with
    | @patch _ _ read t m hm hread =>
      exact ⟨m, w, read, saved, t, hw, ⟨hm, hread, he⟩, hcompletes⟩
  · cases hcarries.unique he.delete_origin

/-- What a request does, it does after it has arrived. -/
theorem Exchanges.lt_of_arrived {i m k : Nat} {c : Call} {reply : c.Reply}
    (h : r.Exchanges m k c reply) (hk : (r.state i).requests.length ≤ k) : i < m := by
  by_contra him
  obtain ⟨p, -, hp, -⟩ := h.requests_get
  obtain ⟨p', hp', -⟩ := r.command_stays (Nat.le_of_not_lt him) hp
  exact absurd (List.getElem?_eq_some_iff.1 hp').1 (Nat.not_lt.2 hk)

theorem Exchanges.le_of_arrived {i m k : Nat} {c : Call} {reply : c.Reply}
    (h : r.Exchanges m k c reply) (hk : (r.state i).requests.length ≤ k) : i ≤ m :=
  (h.lt_of_arrived hk).le

/-- Between two moments at which nobody puts settings they stay the same. -/
theorem metrics_eq {i j : Nat} (hij : i ≤ j)
    (h : ∀ x, i ≤ x → x < j → ∀ m, r.action x ≠ .putMetric m) :
    (r.memory j).metrics = (r.memory i).metrics := by
  induction j, hij using Nat.le_induction with
  | base => rfl
  | succ j hij ih =>
    have hstep : (r.memory (j + 1)).metrics = (r.memory j).metrics := by
      rcases r.step_cases j with ⟨k, c, reply, he⟩ | ho
      · exact he.frame.metrics
      · exact ho.metrics (h j hij (Nat.lt_succ_self j))
    rw [hstep]
    exact ih fun x hx hxj => h x hx (Nat.lt_succ_of_lt hxj)

theorem memory_putMetric {i : Nat} {m : MetricSetting} (h : r.action i = .putMetric m) :
    r.memory (i + 1) = (r.memory i).putMetric m := by
  have hstep := r.step i
  rw [h] at hstep
  rw [memory, ← Option.some.inj hstep]
  rfl

variable (r) in
/-- From the moment `i` on nobody puts a setting of a project before the moment `j`. -/
def NoSettingPut (i j : Nat) (project : String) : Prop :=
  ∀ x, i ≤ x → x < j → ∀ m, r.action x = .putMetric m → m.projectName ≠ project

/-- The settings of a project stay the same while nobody puts one of them. -/
theorem findMetrics_eq {i j : Nat} (hij : i ≤ j) {project : String}
    (h : r.NoSettingPut i j project) :
    (r.memory j).findMetrics project = (r.memory i).findMetrics project := by
  induction j, hij using Nat.le_induction with
  | base => rfl
  | succ j hij ih =>
    rw [← ih fun x hx hxj => h x hx (Nat.lt_succ_of_lt hxj)]
    by_cases hput : ∃ m, r.action j = .putMetric m
    · obtain ⟨m, hm⟩ := hput
      rw [memory_putMetric hm,
        Memory.findMetrics_putMetric_of_ne (h j hij (Nat.lt_succ_self j) m hm)]
    · have hmetrics : (r.memory (j + 1)).metrics = (r.memory j).metrics := by
        refine metrics_eq (Nat.le_succ j) fun x hx hxj m hm => hput ⟨m, ?_⟩
        rwa [Nat.le_antisymm (Nat.le_of_lt_succ hxj) hx] at hm
      rw [Memory.findMetrics, Memory.findMetrics, hmetrics]

theorem Exchanges.findMetrics_reply {m k : Nat} {project : String}
    {reply : (Call.findMetrics project).Reply} (h : r.Exchanges m k (.findMetrics project) reply) :
    reply = .ok ((r.memory m).findMetrics project) :=
  h.reply_eq fun _ => rfl

theorem Exchanges.generatePlan_reply {m k : Nat} {request : PlanRequest}
    {reply : (Call.generatePlan request).Reply}
    (h : r.Exchanges m k (.generatePlan request) reply) :
    reply = registry.generate request :=
  h.reply_eq fun _ => rfl

/-- A blueprint that is saved in mode `NORMAL` has a plan that is derived from the store as its
request has found it before. -/
theorem Exchanges.save_derived {w k : Nat} {b : Blueprint}
    (h : r.Exchanges w k (.saveBlueprint b) (.ok ())) (hmode : b.mode = .normal) :
    ∃ v ≤ w, b.PlanDerived registry (r.memory v) ∧ (b.hasProject = true →
      r.Exchanges v k (.findMetrics b.projectName)
        (.ok ((r.memory v).findMetrics b.projectName))) := by
  -- All replies that validation rests on have come by now.
  have hstop : (r.stop (w + 1)).Exchanges w k (.saveBlueprint b) (.ok ()) :=
    stop_exchanges_iff.2 ⟨Nat.lt_succ_self w, h⟩
  obtain ⟨c, b₀, -, -, hcompletes⟩ := hstop.save_origin
  have hmode₀ : b₀.mode = .normal := hcompletes.mode_eq.symm.trans hmode
  obtain ⟨settings, generated, hsettings, ⟨u, hu⟩, hplan⟩ := hcompletes.normal hmode₀
  have hgenerated : registry.generate (b.planRequest b.syncPolicy settings) = .ok generated :=
    (stop_exchanges_iff.1 hu).2.generatePlan_reply.symm
  rw [Blueprint.SettingsAre] at hsettings
  by_cases hproject : b.hasProject = true
  · rw [if_pos hproject] at hsettings
    obtain ⟨v, hv⟩ := hsettings
    obtain ⟨hvw, hread⟩ := stop_exchanges_iff.1 hv
    have hreply : settings = (r.memory v).findMetrics b.projectName :=
      Except.ok.inj hread.findMetrics_reply
    rw [hreply] at hread hgenerated
    refine ⟨v, Nat.le_of_lt_succ hvw, ⟨generated, ?_, hplan⟩, fun _ => hread⟩
    rw [if_pos hproject]
    exact hgenerated
  · rw [if_neg hproject] at hsettings
    refine ⟨w, le_rfl, ⟨generated, ?_, hplan⟩, fun h => absurd h hproject⟩
    rw [if_neg hproject, ← hsettings]
    exact hgenerated

/-- What a request saves in mode `NORMAL` has a plan that is derived from the store of some moment
while the request is under way. If nobody puts a setting of the project from then on, it is also
derived from the store of a later moment. -/
theorem Exchanges.save_derived_since {i j w k : Nat} {b : Blueprint}
    (h : r.Exchanges w k (.saveBlueprint b) (.ok ())) (hk : (r.state i).requests.length ≤ k)
    (hwj : w < j) (hmode : b.mode = .normal) :
    ∃ v, i ≤ v ∧ v < j ∧ b.PlanDerived registry (r.memory v) ∧
      (r.NoSettingPut v j b.projectName → b.PlanDerived registry (r.memory j)) := by
  obtain ⟨v, hvw, hderived, hread⟩ := h.save_derived hmode
  by_cases hproject : b.hasProject = true
  · refine ⟨v, (hread hproject).le_of_arrived hk, hvw.trans_lt hwj, hderived, fun hput => ?_⟩
    exact hderived.of_findMetrics_eq fun _ => findMetrics_eq (hvw.trans hwj.le) hput
  · have hany (m : Memory) : b.PlanDerived registry m :=
      hderived.of_findMetrics_eq fun h => absurd h hproject
    exact ⟨w, h.le_of_arrived hk, hwj, hany _, fun _ => hany _⟩

/-! ## Two rounds -/

theorem findBlueprint_eq_of_no_write {i j : Nat} (hij : i ≤ j)
    (h : ∀ w, i ≤ w → w < j → ∀ k, ¬ r.Writes w k) (id : Uuid) :
    (r.memory j).findBlueprint id = (r.memory i).findBlueprint id := by
  rw [Memory.findBlueprint, Memory.findBlueprint, r.blueprints_eq_of_no_write hij h]

theorem Exchanges.stored_next {w k : Nat} {b : Blueprint}
    (h : r.Exchanges w k (.saveBlueprint b) (.ok ())) :
    (r.memory (w + 1)).findBlueprint b.id = some b := by
  rw [Memory.findBlueprint, h.saved, Table.find?_insert_self]

/-- What two rounds read and leave if nobody else writes and the first one saves first. -/
theorem Round.in_order {i j k₁ k₂ m₁ m₂ w₁ w₂ : Nat} {b b₁ b₂ s₁ s₂ : Blueprint} {id : Uuid}
    (h₁ : r.Round k₁ id m₁ w₁ b₁ s₁) (h₂ : r.Round k₂ id m₂ w₂ b₂ s₂) (hi₁ : i ≤ m₁) (hi₂ : i ≤ m₂)
    (hs₁ : s₁.id = b₁.id) (hs₂ : s₂.id = b₂.id) (hw : w₁ < w₂) (hj : w₂ < j)
    (honly : ∀ w k, i ≤ w → w < j → r.Writes w k → w = w₁ ∨ w = w₂)
    (hb : (r.memory i).findBlueprint id = some b) :
    b₁ = b ∧ (m₂ ≤ w₁ → b₂ = b) ∧ (w₁ < m₂ → b₂ = s₁) ∧
      (r.memory j).findBlueprint id = some s₂ := by
  have hid₁ : s₁.id = id := hs₁.trans (r.keyed m₁ h₁.read.found)
  have hid₂ : s₂.id = id := hs₂.trans (r.keyed m₂ h₂.read.found)
  have hlt₁ := h₁.lt
  -- The store holds `b` up to the first save, then `s₁` up to the second one, and then `s₂`.
  have hbefore : ∀ x, i ≤ x → x ≤ w₁ → (r.memory x).findBlueprint id = some b := by
    intro x hx hx'
    rw [findBlueprint_eq_of_no_write hx ?_ id, hb]
    intro w hiw hwx k hwk
    rcases honly w k hiw (by omega) hwk with rfl | rfl <;> omega
  have hbetween : ∀ x, w₁ < x → x ≤ w₂ → (r.memory x).findBlueprint id = some s₁ := by
    intro x hx hx'
    rw [findBlueprint_eq_of_no_write (Nat.succ_le_of_lt hx) ?_ id, ← hid₁]
    · exact h₁.save.stored_next
    · intro w hw' hwx k hwk
      rcases honly w k (by omega) (by omega) hwk with rfl | rfl <;> omega
  have hafter : (r.memory j).findBlueprint id = some s₂ := by
    rw [findBlueprint_eq_of_no_write (Nat.succ_le_of_lt hj) ?_ id, ← hid₂]
    · exact h₂.save.stored_next
    · intro w hw' hwj k hwk
      rcases honly w k (by omega) hwj hwk with rfl | rfl <;> omega
  refine ⟨?_, fun hm => ?_, fun hm => ?_, hafter⟩
  · exact Option.some.inj (h₁.read.found.symm.trans (hbefore m₁ hi₁ hlt₁.le))
  · exact Option.some.inj (h₂.read.found.symm.trans (hbefore m₂ hi₂ hm))
  · exact Option.some.inj (h₂.read.found.symm.trans (hbetween m₂ hm h₂.lt.le))

/-- What is stored in the end if the first round saves first. -/
theorem Round.leaves {i j k₁ k₂ m₁ m₂ w₁ w₂ : Nat} {b b₁ b₂ s₁ s₂ : Blueprint} {id : Uuid}
    {p q : Patch} {t₁ t₂ : Instant} (h₁ : r.Round k₁ id m₁ w₁ b₁ s₁)
    (h₂ : r.Round k₂ id m₂ w₂ b₂ s₂) (hi₁ : i ≤ m₁) (hi₂ : i ≤ m₂)
    (hc₁ : (p.apply b₁ t₁).Completes (r.Occurs k₁) s₁)
    (hc₂ : (q.apply b₂ t₂).Completes (r.Occurs k₂) s₂) (hw : w₁ < w₂) (hj : w₂ < j)
    (honly : ∀ w k, i ≤ w → w < j → r.Writes w k → w = w₁ ∨ w = w₂)
    (hb : (r.memory i).findBlueprint id = some b) :
    (r.memory j).findBlueprint id = some s₂ ∧
      (w₁ < m₂ → (p.both q).KeptBy (p.ForcesManualInTurn q b) b s₂) ∧
      (m₂ ≤ w₁ → q.KeptBy (q.ForcesManual b) b s₂) := by
  obtain ⟨rfl, hearly, hlate, hstored⟩ :=
    h₁.in_order h₂ hi₁ hi₂ hc₁.id_eq hc₂.id_eq hw hj honly hb
  refine ⟨hstored, fun hm => ?_, fun hm => ?_⟩
  · obtain rfl := hlate hm
    exact (Patch.keptBy_of_completes hc₁).both (Patch.keptBy_of_completes hc₂)
  · obtain rfl := hearly hm
    exact Patch.keptBy_of_completes hc₂

variable (r) in
/-- From the moment `i` on two patches of a stored blueprint arrive that set different fields. Both
of them have succeeded by the moment `j`, and nobody else has written. -/
structure PatchPair (i j k₁ k₂ : Nat) (id : Uuid) (p q : Patch) (b : Blueprint) : Prop where
  stored : (r.memory i).findBlueprint id = some b
  arrives₁ : (r.state i).requests.length ≤ k₁
  arrives₂ : (r.state i).requests.length ≤ k₂
  succeeds₁ : (r.state j).Succeeded k₁ (.patch id p)
  succeeds₂ : (r.state j).Succeeded k₂ (.patch id q)
  ne : k₁ ≠ k₂
  disjoint : p.Disjoint q
  only : ∀ w k, i ≤ w → w < j → r.Writes w k → k = k₁ ∨ k = k₂

end Run

/-! ## A lost change, and a forced one -/

namespace Sample

/-- A change of the name. -/
def rename : Patch :=
  { name := some "weekly" }

/-- A change of whether the blueprint is enabled. -/
def disable : Patch :=
  { enable := some false }

/-- A change to runs by the cron expression. -/
def automate : Patch :=
  { isManual := some false }

/-- A change of the cron expression to one that asks for runs by hand. -/
def handOver : Patch :=
  { cronConfig := some "Manual" }

theorem rename_disjoint_disable : rename.Disjoint disable where
  name := .inr rfl
  projectName := .inr rfl
  cronConfig := .inr rfl
  isManual := .inr rfl
  enable := .inl rfl
  connections := .inr rfl
  labels := .inr rfl
  syncPolicy := by rintro s t ⟨⟩
  beforePlan := .inr rfl
  afterPlan := .inr rfl
  plan := .inr rfl

theorem automate_disjoint_handOver : automate.Disjoint handOver where
  name := .inr rfl
  projectName := .inr rfl
  cronConfig := .inl rfl
  isManual := .inr rfl
  enable := .inr rfl
  connections := .inr rfl
  labels := .inr rfl
  syncPolicy := by rintro s t ⟨⟩
  beforePlan := .inr rfl
  afterPlan := .inr rfl
  plan := .inr rfl

/-- Both patches read the blueprint and the clock. Then the first one is carried on to its end, and
then the second one. -/
def overlap : Run {} :=
  .ofActions {} stocked
    ([.arrive (.patch nightly.id rename), .arrive (.patch nightly.id disable)] ++
      List.replicate 2 (.proceed 0 chance) ++ List.replicate 2 (.proceed 1 chance) ++
      List.replicate 5 (.proceed 0 chance) ++ List.replicate 5 (.proceed 1 chance))
    stocked_initial (by decide +kernel)

/-- The second patch arrives when the first one has come to its end. -/
def turns : Run {} :=
  .ofActions {} stocked
    (.arrive (.patch nightly.id automate) :: List.replicate 7 (.proceed 0 chance) ++
      .arrive (.patch nightly.id handOver) :: List.replicate 7 (.proceed 1 chance))
    stocked_initial (by decide +kernel)

theorem overlap_pair :
    overlap.PatchPair 0 16 0 1 nightly.id rename disable nightly where
  stored := Table.find?_insert_self _ _ _
  arrives₁ := by decide
  arrives₂ := by decide
  succeeds₁ := overlap.succeeded_of_arrived (i := 1) (by decide) rfl (by decide +kernel)
  succeeds₂ := overlap.succeeded_of_arrived (i := 2) (by decide) rfl (by decide +kernel)
  ne := by decide
  disjoint := rename_disjoint_disable
  only w k _ hw h := by
    have hlength : (overlap.state 16).requests.length = 2 := by decide +kernel
    have hk := h.lt_length hw
    omega

theorem turns_pair : turns.PatchPair 0 16 0 1 nightly.id automate handOver nightly where
  stored := Table.find?_insert_self _ _ _
  arrives₁ := by decide
  arrives₂ := by decide
  succeeds₁ := turns.succeeded_of_arrived (i := 1) (by decide) rfl (by decide +kernel)
  succeeds₂ := turns.succeeded_of_arrived (by decide)
    (turns.arrived_of_arrive (i := 8) rfl (by decide +kernel)) (by decide +kernel)
  ne := by decide
  disjoint := automate_disjoint_handOver
  only w k _ hw h := by
    have hlength : (turns.state 16).requests.length = 2 := by decide +kernel
    have hk := h.lt_length hw
    omega

/-- The second patch reads what the first one has saved. -/
theorem turns_in_order {m₁ w₁ m₂ w₂ : Nat} {b₁ s₁ b₂ s₂ : Blueprint}
    (h₁ : turns.Round 0 nightly.id m₁ w₁ b₁ s₁) (h₂ : turns.Round 1 nightly.id m₂ w₂ b₂ s₂) :
    w₁ < m₂ := by
  have hended : (turns.state 8).Succeeded 0 (.patch nightly.id automate) :=
    turns.succeeded_of_arrived (i := 1) (by decide) rfl (by decide +kernel)
  obtain ⟨_, w, _, _, _, hw, h, -⟩ := Run.exists_round hended
  obtain rfl : w = w₁ := Run.Writes.moment_unique (.inl ⟨_, h.save⟩) (.inl ⟨_, h₁.save⟩)
  have hlength : (turns.state 8).requests.length = 1 := by decide +kernel
  exact hw.trans (h₂.read.lt_of_arrived hlength.le)

/-- The blueprint is not renamed in the end. -/
theorem overlap_not_renamed {s : Blueprint} {p : Patch} {forced : Prop}
    (hp : p.name = some "weekly") (hs : (overlap.memory 16).findBlueprint nightly.id = some s) :
    ¬ p.KeptBy forced nightly s := by
  intro hkept
  have hname : ((overlap.memory 16).findBlueprint nightly.id).any (fun s => s.name == "nightly") :=
    by decide +kernel
  obtain ⟨t, plan, hfields⟩ := hkept.fields
  have hweekly : s.name = "weekly" := by
    rw [hfields]
    change p.name.getD nightly.name = "weekly"
    rw [hp, Option.getD_some]
  rw [hs, Option.any_some, hweekly] at hname
  exact absurd hname (by decide)

/-- The flag for runs by hand does not have the value of the patch in the end. -/
theorem turns_manual {s : Blueprint}
    (hs : (turns.memory 16).findBlueprint nightly.id = some s) : s.isManual = true := by
  have hmanual : ((turns.memory 16).findBlueprint nightly.id).any (·.isManual) := by
    decide +kernel
  rwa [hs, Option.any_some] at hmanual

end Sample

namespace Run

variable {registry : Registry} {r : Run registry}

/-- Two patches of a stored blueprint that set different fields succeed, while nobody else writes.
If one reads after the other has saved, both are kept. If each reads before the other saves, the one
that saves last is kept alone. The flag for runs by hand is set besides if a cron expression that is
saved together with it asks for them. In either case a derived plan is derived from what is stored,
with the settings of a moment while the patches are under way. These are the settings at the end if
no setting of the project is put in between. -/
theorem patches_kept_in_turn {i j k₁ k₂ : Nat} {id : Uuid} {p q : Patch} {b : Blueprint}
    (h : r.PatchPair i j k₁ k₂ id p q b) :
    ∃ m₁ w₁ b₁ s₁ m₂ w₂ b₂ s₂ s,
      r.Round k₁ id m₁ w₁ b₁ s₁ ∧ r.Round k₂ id m₂ w₂ b₂ s₂ ∧ w₁ < j ∧ w₂ < j ∧
      (r.memory j).findBlueprint id = some s ∧
      (w₁ < m₂ → (p.both q).KeptBy (p.ForcesManualInTurn q b) b s) ∧
      (w₂ < m₁ → (p.both q).KeptBy (q.ForcesManualInTurn p b) b s) ∧
      (m₁ ≤ w₂ → m₂ ≤ w₁ →
        if w₁ < w₂ then q.KeptBy (q.ForcesManual b) b s else p.KeptBy (p.ForcesManual b) b s) ∧
      (s.mode = .normal → ∃ v, i ≤ v ∧ v < j ∧ s.PlanDerived registry (r.memory v) ∧
        (r.NoSettingPut v j s.projectName → s.PlanDerived registry (r.memory j))) := by
  obtain ⟨m₁, w₁, b₁, s₁, t₁, hw₁, h₁, hc₁⟩ := exists_round h.succeeds₁
  obtain ⟨m₂, w₂, b₂, s₂, t₂, hw₂, h₂, hc₂⟩ := exists_round h.succeeds₂
  have hi₁ := h₁.read.le_of_arrived h.arrives₁
  have hi₂ := h₂.read.le_of_arrived h.arrives₂
  -- Each of the two requests writes once.
  have hmoments : ∀ w k, i ≤ w → w < j → r.Writes w k → w = w₁ ∨ w = w₂ := by
    intro w k hiw hwj hwk
    rcases h.only w k hiw hwj hwk with rfl | rfl
    · exact .inl (hwk.moment_unique (.inl ⟨_, h₁.save⟩))
    · exact .inr (hwk.moment_unique (.inl ⟨_, h₂.save⟩))
  have hw : w₁ ≠ w₂ := by
    rintro rfl
    exact h.ne (h₁.save.unique h₂.save).1
  have hlt₁ := h₁.lt
  have hlt₂ := h₂.lt
  refine ⟨m₁, w₁, b₁, s₁, m₂, w₂, b₂, s₂, if w₁ < w₂ then s₂ else s₁, h₁, h₂, hw₁, hw₂, ?_⟩
  rcases Nat.lt_or_gt_of_ne hw with hlt | hlt
  · obtain ⟨hstored, hboth, halone⟩ :=
      h₁.leaves h₂ hi₁ hi₂ hc₁ hc₂ hlt hw₂ hmoments h.stored
    rw [if_pos hlt, if_pos hlt]
    exact ⟨hstored, hboth, fun hm => absurd hm (by omega), fun _ hm => halone hm,
      h₂.save.save_derived_since h.arrives₂ hw₂⟩
  · obtain ⟨hstored, hboth, halone⟩ := h₂.leaves h₁ hi₂ hi₁ hc₂ hc₁ hlt hw₁
      (fun w k hiw hwj hwk => (hmoments w k hiw hwj hwk).symm) h.stored
    rw [if_neg (Nat.lt_asymm hlt), if_neg (Nat.lt_asymm hlt), Patch.both_comm h.disjoint]
    exact ⟨hstored, fun hm => absurd hm (by omega), hboth, fun hm _ => halone hm,
      h₁.save.save_derived_since h.arrives₁ hw₁⟩

/-- Of two patches that overlap one can be lost, although they set different fields. And of two
patches in turn the flag for runs by hand need not have the value that one of them sets. -/
theorem overlapping_patch_lost :
    (¬ ∀ (registry : Registry) (r : Run registry) (i j k₁ k₂ : Nat) (id : Uuid) (p q : Patch)
      (b : Blueprint), r.PatchPair i j k₁ k₂ id p q b →
        ∃ s, (r.memory j).findBlueprint id = some s ∧ ∃ forced, (p.both q).KeptBy forced b s) ∧
    ¬ ∀ (registry : Registry) (r : Run registry) (i j k₁ k₂ : Nat) (id : Uuid) (p q : Patch)
      (b : Blueprint), r.PatchPair i j k₁ k₂ id p q b →
        (∀ m₁ w₁ b₁ s₁ m₂ w₂ b₂ s₂, r.Round k₁ id m₁ w₁ b₁ s₁ → r.Round k₂ id m₂ w₂ b₂ s₂ →
          w₁ < m₂) →
        ∃ s, (r.memory j).findBlueprint id = some s ∧ (p.both q).KeptBy False b s := by
  constructor
  · intro h
    obtain ⟨s, hs, forced, hkept⟩ := h {} Sample.overlap 0 16 0 1 _ _ _ _ Sample.overlap_pair
    exact Sample.overlap_not_renamed rfl hs hkept
  · intro h
    obtain ⟨s, hs, hkept⟩ := h {} Sample.turns 0 16 0 1 _ _ _ _ Sample.turns_pair
      fun _ _ _ _ _ _ _ _ h₁ h₂ => Sample.turns_in_order h₁ h₂
    rcases hkept.isManual.1 (Sample.turns_manual hs) with hflag | hforced
    · cases hflag
    · exact hforced

/-- In one run the patch that saves last is kept alone. In the other one both are kept, but for the
flag that the new cron expression forces. -/
theorem overlap_and_turns_kept :
    (∃ s, (Sample.overlap.memory 16).findBlueprint Sample.nightly.id = some s ∧
      Sample.disable.KeptBy (Sample.disable.ForcesManual Sample.nightly) Sample.nightly s) ∧
    ∃ s, (Sample.turns.memory 16).findBlueprint Sample.nightly.id = some s ∧
      (Sample.automate.both Sample.handOver).KeptBy
        (Sample.automate.ForcesManualInTurn Sample.handOver Sample.nightly) Sample.nightly s ∧
      s.isManual = true := by
  constructor
  · obtain ⟨m₁, w₁, b₁, s₁, m₂, w₂, b₂, s₂, s, -, -, -, -, hs, hfirst, hsecond, halone, -⟩ :=
      patches_kept_in_turn Sample.overlap_pair
    have hle₁ : m₂ ≤ w₁ := Nat.not_lt.1 fun hm => Sample.overlap_not_renamed rfl hs (hfirst hm)
    have hle₂ : m₁ ≤ w₂ := Nat.not_lt.1 fun hm => Sample.overlap_not_renamed rfl hs (hsecond hm)
    have hkept := halone hle₂ hle₁
    split at hkept
    · exact ⟨s, hs, hkept⟩
    · exact absurd hkept (Sample.overlap_not_renamed rfl hs)
  · obtain ⟨m₁, w₁, b₁, s₁, m₂, w₂, b₂, s₂, s, h₁, h₂, -, -, hs, hfirst, -⟩ :=
      patches_kept_in_turn Sample.turns_pair
    have hkept := hfirst (Sample.turns_in_order h₁ h₂)
    refine ⟨s, hs, hkept, hkept.isManual.2 (.inr (.inl ?_))⟩
    exact (Blueprint.isManualCron_iff (b := { Sample.nightly with cronConfig := "Manual" })).1
      (by decide)

end Run

end Ingestion
