import Mathlib
import Ingestion.Proofs.Concurrent.Acceptance
import Ingestion.Proofs.Concurrent.Patching

/-!
# Valid records

In a run that starts without blueprints every stored blueprint is valid, whatever patches have made
of it (`Run.stored_valid`): all that is stored has passed validation as a whole, and not only in the
fields that a patch has set. Validation does not look at the mode and the times. The mode and the
time of the creation are kept because a patch sets neither of them, and no request saves a blueprint
before the time that it has read for it.
-/

namespace Ingestion

namespace Blueprint

/-- A blueprint obeys all rules for stored blueprints, among them that its plan is one for its
mode. -/
structure Valid (registry : Registry) (b : Blueprint) : Prop where
  name_not_blank : Text.isBlank b.name = false
  name_length : b.name.length ≤ 255
  labels_not_blank : ∀ label ∈ b.labels, Text.isBlank label = false
  plugins_not_blank : ∀ c ∈ b.connections, Text.isBlank c.pluginName = false
  manual : b.isManualCron = true → b.isManual = true
  cron : b.isManual = false → b.Readable
  advanced : b.mode = .advanced → b.plan.stages ≠ []
  normal : b.mode = .normal → ∃ settings generated,
    registry.generate (b.planRequest b.syncPolicy settings) = .ok generated ∧
      b.plan.stages = b.beforePlan.stages ++ generated.stages ++ b.afterPlan.stages

theorem ite_some_eq_none {α : Type} {p : Prop} [Decidable p] {a : α} {o : Option α} :
    (if p then some a else o) = none ↔ ¬ p ∧ o = none := by
  by_cases h : p <;> simp [h]

theorem checkForm_eq_ok_iff {b : Blueprint} : b.checkForm = .ok () ↔ b.formFault? = none := by
  rw [checkForm]
  cases b.formFault? with
  | none => exact ⟨fun _ => rfl, fun _ => rfl⟩
  | some detail =>
    constructor
    · intro h
      cases h
    · intro h
      cases h

/-- What the check of the form lets through. -/
theorem formFault?_eq_none_iff {b : Blueprint} : b.formFault? = none ↔
    Text.isBlank b.name = false ∧ b.name.length ≤ 255 ∧
      (b.isManual = false → Text.isBlank b.cronConfig = false) ∧
      (∀ label ∈ b.labels, Text.isBlank label = false) ∧
      ∀ c ∈ b.connections, Text.isBlank c.pluginName = false := by
  simp only [formFault?, ite_some_eq_none, Bool.not_eq_true, List.any_eq_false, Nat.not_lt,
    Bool.and_eq_false_imp, Bool.not_eq_true', and_true]
  exact Iff.rfl

theorem wrapPlan_stages (b : Blueprint) (generated : Plan) :
    (b.wrapPlan generated).stages =
      b.beforePlan.stages ++ generated.stages ++ b.afterPlan.stages := by
  simp [wrapPlan, Plan.sequentialize]

/-- What passes validation is valid. -/
theorem Passes.valid {registry : Registry} {replies : (c : Call) → c.Reply → Prop}
    {b b' : Blueprint} (h : b.Passes replies b')
    (hgenerate : ∀ request generated, replies (.generatePlan request) (.ok generated) →
      registry.generate request = .ok generated) : b'.Valid registry := by
  obtain ⟨hname, hlength, -, hlabels, hplugins⟩ :=
    formFault?_eq_none_iff.1 (checkForm_eq_ok_iff.1 h.form)
  -- Validation sets the flag for runs by hand and the plan, and nothing else.
  have hfields := h.fields
  have hmode : b'.mode = b.mode := h.mode_eq
  constructor
  · rw [hfields]
    exact hname
  · rw [hfields]
    exact hlength
  · rw [hfields]
    exact hlabels
  · rw [hfields]
    exact hplugins
  · intro hcron
    rw [hfields] at hcron ⊢
    have hflag : b.isManualCron = true := hcron
    simp only [normalized, hflag, Bool.or_true]
  · exact h.readable
  · intro hadvanced
    rw [hmode] at hadvanced
    have hstages := h.stages hadvanced
    rw [h.advanced hadvanced]
    simpa [Plan.hasNoStages] using hstages
  · intro hnormal
    rw [hmode] at hnormal
    obtain ⟨settings, generated, -, hreply, hplan⟩ := h.normal hnormal
    refine ⟨settings, generated, hgenerate _ _ hreply, ?_⟩
    rw [hplan, wrapPlan_stages]

end Blueprint

namespace Run

variable {registry : Registry} {r : Run registry}

/-- What is saved is valid. -/
theorem Exchanges.save_valid {w k : Nat} {b : Blueprint}
    (h : r.Exchanges w k (.saveBlueprint b) (.ok ())) : b.Valid registry := by
  obtain ⟨c, b₀, -, -, hpasses⟩ := h.save_passes
  refine hpasses.valid ?_
  rintro request generated ⟨i, hi⟩
  exact hi.generatePlan_reply.symm

/-! ## The creation of a blueprint -/

/-- At the moment `w` a request to create a blueprint saves it. -/
def Creates (r : Run registry) (w : Nat) (b : Blueprint) : Prop :=
  ∃ k d, r.Carries w k (.create d) ∧ r.Exchanges w k (.saveBlueprint b) (.ok ())

/-- A request that creates a blueprint has drawn its identifier. -/
theorem Creates.exists_draw {w : Nat} {b : Blueprint} (h : r.Creates w b) :
    ∃ k m, r.Exchanges m k .freshId b.id ∧ r.Exchanges w k (.saveBlueprint b) (.ok ()) := by
  obtain ⟨k, d, hcarries, hsave⟩ := h
  obtain ⟨c, b₀, hcarries', hdrafted, hcompletes⟩ := hsave.save_origin
  obtain rfl := hcarries.unique hcarries'
  cases hdrafted with
  | @create d id t m hm hdraw =>
    have hid : b.id = id := hcompletes.id_eq
    rw [← hid] at hdraw
    exact ⟨k, m, hdraw, hsave⟩

/-- Of each identifier one blueprint is created at most. -/
theorem Creates.unique {w w' : Nat} {b b' : Blueprint} (h : r.Creates w b) (h' : r.Creates w' b')
    (hid : b.id = b'.id) : b = b' := by
  obtain ⟨k, m, hdraw, hsave⟩ := h.exists_draw
  obtain ⟨k', m', hdraw', hsave'⟩ := h'.exists_draw
  rw [← hid] at hdraw'
  obtain rfl : k = k' := hdraw.draw_unique hdraw'
  obtain rfl : w = w' := Writes.moment_unique (.inl ⟨b, hsave⟩) (.inl ⟨b', hsave'⟩)
  cases (hsave.unique hsave').2
  rfl

/-- A stored blueprint has been created, and still has the mode and the time of its creation. -/
theorem exists_creation (hempty : (r.memory 0).blueprints = Table.empty) {i : Nat} {id : Uuid}
    {b : Blueprint} (h : (r.memory i).findBlueprint id = some b) :
    ∃ w < i, ∃ b₀, r.Creates w b₀ ∧ b₀.id = id ∧ b.mode = b₀.mode ∧
      b.createdAt = b₀.createdAt := by
  induction i using Nat.strong_induction_on generalizing b with
  | _ i ih =>
    obtain ⟨hid, w, hw, k, hsave⟩ := exists_save_of_stored hempty h
    obtain ⟨c, b₁, hcarries, hdrafted, hcompletes⟩ := hsave.save_origin
    cases hdrafted with
    | create hm hdraw => exact ⟨w, hw, b, ⟨k, _, hcarries, hsave⟩, hid, rfl, rfl⟩
    -- A patch changes an older version, which has been created by the induction hypothesis.
    | @patch id' p old t m hm hread =>
      have hfields := hcompletes.fields
      have hstored := hread.found
      have hid' : id' = id := by
        rw [← r.keyed m hstored, ← hid, hfields]
        rfl
      rw [hid'] at hstored
      obtain ⟨w', hw', b₀, hcreates, hid₀, hmode, hcreatedAt⟩ := ih m (hm.trans hw) hstored
      refine ⟨w', hw'.trans (hm.trans hw), b₀, hcreates, hid₀, ?_, ?_⟩
      · rw [hfields]
        exact hmode
      · rw [hfields]
        exact hcreatedAt

/-! ## The times of a blueprint -/

theorem Exchanges.now_reply {m k : Nat} {t : Instant} (h : r.Exchanges m k .now t) :
    t = (r.state m).shared.clock :=
  h.reply_eq fun _ => rfl

/-- The clock never goes back. -/
def ClockMonotone (r : Run registry) : Prop :=
  ∀ i, (r.state i).shared.clock ≤ (r.state (i + 1)).shared.clock

theorem ClockMonotone.le (hclock : r.ClockMonotone) {i j : Nat} (hij : i ≤ j) :
    (r.state i).shared.clock ≤ (r.state j).shared.clock := by
  induction j, hij using Nat.le_induction with
  | base => exact Int.le_refl _
  | succ j hij ih => exact Int.le_trans ih (hclock j)

/-- A stored blueprint has been created in the past, and has not been updated before that. -/
theorem times_of_stored (hempty : (r.memory 0).blueprints = Table.empty)
    (hclock : r.ClockMonotone) {i : Nat} {id : Uuid} {b : Blueprint}
    (h : (r.memory i).findBlueprint id = some b) :
    b.createdAt ≤ (r.state i).shared.clock ∧ b.createdAt ≤ b.updatedAt := by
  induction i using Nat.strong_induction_on generalizing id b with
  | _ i ih =>
    obtain ⟨-, w, hw, k, hsave⟩ := exists_save_of_stored hempty h
    obtain ⟨c, b₁, -, hdrafted, hcompletes⟩ := hsave.save_origin
    have hfields := hcompletes.fields
    cases hdrafted with
    | @create d id' t m hm hdraw x hmx hx hnow =>
      have hcreated : b.createdAt = t := by
        rw [hfields]
        rfl
      have hupdated : b.updatedAt = t := by
        rw [hfields]
        rfl
      rw [hcreated, hupdated, hnow.now_reply]
      exact ⟨hclock.le (hx.trans hw).le, Int.le_refl _⟩
    | @patch id' p old t m hm hread x hmx hx hnow =>
      have hcreated : b.createdAt = old.createdAt := by
        rw [hfields]
        rfl
      have hupdated : b.updatedAt = t := by
        rw [hfields]
        rfl
      -- The blueprint was read first, and then the clock.
      obtain ⟨hold, -⟩ := ih m (hm.trans hw) hread.found
      rw [hcreated, hupdated, hnow.now_reply]
      exact ⟨Int.le_trans hold (hclock.le (hm.trans hw).le),
        Int.le_trans hold (hclock.le hmx.le)⟩

end Run

/-! ## An edition by hand -/

namespace Sample

/-- A new blueprint whose plan is derived, and which first runs a task of its author. -/
def derived : Draft where
  name := "derived"
  mode := .normal
  cronConfig := "0 0 * * *"
  beforePlan := .single { plugin := "gitlab" }

/-- One minute after the beginning. -/
def minuteLater : Instant :=
  .ofSecond .epoch 60 (by decide)

/-- A request creates the blueprint. One minute later it is patched to be run by hand only. -/
def editionActions : List Action :=
  .arrive (.create derived) :: List.replicate 8 (.proceed 0 chance) ++
    .tick minuteLater :: .arrive (.patch (.ofNat 1) { cronConfig := some "Manual" }) ::
      List.replicate 8 (.proceed 1 chance)

def edition : Run {} :=
  .ofActions {} empty editionActions empty_initial (by decide +kernel)

theorem edition_clock : edition.ClockMonotone := by
  intro i
  have hshort : ∀ i < 19, (empty.trace {} editionActions i).shared.clock ≤
      (empty.trace {} editionActions (i + 1)).shared.clock := by
    decide +kernel
  rcases Nat.lt_or_ge i 19 with hi | hi
  · exact hshort i hi
  · -- After the last action the clock stands still.
    change (empty.trace {} editionActions i).shared.clock ≤
      (empty.trace {} editionActions (i + 1)).shared.clock
    have hlast : editionActions.length ≤ i := (by decide : editionActions.length ≤ 19).trans hi
    rw [System.trace_of_length_le {} editionActions empty hlast,
      System.trace_of_length_le {} editionActions empty (hlast.trans (Nat.le_succ i))]
    exact Int.le_refl _

theorem edition_stored : ∃ b, (edition.memory 19).findBlueprint (.ofNat 1) = some b ∧
    b.mode = .normal ∧ b.cronConfig = "Manual" := by
  have h : ((edition.memory 19).findBlueprint (.ofNat 1)).any
      (fun b => b.mode == .normal && b.cronConfig == "Manual") = true := by
    decide +kernel
  obtain ⟨b, hb, h⟩ := (Option.any_eq_true _ _).1 h
  rw [Bool.and_eq_true, beq_iff_eq, beq_iff_eq] at h
  exact ⟨b, hb, h.1, h.2⟩

end Sample

namespace Run

variable {registry : Registry} {r : Run registry}

/-- Let the store be without blueprints at first, and the clock never go back. Then at every moment
of every run a stored blueprint is stored under its own identifier, is valid, and was created before
it was updated. It has been created by a request, and still has the mode and the time of its
creation. -/
theorem stored_valid (hempty : (r.memory 0).blueprints = Table.empty) (hclock : r.ClockMonotone)
    {i : Nat} {id : Uuid} {b : Blueprint} (h : (r.memory i).findBlueprint id = some b) :
    b.id = id ∧ b.Valid registry ∧ b.createdAt ≤ b.updatedAt ∧
      (∃ w < i, ∃ b₀, r.Creates w b₀ ∧ b₀.id = id) ∧
      ∀ w b₀, r.Creates w b₀ → b₀.id = id → b.mode = b₀.mode ∧ b.createdAt = b₀.createdAt := by
  obtain ⟨hid, _, -, k, hsave⟩ := exists_save_of_stored hempty h
  obtain ⟨w, hw, b₁, hcreates, hid₁, hmode, hcreatedAt⟩ := exists_creation hempty h
  refine ⟨hid, hsave.save_valid, (times_of_stored hempty hclock h).2, ⟨w, hw, b₁, hcreates, hid₁⟩,
    ?_⟩
  intro w' b₀ hcreates' hid₀
  obtain rfl := hcreates.unique hcreates' (hid₁.trans hid₀.symm)
  exact ⟨hmode, hcreatedAt⟩

theorem edition_valid : ∃ b, (Sample.edition.memory 19).findBlueprint (.ofNat 1) = some b ∧
    b.isManual = true ∧ b.createdAt ≤ b.updatedAt ∧
    ∃ w < 19, ∃ b₀, Sample.edition.Creates w b₀ ∧ b₀.mode = .normal := by
  obtain ⟨b, hb, hmode, hcron⟩ := Sample.edition_stored
  obtain ⟨-, hvalid, htimes, ⟨w, hw, b₀, hcreates, hid⟩, hkept⟩ :=
    stored_valid rfl Sample.edition_clock hb
  have hmanual : b.isManualCron = true := by
    rw [Blueprint.isManualCron, hcron]
    decide
  refine ⟨b, hb, hvalid.manual hmanual, htimes, w, hw, b₀, hcreates, ?_⟩
  rw [← (hkept w b₀ hcreates hid).1]
  exact hmode

end Run

end Ingestion
