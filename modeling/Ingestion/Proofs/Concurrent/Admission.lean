import Mathlib
import Ingestion.Proofs.Concurrent.ProjectLookup
import Ingestion.Proofs.Concurrent.Revalidation
import Ingestion.Proofs.Plugin.Catalog

/-!
# What validation admits

Validation checks ten rules, and the first that is broken gives the error
(`Shared.validation_admits`). A check *tells* a list of rules if it comes to the error of the first
of them that is broken, and succeeds if there is none. Checks one after another tell one list after
another (`Tells.bind`), so that each check is compared with its own rules only.

The rules are about the blueprint as it is given. Whether it is to be run by hand is asked twice,
before and after the flag for it has been completed: a blank cron expression passes only if the flag
is given, and one that is not read only if it asks for runs by hand.
-/

namespace Ingestion

/-! ## Telling the first fault -/

section FirstFault

variable {α β ε : Type} {Fault : α → ε → Prop} {x : α} {xs ys : List α}

theorem not_firstFault_nil (Fault : α → ε → Prop) (e : ε) : ¬ FirstFault Fault [] e := by
  rintro ⟨before, x, after, h, -⟩
  exact List.append_ne_nil_of_right_ne_nil before (List.cons_ne_nil x after) h.symm

theorem firstFault_append_iff {e : ε} : FirstFault Fault (xs ++ ys) e ↔
    FirstFault Fault xs e ∨ (∀ x ∈ xs, ∀ e', ¬ Fault x e') ∧ FirstFault Fault ys e := by
  induction xs with
  | nil => simp [not_firstFault_nil]
  | cons x xs ih =>
    rw [List.cons_append, firstFault_cons_iff, firstFault_cons_iff, ih, List.forall_mem_cons]
    tauto

theorem exists_firstFault_iff :
    (∃ e, FirstFault Fault xs e) ↔ ∃ x ∈ xs, ∃ e, Fault x e := by
  induction xs with
  | nil => simp [not_firstFault_nil]
  | cons x xs ih =>
    simp only [firstFault_cons_iff, exists_or, exists_and_left, ih, List.exists_mem_cons_iff]
    by_cases hx : ∃ e, Fault x e
    · simp only [hx, true_or]
    · simp only [not_exists.1 hx, not_false_eq_true, implies_true, true_and]

variable (Fault) in
/-- A check comes to the first fault in a list, and succeeds if there is none. -/
def Tells (xs : List α) (r : Except ε β) : Prop :=
  ∀ e, r = .error e ↔ FirstFault Fault xs e

theorem tells_ok (b : β) : Tells Fault [] (.ok b : Except ε β) := fun e =>
  ⟨nofun, fun h => absurd h (not_firstFault_nil Fault e)⟩

/-- The first rule of the list is broken. -/
theorem tells_error {e : ε} (hx : ∀ e', Fault x e' ↔ e' = e) :
    Tells Fault (x :: xs) (.error e : Except ε β) := by
  intro e'
  rw [firstFault_cons_iff]
  constructor
  · intro h
    cases h
    exact .inl ((hx e).2 rfl)
  · rintro (h | ⟨hnone, -⟩)
    · rw [(hx e').1 h]
    · exact absurd ((hx e).2 rfl) (hnone e)

/-- The first rule of the list is obeyed. -/
theorem Tells.cons {r : Except ε β} (hx : ∀ e, ¬ Fault x e) (h : Tells Fault xs r) :
    Tells Fault (x :: xs) r := by
  intro e
  rw [firstFault_cons_iff, ← h e]
  simp [hx]

/-- A test before a check. -/
theorem Tells.ite {p : Prop} [Decidable p] {e : ε} {r : Except ε β}
    (hx : ∀ e', Fault x e' ↔ p ∧ e' = e) (h : Tells Fault xs r) :
    Tells Fault (x :: xs) (if p then .error e else r) := by
  split
  · next hp => exact tells_error fun e' => (hx e').trans (and_iff_right hp)
  · next hp => exact h.cons fun e' hfault => hp ((hx e').1 hfault).1

theorem Tells.forall_not_of_ok {b : β} (h : Tells Fault xs (.ok b : Except ε β)) :
    ∀ x ∈ xs, ∀ e, ¬ Fault x e := by
  intro x hx e hfault
  obtain ⟨e', he'⟩ := exists_firstFault_iff.2 ⟨x, hx, e, hfault⟩
  cases (h e').2 he'

/-- A check that tells the first fault succeeds just if there is none. -/
theorem Tells.exists_ok_iff {r : Except ε β} (h : Tells Fault xs r) :
    (∃ b, r = .ok b) ↔ ∀ x ∈ xs, ∀ e, ¬ Fault x e := by
  constructor
  · rintro ⟨b, rfl⟩
    exact h.forall_not_of_ok
  · intro hnone
    cases r with
    | ok b => exact ⟨b, rfl⟩
    | error e =>
      obtain ⟨x, hx, e', hfault⟩ := exists_firstFault_iff.1 ⟨e, (h e).1 rfl⟩
      exact absurd hfault (hnone x hx e')

/-- A check after a check. -/
theorem Tells.bind {γ : Type} {r : Except ε β} {f : β → Except ε γ} (h : Tells Fault xs r)
    (hf : ∀ b, r = .ok b → Tells Fault ys (f b)) : Tells Fault (xs ++ ys) (r.bind f) := by
  intro e
  rw [firstFault_append_iff, ← h e]
  cases r with
  | error e' =>
    have hfault : ¬ ∀ x ∈ xs, ∀ e, ¬ Fault x e := fun hnone => by
      obtain ⟨b, hb⟩ := h.exists_ok_iff.2 hnone
      cases hb
    simp only [hfault, false_and, or_false, Except.bind, Except.error.injEq]
  | ok b =>
    have hnone := h.forall_not_of_ok
    simp only [reduceCtorEq, false_or, and_iff_right hnone]
    exact hf b rfl e

theorem Tells.map {γ : Type} {r : Except ε β} (h : Tells Fault xs r) (f : β → γ) :
    Tells Fault xs (r.map f) := by
  intro e
  rw [← h e]
  cases r with
  | error e' => simp [Except.map]
  | ok b => simp [Except.map]

end FirstFault

/-! ## The rules -/

namespace Blueprint

/-- The rules for a blueprint. -/
inductive Rule where
  | namePresent | nameLength | cronPresent | labelsPresent | pluginsPresent
  | projectFound | projectFree
  | cronReadable
  /-- For plans that the author writes. -/
  | stagePresent
  /-- For plans that are derived. -/
  | planComposed
deriving DecidableEq

/-- The rules in the order in which they are checked. -/
def Rule.all : List Rule :=
  [namePresent, nameLength, cronPresent, labelsPresent, pluginsPresent] ++
    [projectFound, projectFree] ++ [cronReadable] ++ [stagePresent, planComposed]

theorem Rule.mem_all (rule : Rule) : rule ∈ all := by
  cases rule <;> decide

/-- A blueprint breaks a rule in a store, with this error. -/
def Breaks (registry : Registry) (m : Memory) (b : Blueprint) : Rule → RequestError → Prop
  | .namePresent, e => Text.isBlank b.name = true ∧ e = .badInput "Blueprint name cannot be empty"
  | .nameLength, e => 255 < b.name.length ∧
      e = .badInput "Blueprint name is too long (max 255 characters)"
  | .cronPresent, e => (b.isManual = false ∧ Text.isBlank b.cronConfig = true) ∧
      e = .badInput "cronConfig cannot be empty"
  | .labelsPresent, e => (∃ label ∈ b.labels, Text.isBlank label = true) ∧
      e = .badInput "Labels cannot be empty"
  | .pluginsPresent, e => (∃ c ∈ b.connections, Text.isBlank c.pluginName = true) ∧
      e = .badInput "Connection plugin name cannot be empty"
  | .projectFound, e => b.projectName ≠ "" ∧ m.findProject b.projectName = none ∧
      e = .notFound ("invalid projectName: [" ++ b.projectName ++ "] for the blueprint [" ++
        b.name ++ "]")
  | .projectFree, e => b.projectName ≠ "" ∧ ∃ id owner, m.findBlueprint id = some owner ∧
      owner.projectName = b.projectName ∧ owner.id ≠ b.id ∧
      e = .projectConflict b.projectName owner.id owner.name
  | .cronReadable, e => b.isManual = false ∧ b.isManualCron = false ∧
      ∃ source, Cron.read b.cronConfig = .error source ∧ e = .invalidCron source
  | .stagePresent, e => (b.mode = .advanced ∧ b.plan.stages = []) ∧
      e = .badInput "invalid plan: ADVANCED blueprints need a non-empty plan"
  | .planComposed, e => b.mode = .normal ∧ ∃ source,
      b.composedPlan registry b.syncPolicy (b.settingsIn m) = .error source ∧
      e = .plan b.id b.name source

/-- A blueprint obeys all rules in a store. -/
structure Admissible (registry : Registry) (m : Memory) (b : Blueprint) : Prop where
  name_not_blank : Text.isBlank b.name = false
  name_length : b.name.length ≤ 255
  cron_not_blank : b.isManual = false → Text.isBlank b.cronConfig = false
  labels_not_blank : ∀ label ∈ b.labels, Text.isBlank label = false
  plugins_not_blank : ∀ c ∈ b.connections, Text.isBlank c.pluginName = false
  project_found : b.projectName ≠ "" → ∃ p, m.findProject b.projectName = some p
  project_free : b.projectName ≠ "" → ∀ id owner, m.findBlueprint id = some owner →
    owner.projectName = b.projectName → owner.id = b.id
  /-- The cron expression is read as it is, with the blanks around it. -/
  cron_readable : b.isManual = false → b.isManualCron = false →
    ∃ schedule, Cron.read b.cronConfig = .ok schedule
  stage_present : b.mode = .advanced → b.plan.stages ≠ []
  plan_composed : b.mode = .normal →
    ∃ plan, b.composedPlan registry b.syncPolicy (b.settingsIn m) = .ok plan

variable {registry : Registry} {m : Memory} {b : Blueprint}

/-- To obey all rules is to break none. -/
theorem admissible_iff : b.Admissible registry m ↔
    ∀ rule ∈ Rule.all, ∀ e, ¬ b.Breaks registry m rule e := by
  constructor
  · intro h rule _ e hbreaks
    cases rule with
    | namePresent => exact Bool.eq_false_iff.1 h.name_not_blank hbreaks.1
    | nameLength => exact absurd hbreaks.1 (not_lt.2 h.name_length)
    | cronPresent => exact Bool.eq_false_iff.1 (h.cron_not_blank hbreaks.1.1) hbreaks.1.2
    | labelsPresent =>
      obtain ⟨⟨label, hlabel, hblank⟩, -⟩ := hbreaks
      exact Bool.eq_false_iff.1 (h.labels_not_blank label hlabel) hblank
    | pluginsPresent =>
      obtain ⟨⟨c, hc, hblank⟩, -⟩ := hbreaks
      exact Bool.eq_false_iff.1 (h.plugins_not_blank c hc) hblank
    | projectFound =>
      obtain ⟨hproject, hnone, -⟩ := hbreaks
      obtain ⟨p, hp⟩ := h.project_found hproject
      cases hnone.symm.trans hp
    | projectFree =>
      obtain ⟨hproject, id, owner, howner, hname, hother, -⟩ := hbreaks
      exact hother (h.project_free hproject id owner howner hname)
    | cronReadable =>
      obtain ⟨hmanual, hword, source, hsource, -⟩ := hbreaks
      obtain ⟨schedule, hread⟩ := h.cron_readable hmanual hword
      cases hsource.symm.trans hread
    | stagePresent => exact h.stage_present hbreaks.1.1 hbreaks.1.2
    | planComposed =>
      obtain ⟨hmode, source, hsource, -⟩ := hbreaks
      obtain ⟨plan, hplan⟩ := h.plan_composed hmode
      cases hsource.symm.trans hplan
  · intro h
    have hobeys (rule : Rule) (e : RequestError) : ¬ b.Breaks registry m rule e :=
      h rule rule.mem_all e
    constructor
    · exact Bool.eq_false_iff.2 fun hblank => hobeys .namePresent _ ⟨hblank, rfl⟩
    · exact not_lt.1 fun hlong => hobeys .nameLength _ ⟨hlong, rfl⟩
    · exact fun hmanual =>
        Bool.eq_false_iff.2 fun hblank => hobeys .cronPresent _ ⟨⟨hmanual, hblank⟩, rfl⟩
    · exact fun label hlabel =>
        Bool.eq_false_iff.2 fun hblank => hobeys .labelsPresent _ ⟨⟨label, hlabel, hblank⟩, rfl⟩
    · exact fun c hc =>
        Bool.eq_false_iff.2 fun hblank => hobeys .pluginsPresent _ ⟨⟨c, hc, hblank⟩, rfl⟩
    · exact fun hproject => Option.ne_none_iff_exists'.1 fun hnone =>
        hobeys .projectFound _ ⟨hproject, hnone, rfl⟩
    · exact fun hproject id owner howner hname => by_contra fun hother =>
        hobeys .projectFree _ ⟨hproject, id, owner, howner, hname, hother, rfl⟩
    · intro hmanual hword
      cases hread : Cron.read b.cronConfig with
      | ok schedule => exact ⟨schedule, rfl⟩
      | error source => exact absurd ⟨hmanual, hword, source, hread, rfl⟩ (hobeys .cronReadable _)
    · exact fun hmode hnil => hobeys .stagePresent _ ⟨⟨hmode, hnil⟩, rfl⟩
    · intro hmode
      cases hplan : b.composedPlan registry b.syncPolicy (b.settingsIn m) with
      | ok plan => exact ⟨plan, rfl⟩
      | error source => exact absurd ⟨hmode, source, hplan, rfl⟩ (hobeys .planComposed _)

/-- A check of some of the rules succeeds for a blueprint that obeys all of them. -/
theorem Admissible.exists_ok {α : Type} {rules : List Rule} {r : Except RequestError α}
    (h : b.Admissible registry m) (hr : Tells (b.Breaks registry m) rules r) : ∃ a, r = .ok a :=
  hr.exists_ok_iff.2 fun rule _ => admissible_iff.1 h rule rule.mem_all

/-! ## The checks -/

theorem checkForm_tells : Tells (b.Breaks registry m)
    [.namePresent, .nameLength, .cronPresent, .labelsPresent, .pluginsPresent] b.checkForm := by
  have hform : b.checkForm =
      if Text.isBlank b.name = true then .error (.badInput "Blueprint name cannot be empty")
      else if maxNameLength < b.name.length then
        .error (.badInput
          ("Blueprint name is too long (max " ++ toString maxNameLength ++ " characters)"))
      else if b.isManual = false ∧ Text.isBlank b.cronConfig = true then
        .error (.badInput "cronConfig cannot be empty")
      else if ∃ label ∈ b.labels, Text.isBlank label = true then
        .error (.badInput "Labels cannot be empty")
      else if ∃ c ∈ b.connections, Text.isBlank c.pluginName = true then
        .error (.badInput "Connection plugin name cannot be empty")
      else .ok () := by
    simp only [← List.any_eq_true, ← Bool.not_eq_true', ← Bool.and_eq_true]
    unfold checkForm formFault?
    split_ifs <;> rfl
  rw [hform]
  exact .ite (fun _ => Iff.rfl) (.ite (fun _ => Iff.rfl) (.ite (fun _ => Iff.rfl)
    (.ite (fun _ => Iff.rfl) (.ite (fun _ => Iff.rfl) (tells_ok _)))))

theorem checkedProject_tells (howned : m.OwnedOnce) :
    Tells (b.Breaks registry m) [.projectFound, .projectFree] (b.checkedProject m) := by
  unfold checkedProject
  by_cases hproject : b.projectName = ""
  · rw [if_neg (by simp [hasProject, hproject])]
    exact .cons (fun e h => h.1 hproject) (.cons (fun e h => h.1 hproject) (tells_ok ()))
  have hhas : b.hasProject = true := bne_iff_ne.2 hproject
  rw [if_pos hhas]
  cases hfound : m.findProject b.projectName with
  | none => exact tells_error fun e => ⟨fun h => h.2.2, fun h => ⟨hproject, hfound, h⟩⟩
  | some p =>
    refine .cons (fun e h => by cases hfound.symm.trans h.2.1) ?_
    -- The owner that is looked up is the only one.
    have howner {id : Uuid} {o : Blueprint} (ho : m.findBlueprint id = some o)
        (hname : o.projectName = b.projectName) : m.findOwner b.projectName = some o := by
      rw [← hname]
      exact howned.findOwner_eq ho (bne_iff_ne.2 (hname ▸ hproject))
    by_cases hstored : ∃ id o, m.findBlueprint id = some o ∧ o.projectName = b.projectName
    · obtain ⟨id, o, ho, hname⟩ := hstored
      rw [howner ho hname]
      refine .ite (fun e => ?_) (tells_ok ())
      constructor
      · rintro ⟨-, id', o', ho', hname', hother, rfl⟩
        obtain rfl := Option.some.inj ((howner ho hname).symm.trans (howner ho' hname'))
        exact ⟨hother, rfl⟩
      · rintro ⟨hother, rfl⟩
        exact ⟨hproject, id, o, ho, hname, hother, rfl⟩
    · rw [Memory.findOwner_eq_none fun id o ho hname => hstored ⟨id, o, ho, hname⟩]
      refine .cons (fun e h => ?_) (tells_ok ())
      obtain ⟨-, id, o, ho, hname, -⟩ := h
      exact hstored ⟨id, o, ho, hname⟩

theorem checkCron_tells :
    Tells (b.Breaks registry m) [.cronReadable] b.normalized.checkCron := by
  unfold checkCron
  by_cases hmanual : b.normalized.isManual = true
  · rw [if_pos hmanual]
    refine .cons (fun e h => ?_) (tells_ok ())
    obtain ⟨hflag, hword, -⟩ := h
    simp [normalized, hflag, hword] at hmanual
  · rw [if_neg hmanual]
    obtain ⟨hflag, hword⟩ := Bool.or_eq_false_iff.1 (Bool.not_eq_true _ ▸ hmanual)
    have hcron : b.normalized.cronConfig = b.cronConfig := rfl
    rw [hcron]
    cases hread : Cron.read b.cronConfig with
    | ok schedule =>
      refine .cons (fun e h => ?_) (tells_ok ())
      obtain ⟨-, -, source, hsource, -⟩ := h
      cases hread.symm.trans hsource
    | error source =>
      refine tells_error fun e => ⟨?_, fun h => ⟨hflag, hword, source, hread, h⟩⟩
      rintro ⟨-, -, source', hsource, rfl⟩
      cases hread.symm.trans hsource
      rfl

theorem planned_tells : Tells (b.Breaks registry m) [.stagePresent, .planComposed]
    (b.normalized.planned registry (b.normalized.settingsIn m)) := by
  have hmode' : b.normalized.mode = b.mode := rfl
  unfold planned
  rw [hmode']
  cases hmode : b.mode with
  | advanced =>
    refine .ite (fun e => ?_) (.cons (fun e h => ?_) (tells_ok _))
    · show (b.mode = .advanced ∧ b.plan.stages = []) ∧ _ ↔ _
      simp [hmode, normalized, Plan.hasNoStages]
    · cases hmode.symm.trans h.1
  | normal =>
    refine .cons (fun e h => by cases hmode.symm.trans h.1.1) ?_
    have hcomposed : b.normalized.composedPlan registry b.normalized.syncPolicy
        (b.normalized.settingsIn m) = b.composedPlan registry b.syncPolicy (b.settingsIn m) := rfl
    dsimp only
    rw [hcomposed]
    cases hplan : b.composedPlan registry b.syncPolicy (b.settingsIn m) with
    | ok plan =>
      refine .cons (fun e h => ?_) (tells_ok _)
      obtain ⟨-, source, hsource, -⟩ := h
      cases hplan.symm.trans hsource
    | error source =>
      refine tells_error fun e => ⟨?_, fun h => ⟨hmode, source, hplan, h⟩⟩
      rintro ⟨-, source', hsource, rfl⟩
      cases hplan.symm.trans hsource
      rfl

/-! ## Validation -/

theorem validationIn_fst : (b.validationIn registry m).1 =
    (((b.checkForm.bind fun _ => b.checkedProject m).bind fun _ => b.normalized.checkCron).bind
      fun _ => (b.normalized.planned registry (b.normalized.settingsIn m)).map fun _ => ()) := by
  unfold validationIn
  cases b.checkForm with
  | error e => rfl
  | ok =>
    show _ = ((b.checkedProject m).bind _).bind _
    dsimp only
    cases b.checkedProject m with
    | error e => rfl
    | ok =>
      show _ = b.normalized.checkCron.bind _
      dsimp only
      cases b.normalized.checkCron with
      | error e => rfl
      | ok =>
        show _ = (b.normalized.planned registry (b.normalized.settingsIn m)).map _
        dsimp only
        cases b.normalized.planned registry (b.normalized.settingsIn m) with
        | error e => rfl
        | ok b' => rfl

theorem validationIn_tells (howned : m.OwnedOnce) :
    Tells (b.Breaks registry m) Rule.all (b.validationIn registry m).1 := by
  rw [validationIn_fst]
  exact ((checkForm_tells.bind fun _ _ => checkedProject_tells howned).bind
    fun _ _ => checkCron_tells).bind fun _ _ => planned_tells.map _

/-- What is different after the plan has been checked or composed. -/
theorem planned_eq_ok {settings : List MetricSetting} {b' : Blueprint}
    (h : b.planned registry settings = .ok b') : b' = { b with plan := b'.plan } ∧
      (b.mode = .advanced → b'.plan = b.plan) ∧
      (b.mode = .normal → b.composedPlan registry b.syncPolicy settings = .ok b'.plan) := by
  unfold planned at h
  split at h
  · next hmode =>
    split at h
    · cases h
    · cases h
      refine ⟨rfl, fun _ => rfl, fun hnormal => ?_⟩
      cases hmode.symm.trans hnormal
  · next hmode =>
    cases hplan : b.composedPlan registry b.syncPolicy settings with
    | error e =>
      rw [hplan] at h
      cases h
    | ok plan =>
      rw [hplan] at h
      cases h
      refine ⟨rfl, fun hadvanced => ?_, fun _ => rfl⟩
      cases hmode.symm.trans hadvanced

theorem planned_of_validationIn (h : (b.validationIn registry m).1 = .ok ()) :
    b.normalized.planned registry (b.normalized.settingsIn m) =
      .ok (b.validationIn registry m).2 := by
  unfold validationIn at h ⊢
  split at h
  · cases h
  split at h
  · cases h
  split at h
  · cases h
  split at h
  · cases h
  · next hplanned => simp only [hplanned]

end Blueprint

/-- Let no project of a store be owned twice. Then validation changes nothing that is shared, it
succeeds just if the blueprint obeys all rules, and otherwise the first rule that is broken gives
the error. If it succeeds, then no field of the blueprint is changed but the flag for runs by hand
and, in mode `NORMAL`, the plan. -/
theorem Shared.validation_admits {registry : Registry} (k : Nat) (chance : Chance) (s : Shared)
    (howned : s.memory.OwnedOnce) (b : Blueprint) :
    ∃ result b', perform registry k chance b.validation s = some ((result, b'), s) ∧
      (result = .ok () ↔ b.Admissible registry s.memory) ∧
      (∀ e, result = .error e ↔
        FirstFault (b.Breaks registry s.memory) Blueprint.Rule.all e) ∧
      (result = .ok () →
        b' = { b with isManual := b.isManual || b.isManualCron, plan := b'.plan } ∧
        (b.mode = .advanced → b'.plan = b.plan) ∧
        (b.mode = .normal →
          b.composedPlan registry b.syncPolicy (b.settingsIn s.memory) = .ok b'.plan)) := by
  have htells : Tells (b.Breaks registry s.memory) Blueprint.Rule.all
      (b.validationIn registry s.memory).1 := Blueprint.validationIn_tells howned
  refine ⟨_, _, perform_validation b, ?_, htells, ?_⟩
  · rw [Blueprint.admissible_iff, ← htells.exists_ok_iff]
    constructor
    · exact fun h => ⟨(), h⟩
    · rintro ⟨u, h⟩
      exact h
  · intro h
    obtain ⟨hfields, hadvanced, hnormal⟩ :=
      Blueprint.planned_eq_ok (Blueprint.planned_of_validationIn h)
    exact ⟨hfields, hadvanced, hnormal⟩

/-- A third blueprint for the project of the rivalry obeys the rules before the one on owners. -/
theorem Shared.rivalry_validation_admits : ∃ owner b',
    (Sample.rivalry.memory 18).findBlueprint (.ofNat 1) = some owner ∧
    perform {} 2 Sample.chance
        (Sample.atlasNightly.toBlueprint (.ofNat 3) (.midnight .epoch)).validation
        (Sample.rivalry.state 18).shared =
      some ((.error (.projectConflict "atlas" (.ofNat 1) owner.name), b'),
        (Sample.rivalry.state 18).shared) := by
  obtain ⟨owner, howner, hname⟩ := Sample.rivalry_stored
  have hid : owner.id = .ofNat 1 := Sample.rivalry.keyed 18 howner
  have hproject : (Sample.rivalry.memory 18).findProject "atlas" ≠ none := by decide +kernel
  obtain ⟨result, b', hperform, -, herror, -⟩ := validation_admits 2 Sample.chance
    (Sample.rivalry.state 18).shared (Run.ownedOnce rfl 18)
    (Sample.atlasNightly.toBlueprint (.ofNat 3) (.midnight .epoch))
  have hresult := (herror (.projectConflict "atlas" (.ofNat 1) owner.name)).2
    ⟨[.namePresent, .nameLength, .cronPresent, .labelsPresent, .pluginsPresent, .projectFound],
      .projectFree, [.cronReadable, .stagePresent, .planComposed], rfl, ?_, ?_⟩
  · exact ⟨owner, b', howner, hresult ▸ hperform⟩
  · simp only [List.forall_mem_cons, List.not_mem_nil, false_imp_iff, implies_true, and_true]
    exact ⟨fun _ h => absurd h.1 (by decide), fun _ h => absurd h.1 (by decide),
      fun _ h => absurd h.1 (by decide), fun _ h => absurd h.1 (by decide),
      fun _ h => absurd h.1 (by decide), fun _ h => hproject h.2.1⟩
  · exact ⟨by decide, .ofNat 1, owner, howner, hname, by rw [hid]; decide, by rw [hid]; rfl⟩

end Ingestion
