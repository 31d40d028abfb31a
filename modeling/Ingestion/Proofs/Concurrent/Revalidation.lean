import Mathlib
import Ingestion.Proofs.Concurrent.Triggering
import Ingestion.Proofs.Faults.Outcome

/-!
# Validated again

What is stored has passed validation, and it passes again and stays as it is
(`Run.stored_validated_again`): validation never looks at the plan that it has composed, and what it
sets, it sets for good. Only the store can have changed in between. The project is still there and
still belongs to the blueprint, so that what matters is whether the settings of its metrics are the
same as before. A patch that sets nothing comes down to a new time of the update.

What validation comes to depends only on the blueprint and the store (`Blueprint.validationIn`).
-/

namespace Ingestion

/-! ## What validation comes to -/

namespace Blueprint

/-- What the check of the project of a blueprint comes to. -/
def checkedProject (m : Memory) (b : Blueprint) : Except RequestError Unit :=
  if b.hasProject then
    match m.findProject b.projectName with
    | none => .error (.notFound ("invalid projectName: [" ++ b.projectName ++
        "] for the blueprint [" ++ b.name ++ "]"))
    | some _ =>
      match m.findOwner b.projectName with
      | some owner => if owner.id ≠ b.id then .error (b.conflictWith owner) else .ok ()
      | none => .ok ()
  else .ok ()

/-- What the check or the composition of the plan comes to, with given settings. -/
def planned (registry : Registry) (b : Blueprint) (settings : List MetricSetting) :
    Except RequestError Blueprint :=
  match b.mode with
  | .advanced =>
    if b.plan.hasNoStages then
      .error (.badInput "invalid plan: ADVANCED blueprints need a non-empty plan")
    else .ok b
  | .normal =>
    ((b.composedPlan registry b.syncPolicy settings).mapError (.plan b.id b.name)).map
      fun plan => { b with plan }

/-- What the validation of a blueprint comes to in a store. -/
def validationIn (registry : Registry) (m : Memory) (b : Blueprint) :
    Except RequestError Unit × Blueprint :=
  match b.checkForm with
  | .error e => (.error e, b)
  | .ok () =>
    match b.checkedProject m with
    | .error e => (.error e, b)
    | .ok () =>
      match b.normalized.checkCron with
      | .error e => (.error e, b.normalized)
      | .ok () =>
        match b.normalized.planned registry (b.normalized.settingsIn m) with
        | .error e => (.error e, b.normalized)
        | .ok b => (.ok (), b)

end Blueprint

namespace Shared

variable {registry : Registry} {k : Nat} {chance : Chance} {s : Shared}

theorem perform_checkProject (b : Blueprint) :
    perform registry k chance b.checkProject.run s = some (b.checkedProject s.memory, s) := by
  have hfind : perform registry k chance
      (Request.store (Program.ask (.findProject b.projectName))).run s =
        some (.ok (s.memory.findProject b.projectName), s) :=
    perform_lift (r := .ok (s.memory.findProject b.projectName)) (perform_ask _)
  have howner : perform registry k chance
      (Request.store (Program.ask (.findOwner b.projectName))).run s =
        some (.ok (s.memory.findOwner b.projectName), s) :=
    perform_lift (r := .ok (s.memory.findOwner b.projectName)) (perform_ask _)
  unfold Blueprint.checkProject Blueprint.checkedProject
  split
  · rw [perform_andThen hfind]
    cases s.memory.findProject b.projectName with
    | none => rfl
    | some p =>
      show perform registry k chance (_ >>= _ : Request Unit).run s = _
      rw [perform_andThen howner]
      cases s.memory.findOwner b.projectName with
      | none => rfl
      | some owner =>
        dsimp only
        split
        · rfl
        · rfl
  · rfl

theorem perform_withPlan (b : Blueprint) :
    perform registry k chance b.withPlan.run s =
      some (b.planned registry (b.settingsIn s.memory), s) := by
  unfold Blueprint.withPlan Blueprint.planned
  cases b.mode with
  | advanced =>
    dsimp only
    split
    · rfl
    · rfl
  | normal =>
    have hplan : perform registry k chance
        (Request.lift (.plan b.id b.name) (b.composePlan b.syncPolicy)).run s =
          some ((b.composedPlan registry b.syncPolicy (b.settingsIn s.memory)).mapError
            (.plan b.id b.name), s) :=
      perform_lift (perform_composePlan b b.syncPolicy)
    dsimp only
    cases hcomposed : b.composedPlan registry b.syncPolicy (b.settingsIn s.memory) with
    | error e =>
      rw [hcomposed] at hplan
      exact perform_andThen_error hplan
    | ok plan =>
      rw [hcomposed] at hplan
      exact perform_andThen hplan

/-- Validation changes nothing, and comes to what the store makes of it. -/
theorem perform_validation (b : Blueprint) :
    perform registry k chance b.validation s = some (b.validationIn registry s.memory, s) := by
  unfold Blueprint.validation Blueprint.validationIn
  cases b.checkForm with
  | error e => rfl
  | ok =>
    dsimp only
    rw [perform_bind, perform_checkProject, Option.bind_some]
    cases b.checkedProject s.memory with
    | error e => rfl
    | ok =>
      dsimp only
      cases b.normalized.checkCron with
      | error e => rfl
      | ok =>
        dsimp only
        rw [perform_bind, perform_withPlan, Option.bind_some]
        cases b.normalized.planned registry (b.normalized.settingsIn s.memory) with
        | error e => rfl
        | ok b' => rfl

theorem perform_validated (b : Blueprint) :
    perform registry k chance b.validated.run s =
      some (match b.validationIn registry s.memory with
        | (.ok (), b') => .ok b'
        | (.error e, _) => .error e, s) := by
  show perform registry k chance (b.validation >>= _) s = _
  rw [perform_bind, perform_validation, Option.bind_some]
  rcases b.validationIn registry s.memory with ⟨e | _, b'⟩
  · rfl
  · rfl

/-- A blueprint is saved if its project does not belong to another one. -/
theorem perform_save {b : Blueprint} (hfree : s.memory.isTaken b = false) :
    perform registry k chance (Service.save b).run s = some (.ok (),
      { s with
        memory := { s.memory with blueprints := s.memory.blueprints.insert b.id b } }) := by
  let saved : Memory := { s.memory with blueprints := s.memory.blueprints.insert b.id b }
  have hsave : s.memory.saveBlueprint b = .ok saved := by
    rw [Memory.saveBlueprint, hfree]
    rfl
  have hanswer : s.answer registry k chance (.saveBlueprint b) =
      some (.ok (), { s with memory := saved }) := by
    rw [answer, hsave]
  have hask : perform registry k chance (Request.always (Program.ask (.saveBlueprint b))).run s =
      some (.ok (.ok ()), { s with memory := saved }) := by
    show perform registry k chance (Program.ask _ >>= _) s = _
    rw [perform_bind, perform_ask, hanswer]
    rfl
  unfold Service.save
  rw [perform_andThen hask]
  rfl

/-- A rebuild after a change that nothing else comes in between. -/
theorem perform_reload (hfree : s.holder = none) :
    perform registry k chance Service.reload.run s =
      let rebuilt := s.agenda.rebuild { clock := chance.readings } s.memory.scheduled
      some (afterChange rebuilt.1, { s with agenda := rebuilt.2 }) := by
  show perform registry k chance (Service.reconcile.run >>= _) s = _
  rw [perform_bind, perform_reconcile hfree]
  dsimp only
  rw [Option.bind_some]
  cases (s.agenda.rebuild { clock := chance.readings } s.memory.scheduled).1 with
  | error e => rfl
  | ok n => rfl

/-- A request that gives back a fixed value once another one has succeeded. -/
theorem perform_giving {α : Type} {x : Request Unit} {r : Except RequestError Unit} {s' : Shared}
    (h : perform registry k chance x.run s = some (r, s')) (a : α) :
    perform registry k chance (do x; return a : Request α).run s = some (r.map fun _ => a, s') := by
  cases r with
  | ok => exact perform_andThen h
  | error e => exact perform_andThen_error h

/-- The time that a request reads is the one of the clock. -/
theorem perform_now :
    perform registry k chance (Request.always (Program.ask .now)).run s = some (.ok s.clock, s) :=
  rfl

/-- A patch that validation lets through is saved, and the agenda is rebuilt for the new store. -/
theorem perform_patch {id : Uuid} {p : Patch} {b b' : Blueprint}
    (hb : s.memory.findBlueprint id = some b) (hplan : Service.setsDerivedPlan p b = false)
    (hvalid : (p.apply b s.clock).validationIn registry s.memory = (.ok (), b'))
    (htaken : s.memory.isTaken b' = false) (hfree : s.holder = none) :
    perform registry k chance (Service.patch id p).run s =
      let memory := { s.memory with blueprints := s.memory.blueprints.insert b'.id b' }
      let rebuilt := s.agenda.rebuild { clock := chance.readings } memory.scheduled
      some ((afterChange rebuilt.1).map fun _ => b', { s with memory, agenda := rebuilt.2 }) := by
  let saved : Shared :=
    { s with memory := { s.memory with blueprints := s.memory.blueprints.insert b'.id b' } }
  have hvalidated : perform registry k chance (p.apply b s.clock).validated.run s =
      some (.ok b', s) := by
    rw [perform_validated, hvalid]
  have hreload : perform registry k chance Service.reload.run saved = _ := perform_reload hfree
  unfold Service.patch
  rw [perform_andThen (perform_get hb), hplan]
  show perform registry k chance (Request.always (Program.ask .now) >>= _ : Request Blueprint).run s
    = _
  rw [perform_andThen perform_now, perform_andThen hvalidated,
    perform_andThen (perform_save htaken)]
  exact perform_giving hreload b'

end Shared

/-! ## Blueprints with nothing left to complete -/

namespace Blueprint

/-- Validation finds no fault with a blueprint in a store, and has nothing to complete. -/
structure Settled (registry : Registry) (m : Memory) (b : Blueprint) : Prop where
  form : b.checkForm = .ok ()
  project : b.checkedProject m = .ok ()
  manual : b.isManualCron = true → b.isManual = true
  cron : b.checkCron = .ok ()
  advanced : b.mode = .advanced → b.plan.hasNoStages = false
  normal : b.mode = .normal →
    b.composedPlan registry b.syncPolicy (b.settingsIn m) = .ok b.plan

variable {registry : Registry} {m : Memory} {b : Blueprint}

theorem normalized_eq_self (h : b.isManualCron = true → b.isManual = true) : b.normalized = b := by
  have hflag : (b.isManual || b.isManualCron) = b.isManual := by
    cases hcron : b.isManualCron with
    | false => exact Bool.or_false _
    | true => rw [h hcron]; rfl
  rw [normalized, hflag]

/-- Validation lets a settled blueprint through and leaves it as it is. -/
theorem Settled.validationIn_eq (h : b.Settled registry m) :
    b.validationIn registry m = (.ok (), b) := by
  have hplanned : b.planned registry (b.settingsIn m) = .ok b := by
    unfold planned
    split
    · next hmode => rw [h.advanced hmode]; rfl
    · next hmode => rw [h.normal hmode]; rfl
  unfold validationIn
  rw [h.form, h.project, normalized_eq_self h.manual, h.cron, hplanned]

/-- The time of the update has no part in validation. -/
theorem Settled.updatedAt (h : b.Settled registry m) (t : Instant) :
    { b with updatedAt := t }.Settled registry m :=
  ⟨h.form, h.project, h.manual, h.cron, h.advanced, h.normal⟩

/-- What validation sets is set when it is done. -/
theorem Completes.settled {replies : (c : Call) → c.Reply → Prop} {b b' : Blueprint}
    (h : b.Completes replies b') : b'.checkForm = .ok () ∧
      (b'.isManualCron = true → b'.isManual = true) ∧ b'.checkCron = .ok () := by
  obtain ⟨hname, hlength, hcron, hlabels, hplugins⟩ :=
    formFault?_eq_none_iff.1 (checkForm_eq_ok_iff.1 h.form)
  rw [h.fields, checkForm_eq_ok_iff, formFault?_eq_none_iff]
  refine ⟨⟨hname, hlength, ?_, hlabels, hplugins⟩, ?_, h.cron⟩
  · intro hmanual
    exact hcron (Bool.or_eq_false_iff.1 hmanual).1
  · intro hflag
    have hflag : b.isManualCron = true := hflag
    simp only [normalized, hflag, Bool.or_true]

/-- A project that is there and belongs to no other blueprint passes the check. -/
theorem checkedProject_of_not_taken
    (hproject : b.hasProject = true → ∃ p, m.findProject b.projectName = some p)
    (htaken : m.isTaken b = false) : b.checkedProject m = .ok () := by
  unfold checkedProject
  split
  · next hhas =>
    obtain ⟨p, hp⟩ := hproject hhas
    rw [hp]
    dsimp only
    split
    · next owner howner =>
      rw [Memory.findOwner] at howner
      obtain ⟨id, hid⟩ := Table.mem_values_iff.1 (List.mem_of_find?_eq_some howner)
      have howns := List.find?_some howner
      have hname : owner.projectName = b.projectName := beq_iff_eq.1 howns
      have hsame : owner.id = b.id := Memory.id_eq_of_not_taken htaken hhas hid hname
      rw [if_neg (not_not.2 hsame)]
    · rfl
  · rfl

end Blueprint

namespace Run

variable {registry : Registry} {r : Run registry}

/-- If the store is empty at first, the project of a stored blueprint belongs to no other one. -/
theorem not_taken_of_stored (hempty : (r.memory 0).blueprints = Table.empty) {j : Nat} {id : Uuid}
    {b : Blueprint} (h : (r.memory j).findBlueprint id = some b) :
    (r.memory j).isTaken b = false := by
  rw [Memory.isTaken, Bool.and_eq_false_imp]
  intro hproject
  rw [List.any_eq_false]
  intro o ho
  obtain ⟨id', ho⟩ := Table.mem_values_iff.1 ho
  rw [Bool.and_eq_true, bne_iff_ne, beq_iff_eq]
  rintro ⟨hne, hname⟩
  obtain rfl : id = id' := ownedOnce hempty j id id' b o h ho hproject hname.symm
  exact hne (congrArg Blueprint.id (Option.some.inj (ho.symm.trans h)))

/-- If the store is empty at first, a stored blueprint is settled as soon as its plan is the one
that is composed for it. -/
theorem settled_of_stored (hempty : (r.memory 0).blueprints = Table.empty) {j : Nat} {id : Uuid}
    {b : Blueprint} (h : (r.memory j).findBlueprint id = some b)
    (hplan : b.mode = .normal →
      b.composedPlan registry b.syncPolicy (b.settingsIn (r.memory j)) = .ok b.plan) :
    b.Settled registry (r.memory j) := by
  obtain ⟨-, w, hw, k, hsave⟩ := exists_save_of_stored hempty h
  obtain ⟨c, b₀, -, -, hpasses⟩ := hsave.save_passes
  obtain ⟨hform, hmanual, hcron⟩ := hpasses.settled
  refine ⟨hform, ?_, hmanual, hcron, ?_, hplan⟩
  · refine Blueprint.checkedProject_of_not_taken ?_ (not_taken_of_stored hempty h)
    intro hproject
    obtain ⟨p, hp⟩ := hsave.project_found hproject
    exact project_stays hw.le hp
  · intro hmode
    have hmode₀ : b₀.mode = .advanced := hpasses.mode_eq.symm.trans hmode
    rw [hpasses.advanced hmode₀]
    exact hpasses.stages hmode₀

end Run

/-! ## Stored blueprints -/

/-- A blueprint stays as it is in a store: validation lets it through as it is, whatever else is
shared with the store, and a patch that sets nothing saves it with no other change than the time of
its update. -/
structure Blueprint.Stays (registry : Registry) (m : Memory) (b : Blueprint) : Prop where
  validated : ∀ (s : Shared) (k : Nat) (chance : Chance), s.memory = m →
    Shared.perform registry k chance b.validation s = some ((.ok (), b), s)
  /-- The rebuild after the patch may fail. -/
  patched : ∀ (s : Shared) (k : Nat) (chance : Chance), s.memory = m → s.holder = none →
    let b' := { b with updatedAt := s.clock }
    let memory := { m with blueprints := m.blueprints.insert b.id b' }
    let rebuilt := s.agenda.rebuild { clock := chance.readings } memory.scheduled
    Shared.perform registry k chance (Command.patch b.id {}).program s =
      some ((Shared.afterChange rebuilt.1).map fun _ => b',
        { s with memory, agenda := rebuilt.2 })

/-- A settled blueprint that is stored stays as it is. -/
theorem Blueprint.Settled.stays {registry : Registry} {m : Memory} {b : Blueprint}
    (h : b.Settled registry m) (hstored : m.findBlueprint b.id = some b)
    (htaken : m.isTaken b = false) : b.Stays registry m := by
  constructor
  · rintro s k chance rfl
    rw [Shared.perform_validation, h.validationIn_eq]
  · rintro s k chance rfl hfree
    exact Shared.perform_patch (p := {}) hstored rfl (h.updatedAt s.clock).validationIn_eq htaken
      hfree

namespace Run

variable {registry : Registry} {r : Run registry}

/-- Let the store be without blueprints at first. Then a stored blueprint whose plan its author has
written stays as it is, and so does one whose plan is derived if the settings of its project are
the same as when its last save asked for them. These are the settings at the save itself, unless one
of them was put just before it. -/
theorem stored_validated_again (hempty : (r.memory 0).blueprints = Table.empty) {j : Nat}
    {id : Uuid} {b : Blueprint} (h : (r.memory j).findBlueprint id = some b) :
    (b.mode = .advanced → b.Stays registry (r.memory j)) ∧
      (b.mode = .normal → ∃ w v k, r.LastSave j w v k b ∧
        ((∀ x, v ≤ x → x < w → ∀ m, r.action x ≠ .putMetric m) →
          b.settingsIn (r.memory w) = b.settingsIn (r.memory v)) ∧
        (b.settingsIn (r.memory j) = b.settingsIn (r.memory v) →
          b.Stays registry (r.memory j))) := by
  have hstored : (r.memory j).findBlueprint b.id = some b := by
    rw [r.keyed j h]
    exact h
  have htaken : (r.memory j).isTaken b = false := not_taken_of_stored hempty h
  constructor
  · intro hmode
    refine (settled_of_stored hempty h ?_).stays hstored htaken
    intro hnormal
    rw [hmode] at hnormal
    cases hnormal
  · intro hmode
    obtain ⟨w, v, k, hsave, hderived⟩ := exists_derived_save hempty h hmode
    refine ⟨w, v, k, hsave, fun hput => settingsIn_eq hsave.read_le hput b, ?_⟩
    intro hsettings
    refine (settled_of_stored hempty h ?_).stays hstored htaken
    intro _
    rw [hsettings]
    exact hderived.composedPlan_eq

theorem collection_validated_again :
    ∃ b, (Sample.collection.memory 14).findBlueprint b.id = some b ∧
      b.mode = .normal ∧ b.hasProject = true ∧
      b.Stays Catalog.registry (Sample.collection.memory 14) := by
  obtain ⟨e, he, hmode, hproject, -⟩ := Sample.collection_entry
  have hcurrent : Sample.collection.LastRebuildCurrent 14 :=
    (lastRebuildSucceeded_of_mem he).current Sample.collection_quiet
  have hstored := hcurrent.stored he
  obtain ⟨w, v, k, hsave, -, hstays⟩ := (stored_validated_again rfl hstored).2 hmode
  -- The request for the settings comes after they have been put.
  have hv : 2 ≤ v := (hsave.read hproject).le_of_arrived (i := 2) (Nat.zero_le k)
  refine ⟨e.job, hstored, hmode, hproject, hstays ?_⟩
  exact settingsIn_eq (hsave.read_le.trans hsave.lt.le)
    (fun x hx _ => Sample.collection_no_setting (hv.trans hx)) e.job

end Run

end Ingestion
