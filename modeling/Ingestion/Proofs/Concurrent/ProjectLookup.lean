import Mathlib
import Ingestion.Proofs.Concurrent.Ownership
import Ingestion.Proofs.Concurrent.Triggering

/-!
# Looking up the owner of a project

A project has one owner at most, so a lookup by its name gives that owner
(`Run.found_by_project`). Storage and lookup differ in what they take for the name of a project: a
blueprint belongs to a project as soon as its `projectName` is not empty, but the lookup refuses
every blank name. A project with a blank name can so have an owner that the lookup does not give.
-/

namespace Ingestion

/-- Empty text is blank. -/
theorem Text.ne_empty_of_not_isBlank {s : String} (h : Text.isBlank s = false) : s ≠ "" := by
  rintro rfl
  exact absurd h (by decide)

/-- The error for a lookup by a blank name. -/
def Service.blankProject : RequestError :=
  .internal "project name is required"

namespace Memory

variable {m : Memory} {name : String}

/-- A blueprint that alone has a project is found as its owner. -/
theorem findOwner_eq_of_only {id : Uuid} {b : Blueprint} (hb : m.findBlueprint id = some b)
    (hname : b.projectName = name)
    (honly : ∀ id' o, m.findBlueprint id' = some o → o.projectName = name → o = b) :
    m.findOwner name = some b := by
  have hmem : b ∈ m.blueprints.values := Table.mem_values_iff.2 ⟨id, hb⟩
  cases hfound : m.findOwner name with
  | none =>
    rw [findOwner, List.find?_eq_none] at hfound
    exact absurd (beq_iff_eq.2 hname) (hfound b hmem)
  | some o =>
    rw [findOwner] at hfound
    have howner : o.projectName = name :=
      beq_iff_eq.1 (List.find?_some (p := fun b' : Blueprint => b'.projectName == _) hfound)
    obtain ⟨id', ho⟩ := Table.mem_values_iff.1 (List.mem_of_find?_eq_some hfound)
    rw [honly id' o ho howner]

/-- In a store where no project is owned twice the owner of a project is the one blueprint that has
it. -/
theorem OwnedOnce.findOwner_eq (h : m.OwnedOnce) {id : Uuid} {b : Blueprint}
    (hb : m.findBlueprint id = some b) (hproject : b.hasProject = true) :
    m.findOwner b.projectName = some b := by
  refine findOwner_eq_of_only hb rfl fun id' o ho hname => ?_
  obtain rfl := h id id' b o hb ho hproject hname.symm
  exact Option.some.inj (ho.symm.trans hb)

/-- A project that no stored blueprint has is not found to have an owner. -/
theorem findOwner_eq_none (h : ∀ id b, m.findBlueprint id = some b → b.projectName ≠ name) :
    m.findOwner name = none := by
  rw [findOwner, List.find?_eq_none]
  intro b hmem hname
  obtain ⟨id, hb⟩ := Table.mem_values_iff.1 hmem
  exact h id b hb (beq_iff_eq.1 hname)

/-- A blueprint is refused if another one is found to own its project. -/
theorem isTaken_of_findOwner {b o : Blueprint} (h : m.findOwner b.projectName = some o)
    (hid : o.id ≠ b.id) (hproject : b.hasProject = true) : m.isTaken b = true := by
  rw [findOwner] at h
  rw [isTaken, hproject, Bool.true_and]
  have hname := List.find?_some (p := fun b' : Blueprint => b'.projectName == _) h
  exact List.any_eq_true.2
    ⟨o, List.mem_of_find?_eq_some h, Bool.and_eq_true_iff.2 ⟨bne_iff_ne.2 hid, hname⟩⟩

theorem isTaken_of_findOwner_eq_none {b : Blueprint} (h : m.findOwner b.projectName = none) :
    m.isTaken b = false := by
  rw [findOwner, List.find?_eq_none] at h
  rw [isTaken, List.any_eq_false.2, Bool.and_false]
  intro o ho hother
  exact h o ho (Bool.and_eq_true_iff.1 hother).2

end Memory

/-- A lookup changes nothing. It refuses a blank name, and gives the owner that the store finds for
any other one. -/
theorem Shared.perform_getByProject {registry : Registry} (k : Nat) (chance : Chance) (s : Shared)
    (name : String) :
    perform registry k chance (Command.getByProject name).program s =
      some (if Text.isBlank name then .error Service.blankProject
        else .ok (s.memory.findOwner name), s) := by
  have howner : perform registry k chance
      (Request.store (Program.ask (.findOwner name))).run s =
        some (.ok (s.memory.findOwner name), s) :=
    perform_lift (r := .ok (s.memory.findOwner name)) (perform_ask _)
  show perform registry k chance (Service.getByProject name).run s = _
  unfold Service.getByProject
  cases Text.isBlank name with
  | true => rfl
  | false => exact howner

/-! ## A project with a blank name -/

namespace Sample

/-- A project whose name is a blank. -/
def blank : Project :=
  { name := " ", createdAt := .midnight .epoch }

/-- A project with a blank name is added, and a request creates a blueprint for it. -/
def blankProject : Run {} :=
  .ofActions {} empty
    ([.addProject blank, .addProject atlas,
        .arrive (.create { midnightly with projectName := blank.name }),
        .arrive (.create atlasNightly)] ++
      List.replicate 9 (.proceed 0 chance) ++
      List.replicate 9 (.proceed 1 { chance with id := .ofNat 2 }))
    empty_initial (by decide +kernel)

theorem blankProject_stored : ∃ b, (blankProject.memory 22).findBlueprint (.ofNat 1) = some b ∧
    b.projectName = " " := by
  have h : ((blankProject.memory 22).findBlueprint (.ofNat 1)).any
      (fun b => b.projectName == " ") = true := by
    decide +kernel
  obtain ⟨b, hb, hname⟩ := (Option.any_eq_true _ _).1 h
  exact ⟨b, hb, beq_iff_eq.1 hname⟩

theorem blankProject_stored_atlas :
    ∃ b, (blankProject.memory 22).findBlueprint (.ofNat 2) = some b ∧
      b.projectName = atlas.name := by
  have h : ((blankProject.memory 22).findBlueprint (.ofNat 2)).any
      (fun b => b.projectName == atlas.name) = true := by
    decide +kernel
  obtain ⟨b, hb, hname⟩ := (Option.any_eq_true _ _).1 h
  exact ⟨b, hb, beq_iff_eq.1 hname⟩

end Sample

namespace Run

variable {registry : Registry} {r : Run registry}

/-- Let the store be without blueprints at first. Then at every moment of every run a lookup by the
project of a stored blueprint gives this blueprint, unless the name of the project is blank: such a
name is refused, whether or not it has an owner. A lookup by the name of a project that no stored
blueprint belongs to does not give a blueprint. No lookup changes anything. -/
theorem found_by_project (hempty : (r.memory 0).blueprints = Table.empty) (i : Nat) (k : Nat)
    (chance : Chance) :
    (∀ id b, (r.memory i).findBlueprint id = some b → Text.isBlank b.projectName = false →
      Shared.perform registry k chance (Command.getByProject b.projectName).program
        (r.state i).shared = some (.ok (some b), (r.state i).shared)) ∧
    (∀ name, Text.isBlank name = true →
      Shared.perform registry k chance (Command.getByProject name).program (r.state i).shared =
        some (.error Service.blankProject, (r.state i).shared)) ∧
    ∀ name, (∀ id b, (r.memory i).findBlueprint id = some b → b.hasProject = true →
        b.projectName ≠ name) →
      Shared.perform registry k chance (Command.getByProject name).program (r.state i).shared =
        some (if Text.isBlank name then .error Service.blankProject else .ok none,
          (r.state i).shared) := by
  refine ⟨?_, ?_, ?_⟩
  · intro id b hb hblank
    have hproject : b.hasProject = true := by
      simpa [Blueprint.hasProject] using Text.ne_empty_of_not_isBlank hblank
    have howner : (r.state i).shared.memory.findOwner b.projectName = some b :=
      (ownedOnce hempty i).findOwner_eq hb hproject
    rw [Shared.perform_getByProject, hblank, howner]
    rfl
  · intro name hblank
    rw [Shared.perform_getByProject, hblank]
    rfl
  · intro name hnone
    rw [Shared.perform_getByProject]
    cases hblank : Text.isBlank name with
    | true => rfl
    | false =>
      -- A blueprint without a project has the empty name, which is blank.
      have howner : (r.state i).shared.memory.findOwner name = none := by
        refine Memory.findOwner_eq_none fun id b hb hname => ?_
        have hproject : b.hasProject = true := by
          simpa [Blueprint.hasProject, hname] using Text.ne_empty_of_not_isBlank hblank
        exact hnone id b hb hproject hname
      rw [howner]

theorem blankProject_found : ∃ b,
    (Sample.blankProject.memory 22).findBlueprint (.ofNat 2) = some b ∧
    Shared.perform {} 2 Sample.chance (Command.getByProject b.projectName).program
      (Sample.blankProject.state 22).shared =
        some (.ok (some b), (Sample.blankProject.state 22).shared) := by
  obtain ⟨b, hb, hname⟩ := Sample.blankProject_stored_atlas
  have hblank : Text.isBlank b.projectName = false := by
    rw [hname]
    decide
  have hfound := found_by_project (r := Sample.blankProject) rfl 22 2 Sample.chance
  exact ⟨b, hb, hfound.1 _ b hb hblank⟩

/-- Not every stored blueprint with a project is found by it: the name of the project can be
blank. -/
theorem blankProject_not_found : ¬ ∀ (registry : Registry) (r : Run registry) (i k : Nat)
    (chance : Chance) (id : Uuid) (b : Blueprint), (r.memory 0).blueprints = Table.empty →
    (r.memory i).findBlueprint id = some b → b.projectName ≠ "" →
      ∃ s, Shared.perform registry k chance (Command.getByProject b.projectName).program
        (r.state i).shared = some (.ok (some b), s) := by
  intro h
  obtain ⟨b, hb, hname⟩ := Sample.blankProject_stored
  obtain ⟨s, hs⟩ := h {} Sample.blankProject 22 2 Sample.chance _ b rfl hb (by rw [hname]; decide)
  rw [hname, Shared.perform_getByProject, if_pos (by decide)] at hs
  cases hs

end Run

end Ingestion
