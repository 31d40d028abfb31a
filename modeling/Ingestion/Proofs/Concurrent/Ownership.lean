import Mathlib
import Ingestion.Proofs.Concurrent.Records

/-!
# Projects and their owners

A request looks up whether a project is there and who owns it, and saves its blueprint later. Two
requests can so find the same project free. It still gets one owner only, because the store looks
for an owner again when it saves (`Run.ownedOnce`). Whether the project is there is not looked at
again, and need not be: projects stay (`Run.project_stays`).
-/

namespace Ingestion

namespace Memory

/-- No project belongs to two blueprints. -/
def OwnedOnce (m : Memory) : Prop :=
  ∀ id id' b b', m.findBlueprint id = some b → m.findBlueprint id' = some b' →
    b.hasProject = true → b.projectName = b'.projectName → id = id'

theorem id_eq_of_not_taken {m : Memory} {b o : Blueprint} {id : Uuid} (h : m.isTaken b = false)
    (hproject : b.hasProject = true) (ho : m.findBlueprint id = some o)
    (hname : o.projectName = b.projectName) : o.id = b.id := by
  have hmem : o ∈ m.blueprints.values := Table.mem_values_iff.2 ⟨id, ho⟩
  rw [isTaken, hproject, Bool.true_and, List.any_eq_false] at h
  have hnot := h o hmem
  simpa [hname] using hnot

/-- To save a blueprint whose project no other one owns keeps projects from being owned twice. -/
theorem OwnedOnce.insert {m m' : Memory} {b : Blueprint} (h : m.OwnedOnce)
    (hkeyed : ∀ id o, m.findBlueprint id = some o → o.id = id) (htaken : m.isTaken b = false)
    (hm' : m'.blueprints = m.blueprints.insert b.id b) : m'.OwnedOnce := by
  have hfound {id : Uuid} {o : Blueprint} (ho : m'.findBlueprint id = some o) :
      (id = b.id ∧ o = b) ∨ m.findBlueprint id = some o := by
    rw [findBlueprint, hm', Table.find?_insert] at ho
    split at ho
    · next hid => exact .inl ⟨hid, (Option.some.inj ho).symm⟩
    · exact .inr ho
  intro id id' o o' ho ho' hproject hname
  rcases hfound ho with ⟨rfl, rfl⟩ | hold <;> rcases hfound ho' with ⟨rfl, rfl⟩ | hold'
  · rfl
  · rw [← hkeyed id' o' hold']
    exact (id_eq_of_not_taken htaken hproject hold' hname.symm).symm
  · have hproject' : o'.hasProject = true := by
      rw [Blueprint.hasProject, ← hname]
      exact hproject
    rw [← hkeyed id o hold]
    exact id_eq_of_not_taken htaken hproject' hold hname
  · exact h id id' o o' hold hold' hproject hname

/-- To delete a blueprint keeps projects from being owned twice. -/
theorem OwnedOnce.erase {m m' : Memory} {key : Uuid} (h : m.OwnedOnce)
    (hm' : m'.blueprints = m.blueprints.erase key) : m'.OwnedOnce := by
  have hfound {id : Uuid} {o : Blueprint} (ho : m'.findBlueprint id = some o) :
      m.findBlueprint id = some o := by
    rw [findBlueprint, hm', Table.find?_erase] at ho
    split at ho
    · cases ho
    · exact ho
  intro id id' o o' ho ho'
  exact h id id' o o' (hfound ho) (hfound ho')

end Memory

namespace Run

variable {registry : Registry} {r : Run registry}

theorem Exchanges.not_taken {w k : Nat} {b : Blueprint}
    (h : r.Exchanges w k (.saveBlueprint b) (.ok ())) : (r.memory w).isTaken b = false := by
  obtain ⟨chance, hanswer⟩ := h.exists_answer
  exact (Shared.answer_save hanswer).1

/-- If the store is empty at first, no project is ever owned twice. -/
theorem ownedOnce (hempty : (r.memory 0).blueprints = Table.empty) (i : Nat) :
    (r.memory i).OwnedOnce := by
  induction i with
  | zero =>
    intro id id' b b' hb
    rw [Memory.findBlueprint, hempty, Table.find?_empty] at hb
    cases hb
  | succ i ih =>
    rcases r.blueprints_eq_or_writes i with hsame | ⟨k, ⟨b, hsave⟩ | ⟨id, hdelete⟩⟩
    · intro id id' b b'
      rw [Memory.findBlueprint, Memory.findBlueprint, hsame]
      exact ih id id' b b'
    · exact ih.insert (fun id o ho => r.keyed i ho) hsave.not_taken hsave.saved
    · exact ih.erase hdelete.deleted.2

/-! ## Projects that are there -/

theorem Exchanges.findProject_reply {m k : Nat} {name : String}
    {reply : (Call.findProject name).Reply} (h : r.Exchanges m k (.findProject name) reply) :
    reply = .ok ((r.memory m).findProject name) :=
  h.reply_eq fun _ => rfl

/-- A project that is there stays there. -/
theorem project_stays {i j : Nat} (hij : i ≤ j) {name : String} {p : Project}
    (h : (r.memory i).findProject name = some p) :
    ∃ p', (r.memory j).findProject name = some p' := by
  induction j, hij using Nat.le_induction with
  | base => exact ⟨p, h⟩
  | succ j hij ih =>
    obtain ⟨p', hp'⟩ := ih
    rw [Memory.findProject] at hp' ⊢
    rcases r.step_cases j with ⟨k, c, reply, he⟩ | ho
    · have hsame : (r.memory (j + 1)).projects = (r.memory j).projects := he.frame.projects
      rw [hsame]
      exact ⟨p', hp'⟩
    · rcases ho.projects with hsame | ⟨q, hinsert⟩
      · rw [hsame]
        exact ⟨p', hp'⟩
      · rw [hinsert, Table.find?_insert]
        split
        · exact ⟨q, rfl⟩
        · exact ⟨p', hp'⟩

/-! ## What a request has seen when it saves -/

/-- The run in which nothing happens any more from the moment `w` on. -/
def stop (r : Run registry) (w : Nat) : Run registry where
  state i := r.state (min i w)
  action i := if i < w then r.action i else .idle
  initial := by
    rw [Nat.zero_min]
    exact r.initial
  step i := by
    split
    · next hi =>
      rw [Nat.min_eq_left hi.le, Nat.min_eq_left (Nat.succ_le_of_lt hi)]
      exact r.step i
    · next hi =>
      rw [Nat.min_eq_right (by omega), Nat.min_eq_right (by omega)]
      rfl

theorem stop_exchanges_iff {w i k : Nat} {c : Call} {reply : c.Reply} :
    (r.stop w).Exchanges i k c reply ↔ i < w ∧ r.Exchanges i k c reply := by
  by_cases hi : i < w
  · have hnext : i + 1 ≤ w := hi
    simp only [Exchanges, stop, hi, if_true, true_and, Nat.min_eq_left hi.le,
      Nat.min_eq_left hnext]
  · constructor
    · rintro ⟨chance, p, next, haction, -⟩
      simp only [stop, if_neg hi] at haction
      cases haction
    · exact fun h => absurd h.1 hi

/-- A blueprint is saved only after its project has been found, and the project is still there. -/
theorem Exchanges.project_found {w k : Nat} {b : Blueprint}
    (h : r.Exchanges w k (.saveBlueprint b) (.ok ())) (hproject : b.hasProject = true) :
    ∃ p, (r.memory w).findProject b.projectName = some p := by
  -- All that the request has found by now it finds in the run that stops after this step, too.
  have hstop : (r.stop (w + 1)).Exchanges w k (.saveBlueprint b) (.ok ()) :=
    stop_exchanges_iff.2 ⟨Nat.lt_succ_self w, h⟩
  obtain ⟨c, b₀, -, -, hpasses⟩ := hstop.save_passes
  have hname : b.projectName = b₀.projectName := by
    rw [hpasses.fields]
    rfl
  have hproject₀ : b₀.hasProject = true := by
    rw [Blueprint.hasProject, ← hname]
    exact hproject
  obtain ⟨p, m, hm⟩ := hpasses.project hproject₀
  obtain ⟨hlt, hfind⟩ := stop_exchanges_iff.1 hm
  have hthere : (r.memory m).findProject b.projectName = some p := by
    rw [hname]
    exact (Except.ok.inj hfind.findProject_reply).symm
  exact project_stays (Nat.le_of_lt_succ hlt) hthere

end Run

/-! ## A rivalry for a project -/

namespace Sample

/-- A project. -/
def atlas : Project :=
  { name := "atlas", createdAt := .midnight .epoch }

/-- A new blueprint for this project. -/
def atlasNightly : Draft :=
  { midnightly with projectName := atlas.name }

/-- Two requests create blueprints for one project. Both look for an owner before either of them
saves. -/
def rivalry : Run {} :=
  .ofActions {} empty
    ([.addProject atlas, .arrive (.create atlasNightly), .arrive (.create atlasNightly)] ++
      List.replicate 4 (.proceed 0 chance) ++
      List.replicate 4 (.proceed 1 { chance with id := .ofNat 2 }) ++
      List.replicate 5 (.proceed 0 chance) ++ List.replicate 2 (.proceed 1 chance))
    empty_initial (by decide +kernel)

theorem rivalry_stored : ∃ b, (rivalry.memory 18).findBlueprint (.ofNat 1) = some b ∧
    b.projectName = atlas.name := by
  have h : ((rivalry.memory 18).findBlueprint (.ofNat 1)).any
      (fun b => b.projectName == atlas.name) = true := by
    decide +kernel
  obtain ⟨b, hb, hname⟩ := (Option.any_eq_true _ _).1 h
  exact ⟨b, hb, beq_iff_eq.1 hname⟩

end Sample

namespace Run

variable {registry : Registry} {r : Run registry}

/-- Let the store be without blueprints at first. Then at every moment of every run two stored
blueprints with the same project are the same one, and the project of a stored blueprint is
there. -/
theorem projects_owned_once (hempty : (r.memory 0).blueprints = Table.empty) (i : Nat) :
    (∀ id id' b b', (r.memory i).findBlueprint id = some b →
      (r.memory i).findBlueprint id' = some b' → b.projectName ≠ "" →
      b.projectName = b'.projectName → id = id') ∧
    ∀ id b, (r.memory i).findBlueprint id = some b → b.projectName ≠ "" →
      ∃ p, (r.memory i).findProject b.projectName = some p := by
  have hproject {b : Blueprint} (h : b.projectName ≠ "") : b.hasProject = true := by
    simpa [Blueprint.hasProject] using h
  constructor
  · intro id id' b b' hb hb' hne hname
    exact ownedOnce hempty i id id' b b' hb hb' (hproject hne) hname
  · intro id b hb hne
    obtain ⟨-, w, hw, k, hsave⟩ := exists_save_of_stored hempty hb
    obtain ⟨p, hp⟩ := hsave.project_found (hproject hne)
    exact project_stays hw.le hp

theorem rivalry_owned_once : ∃ b, (Sample.rivalry.memory 18).findBlueprint (.ofNat 1) = some b ∧
    (∃ p, (Sample.rivalry.memory 18).findProject b.projectName = some p) ∧
    ∀ id b', (Sample.rivalry.memory 18).findBlueprint id = some b' →
      b.projectName = b'.projectName → .ofNat 1 = id := by
  obtain ⟨honce, hthere⟩ := projects_owned_once (r := Sample.rivalry) rfl 18
  obtain ⟨b, hb, hname⟩ := Sample.rivalry_stored
  have hne : b.projectName ≠ "" := by
    rw [hname]
    decide
  refine ⟨b, hb, hthere _ b hb hne, ?_⟩
  intro id b' hb' hsame
  exact honce _ id b b' hb hb' hne hsame

end Run

end Ingestion
