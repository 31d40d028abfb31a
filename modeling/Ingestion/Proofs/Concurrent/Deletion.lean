import Mathlib
import Ingestion.Proofs.Concurrent.Records

/-!
# Deleted blueprints

A blueprint that has been deleted stays away from the store and the agenda, unless a patch brings
it back: saving inserts or replaces, so a patch that has read the blueprint before it is deleted,
and saves it after, stores it again. Nothing else does, since no identifier is drawn twice.
-/

namespace Ingestion

namespace Run

variable {registry : Registry}

/-- After the moment `w` and before the moment `j` a patch brings a blueprint back that it has read
before `w`. -/
def Revived (r : Run registry) (id : Uuid) (w j : Nat) : Prop :=
  ∃ k p x, r.Carries x k (.patch id p) ∧ w < x ∧ x < j ∧
    ∃ m b t b', m < w ∧ r.Exchanges m k (.findBlueprint id) (.ok (some b)) ∧
      (p.apply b t).Completes (r.Occurs k) b' ∧ r.Exchanges x k (.saveBlueprint b') (.ok ())

variable {r : Run registry}

theorem Revived.mono {id : Uuid} {w i j : Nat} (hij : i ≤ j) (h : r.Revived id w i) :
    r.Revived id w j := by
  obtain ⟨k, p, x, hcarries, hwx, hxi, h⟩ := h
  exact ⟨k, p, x, hcarries, hwx, hxi.trans_le hij, h⟩

/-- What is stored again after it has been deleted has been brought back by a patch. -/
theorem Exchanges.revived_of_stored {w j k : Nat} {id : Uuid} {b : Blueprint}
    (hdelete : r.Exchanges w k (.deleteBlueprint id) (.ok true)) (hj : w < j)
    (h : (r.memory j).findBlueprint id = some b) : r.Revived id w j := by
  obtain ⟨hreply, herased⟩ := hdelete.deleted
  obtain ⟨b₀, hb₀⟩ := Option.isSome_iff_exists.1 (Except.ok.inj hreply).symm
  induction j using Nat.strong_induction_on generalizing b with
  | _ j ih =>
    obtain ⟨i, rfl⟩ := Nat.exists_eq_succ_of_ne_zero (Nat.ne_zero_of_lt hj)
    -- Right after the deletion there is no blueprint of this identifier.
    rcases Nat.lt_succ_iff_lt_or_eq.1 hj with hwi | rfl
    swap
    · rw [Memory.findBlueprint, herased, Table.find?_erase_self] at h
      cases h
    rcases stored_cases h with h | ⟨k', he, rfl⟩
    · exact (ih i (Nat.lt_succ_self i) hwi h).mono (Nat.le_succ i)
    obtain ⟨c, b₁, hcarries, hdrafted, hcompletes⟩ := he.save_origin
    cases hdrafted with
    | @create d id' t m hm hdraw =>
      -- The identifier was drawn before it was stored at `w`, so its request had written by then.
      have hid : id' = b.id := hcompletes.id_eq.symm
      subst hid
      obtain ⟨w', hw', hwk⟩ := hdraw.writes_of_stored hb₀
      have := hwk.moment_unique (.inl ⟨_, he⟩)
      omega
    | @patch id' p b₁ t m hm hread =>
      have hstored := hread.found
      have hid : id' = b.id := (r.keyed _ hstored).symm.trans hcompletes.id_eq.symm
      subst hid
      rcases Nat.lt_trichotomy m w with hmw | rfl | hwm
      · exact ⟨k', p, i, hcarries, hwi, Nat.lt_succ_self i, m, b₁, t, b, hmw, hread,
          hcompletes, he⟩
      · cases (hread.unique hdelete).2
      · exact (ih m (Nat.lt_succ_of_lt hm) hwm hstored).mono (Nat.le_succ_of_le hm.le)

/-- A request to delete a blueprint that succeeds has deleted it. -/
theorem exists_deletion {i k : Nat} {id : Uuid} (h : (r.state i).Succeeded k (.delete id)) :
    ∃ w < i, r.Exchanges w k (.deleteBlueprint id) (.ok true) ∧ r.Covers i w k := by
  obtain ⟨w, hw, hwk, hcovers⟩ := r.exists_covered_write h rfl
  have hcarries : r.Carries i k (.delete id) := by
    obtain ⟨p, hp, hc, -⟩ := h
    exact ⟨p, hp, hc⟩
  rcases hwk with ⟨b, he⟩ | ⟨id', he⟩
  · obtain ⟨c, b₀, hcarries', hdrafted, -⟩ := he.save_origin
    cases hcarries.unique hcarries'
    cases hdrafted
  · cases hcarries.unique he.delete_origin
    exact ⟨w, hw, he, hcovers⟩

/-- What the agenda shows after a deletion that it covers has been stored after the deletion. -/
theorem Covers.stored {j w k : Nat} {id : Uuid} (h : r.Covers j w k)
    (hshown : id ∈ (r.agenda j).owners.values) :
    ∃ f b, w < f ∧ f ≤ j ∧ (r.memory f).findBlueprint id = some b := by
  rcases h with ⟨f, hwf, hfj, hshows⟩ | ⟨hcleared, -⟩
  · rw [hshows.owners] at hshown
    obtain ⟨b, hb, rfl⟩ := List.mem_map.1 hshown
    obtain ⟨⟨id', hstored⟩, -⟩ := Memory.mem_scheduled.1 hb
    have hid : b.id = id' := r.keyed f hstored
    subst hid
    exact ⟨f, b, hwf, hfj, hstored⟩
  · rw [hcleared.owners] at hshown
    cases hshown

end Run

/-! ## A revival -/

namespace Sample

/-- A stored blueprint that is run by hand. -/
def nightly : Blueprint :=
  { midnightly.toBlueprint (.ofNat 1) (.midnight .epoch) with isManual := true }

/-- A store that holds this blueprint. -/
def stocked : System :=
  { shared := {
      clock := .midnight .epoch
      memory := { blueprints := Table.empty.insert nightly.id nightly }
      issued := [nightly.id] } }

theorem stocked_initial : stocked.Initial := by
  have hfound (id : Uuid) (b : Blueprint)
      (h : stocked.shared.memory.findBlueprint id = some b) : id = nightly.id ∧ b = nightly := by
    simp only [stocked, Memory.findBlueprint, Table.find?_insert] at h
    split at h
    · next hid =>
      cases h
      exact ⟨hid, rfl⟩
    · cases h
  refine ⟨rfl, rfl, rfl, fun id b h => ?_, fun id b h => ?_⟩
  · obtain ⟨rfl, rfl⟩ := hfound id b h
    rfl
  · obtain ⟨rfl, -⟩ := hfound id b h
    exact List.mem_singleton_self _

/-- A patch reads the blueprint and the clock, a request to delete it is carried on to its end, and
only then the patch saves the blueprint. -/
def revival : Run {} :=
  .ofActions {} stocked
    ([.arrive (.patch nightly.id { name := some "weekly" }), .arrive (.delete nightly.id)] ++
      List.replicate 2 (.proceed 0 chance) ++ List.replicate 5 (.proceed 1 chance) ++
      [.proceed 0 chance])
    stocked_initial (by decide +kernel)

theorem revival_deleted : (revival.state 9).Succeeded 1 (.delete nightly.id) :=
  revival.succeeded_of_arrived (i := 2) (by decide) rfl (by decide +kernel)

theorem revival_stored : ∃ b, (revival.memory 10).findBlueprint nightly.id = some b :=
  Option.isSome_iff_exists.1 (by decide +kernel)

end Sample

namespace Run

variable {registry : Registry} {r : Run registry}

/-- Once a request to delete a blueprint has succeeded, the blueprint is stored or scheduled only if
a patch that had read it before it was deleted has saved it since. Its identifier is not drawn
again. -/
theorem deleted_unless_revived {i j k : Nat} {id : Uuid}
    (h : (r.state i).Succeeded k (.delete id)) (hij : i ≤ j) :
    ∃ w < i, r.Exchanges w k (.deleteBlueprint id) (.ok true) ∧
      (∀ x k', w ≤ x → ¬ r.Exchanges x k' .freshId id) ∧
      ((∃ b, (r.memory j).findBlueprint id = some b) ∨ id ∈ (r.agenda j).owners.values →
        r.Revived id w j) := by
  obtain ⟨w, hw, hdelete, -⟩ := exists_deletion h
  obtain ⟨w', -, hdelete', hcovers⟩ := exists_deletion (r.succeeded_stays hij h)
  obtain rfl : w' = w := Writes.moment_unique (.inr ⟨id, hdelete'⟩) (.inr ⟨id, hdelete⟩)
  refine ⟨w', hw, hdelete, ?_, ?_⟩
  · intro x k' hwx hdraw
    obtain ⟨b, hb⟩ := Option.isSome_iff_exists.1 (Except.ok.inj hdelete.deleted.1).symm
    exact hdraw.drawn.1 (issued_mono hwx (mem_issued hb))
  · rintro (⟨b, hb⟩ | hshown)
    · exact hdelete.revived_of_stored (hw.trans_le hij) hb
    · obtain ⟨f, b, hwf, hfj, hb⟩ := hcovers.stored hshown
      exact (hdelete.revived_of_stored hwf hb).mono hfj

/-- A blueprint can come back after the request to delete it has succeeded. -/
theorem deletion_not_final : ¬ ∀ (registry : Registry) (r : Run registry) (i j k : Nat)
    (id : Uuid), (r.state i).Succeeded k (.delete id) → i ≤ j →
      (r.memory j).findBlueprint id = none ∧ id ∉ (r.agenda j).owners.values := by
  intro h
  obtain ⟨b, hb⟩ := Sample.revival_stored
  have hnone := (h {} Sample.revival 9 10 1 _ Sample.revival_deleted (by decide)).1
  rw [hnone] at hb
  cases hb

theorem revival_revived : ∃ w < 9, Sample.revival.Revived Sample.nightly.id w 10 := by
  obtain ⟨w, hw, -, -, hrevived⟩ :=
    deleted_unless_revived (j := 10) Sample.revival_deleted (by decide)
  exact ⟨w, hw, hrevived (.inl Sample.revival_stored)⟩

end Run

end Ingestion
