import Mathlib
import Ingestion.Proofs.Store.Listing

/-!
# Categories of a listing

Besides the category of all, every blueprint belongs to one category, told by its flag and its cron
expression (`Blueprint.category`). So the listing of all is divided among the listings of the other
categories (`Memory.categories_divide`). Sorting is stable, so a filter may come before it or
after it, and each of them keeps the order of the listing of all.
-/

namespace Ingestion

/-! ## Filtering and sorting -/

section Sorting

variable {α : Type} {le : α → α → Bool}

/-- The first element of a list is sorted in behind those that belong before it. -/
theorem mergeSort_cons_eq (htrans : ∀ a b c, le a b = true → le b c = true → le a c = true)
    (htotal : ∀ a b, (le a b || le b a) = true) (a : α) (xs : List α) :
    (a :: xs).mergeSort le =
      (xs.mergeSort le).filter (fun b => !le a b) ++ a :: (xs.mergeSort le).filter (le a) := by
  obtain ⟨before, after, hsort, hrest, hbefore⟩ := List.mergeSort_cons htrans htotal a xs
  have hafter : ∀ b ∈ after, le a b = true := by
    have hsorted := List.pairwise_mergeSort htrans htotal (a :: xs)
    rw [hsort] at hsorted
    exact (List.pairwise_cons.1 (List.pairwise_append.1 hsorted).2.1).1
  have hnotBefore : ∀ b ∈ before, ¬ le a b = true := by
    simpa using hbefore
  have hnotAfter : ∀ b ∈ after, ¬ (!le a b) = true := by
    simpa using hafter
  rw [hsort, hrest, List.filter_append, List.filter_append, List.filter_eq_self.2 hbefore,
    List.filter_eq_nil_iff.2 hnotAfter, List.filter_eq_nil_iff.2 hnotBefore,
    List.filter_eq_self.2 hafter, List.append_nil, List.nil_append]

theorem filter_mergeSort (htrans : ∀ a b c, le a b = true → le b c = true → le a c = true)
    (htotal : ∀ a b, (le a b || le b a) = true) (p : α → Bool) (xs : List α) :
    (xs.mergeSort le).filter p = (xs.filter p).mergeSort le := by
  induction xs with
  | nil => simp
  | cons a xs ih =>
    by_cases ha : p a = true
    · rw [mergeSort_cons_eq htrans htotal, List.filter_append, List.filter_cons_of_pos ha,
        List.filter_cons_of_pos ha, mergeSort_cons_eq htrans htotal, ← ih, List.filter_comm p,
        List.filter_comm p]
    · obtain ⟨before, after, hsort, hrest, -⟩ := List.mergeSort_cons htrans htotal a xs
      rw [hsort, List.filter_append, List.filter_cons_of_neg ha, List.filter_cons_of_neg ha, ← ih,
        hrest, List.filter_append]

end Sorting

/-! ## The category of a blueprint -/

/-- The category of a blueprint, besides the one of all. -/
def Blueprint.category (b : Blueprint) : Category :=
  if b.isManual then .manual
  else if b.cronConfig = Category.dailyCron then .daily
  else if b.cronConfig = Category.weeklyCron then .weekly
  else if b.cronConfig = Category.monthlyCron then .monthly
  else .custom

namespace Category

/-- The categories besides the one of all. -/
def proper : List Category :=
  [.manual, .daily, .weekly, .monthly, .custom]

theorem mem_proper_iff {c : Category} : c ∈ proper ↔ c ≠ .all := by
  cases c <;> decide

/-- A category other than the one of all includes just the blueprints of this category. -/
theorem includes_iff {c : Category} (hc : c ∈ proper) {b : Blueprint} :
    c.includes b = true ↔ b.category = c := by
  have hall : c ≠ .all := mem_proper_iff.1 hc
  -- no cron expression is the one of two categories
  have hcrons : dailyCron ≠ weeklyCron ∧ dailyCron ≠ monthlyCron ∧ weeklyCron ≠ monthlyCron := by
    decide
  unfold Blueprint.category
  split_ifs with hmanual hdaily hweekly hmonthly
  · cases c <;> simp_all [includes]
  · cases c <;> simp_all [includes, cron?]
  · cases c <;> simp_all [includes, cron?]
  · cases c <;> simp_all [includes, cron?]
  · cases c <;> simp_all [includes, cron?]

theorem category_mem_proper (b : Blueprint) : b.category ∈ proper := by
  unfold Blueprint.category
  split_ifs <;> decide

/-- A list is divided among the categories. -/
theorem flatMap_filter_perm (bs : List Blueprint) :
    (proper.flatMap fun c => bs.filter c.includes).Perm bs := by
  induction bs with
  | nil => exact .refl _
  | cons b bs ih =>
    have hone : (proper.flatMap fun c => [b].filter c.includes) = [b] := by
      have hfilter : ∀ c ∈ proper, [b].filter c.includes = if b.category = c then [b] else [] := by
        intro c hc
        simp only [List.filter_cons, List.filter_nil, includes_iff hc]
      rw [List.flatMap_congr hfilter]
      have hmem := category_mem_proper b
      cases hcategory : b.category <;> simp_all [proper]
    have happend := List.flatMap_append_perm proper (fun c => [b].filter c.includes)
      fun c => bs.filter c.includes
    simp only [hone, ← List.filter_append] at happend
    exact happend.symm.trans (ih.cons b)

end Category

/-! ## Listings of categories -/

/-- The query for the blueprints of a category that pass two other filters. -/
def Query.ofCategory (enable : Option Bool) (label : Option String) (c : Category) : Query where
  enable := enable
  label := label
  category := c

theorem sum_map_ofNat {α : Type} (f : α → Nat) (xs : List α) :
    (xs.map fun x => Int64.ofNat (f x)).sum = .ofNat (xs.map f).sum := by
  induction xs with
  | nil => rfl
  | cons x xs ih =>
    rw [List.map_cons, List.map_cons, List.sum_cons, List.sum_cons, ih, Int64.ofNat_add]

namespace Memory

variable (m : Memory) (enable : Option Bool) (label : Option String)

/-- The listing of a category is what it includes of the listing of all. -/
theorem selected_ofCategory (c : Category) : m.selected (.ofCategory enable label c) =
    (m.selected (.ofCategory enable label .all)).filter c.includes := by
  have hselects (b : Blueprint) : (Query.ofCategory enable label c).selects b =
      (c.includes b && (Query.ofCategory enable label .all).selects b) := by
    simp only [Query.selects, Query.ofCategory, Category.includes, Bool.and_true]
    exact Bool.and_comm _ _
  rw [selected, selected, filter_mergeSort listedBefore_trans listedBefore_total,
    List.filter_filter, funext hselects]

/-- The blueprints that pass two filters are divided among the categories. Each of them is listed
for just one category, in the order of the listing of all, and the numbers of the categories come to
the number of all. A query for the flag for runs by hand finds the same whatever its category is. -/
theorem categories_divide :
    (∀ b ∈ (m.findBlueprints (.ofCategory enable label .all)).1,
        ∃! c, c ∈ Category.proper ∧ b ∈ (m.findBlueprints (.ofCategory enable label c)).1) ∧
      (Category.proper.flatMap fun c => (m.findBlueprints (.ofCategory enable label c)).1).Perm
        (m.findBlueprints (.ofCategory enable label .all)).1 ∧
      (∀ c, (m.findBlueprints (.ofCategory enable label c)).1.Sublist
        (m.findBlueprints (.ofCategory enable label .all)).1) ∧
      (∀ c, (m.findBlueprints (.ofCategory enable label c)).2 =
        .ofNat (m.findBlueprints (.ofCategory enable label c)).1.length) ∧
      (Category.proper.map fun c => (m.findBlueprints (.ofCategory enable label c)).2).sum =
        (m.findBlueprints (.ofCategory enable label .all)).2 ∧
      ∀ (q : Query) (isManual : Bool) (c : Category),
        m.findBlueprints { q with isManual := some isManual, category := c } =
          m.findBlueprints { q with isManual := some isManual } := by
  let bs := m.selected (.ofCategory enable label .all)
  have hlist (c : Category) :
      (m.findBlueprints (.ofCategory enable label c)).1 = bs.filter c.includes :=
    selected_ofCategory m enable label c
  have hcount (c : Category) : (m.findBlueprints (.ofCategory enable label c)).2 =
      .ofNat (m.findBlueprints (.ofCategory enable label c)).1.length := rfl
  have hall : (m.findBlueprints (.ofCategory enable label .all)).1 = bs := rfl
  have hperm : (Category.proper.flatMap fun c => bs.filter c.includes).Perm bs :=
    Category.flatMap_filter_perm bs
  rw [hcount .all, hall]
  simp only [hcount, hlist]
  refine ⟨fun b hb => ⟨b.category, ?_, ?_⟩, hperm, fun _ => List.filter_sublist, fun _ => trivial,
    ?_, fun _ _ _ => rfl⟩
  · have hmem := Category.category_mem_proper b
    exact ⟨hmem, List.mem_filter.2 ⟨hb, (Category.includes_iff hmem).2 rfl⟩⟩
  · rintro c ⟨hmem, hc⟩
    exact ((Category.includes_iff hmem).1 (List.mem_filter.1 hc).2).symm
  · rw [sum_map_ofNat, ← List.length_flatMap, hperm.length_eq]

theorem twins_divide :
    (∃! c, c ∈ Category.proper ∧
      Sample.twin 1 ∈ (Sample.twins.findBlueprints (.ofCategory none none c)).1) ∧
    (Category.proper.map fun c => (Sample.twins.findBlueprints (.ofCategory none none c)).2).sum =
      2 := by
  have hselected : Sample.twins.selected (.ofCategory none none .all) =
      [Sample.twin 1, Sample.twin 2] :=
    Sample.twins_selected
  have hall : Sample.twins.findBlueprints (.ofCategory none none .all) =
      ([Sample.twin 1, Sample.twin 2], 2) := by
    rw [findBlueprints, hselected]
    rfl
  obtain ⟨hone, -, -, -, hsum, -⟩ := categories_divide Sample.twins none none
  rw [hall] at hone hsum
  exact ⟨hone (Sample.twin 1) List.mem_cons_self, hsum⟩

end Memory

end Ingestion
