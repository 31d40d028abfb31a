import Mathlib
import Ingestion.Proofs.Table
import Ingestion.Proofs.Time.Calendar
import Ingestion.Store.Memory

/-!
# Listing blueprints

The blueprints that pass the filter of a query are listed from the newest to the oldest, and those
of one instant by their identifiers. In a store that keeps every blueprint under its own identifier
no two of them have the same place (`Memory.Keyed.lists_selected`).

The pages of a list are its pieces of one length. Put together they give the list back, whatever the
length is, and no page that can be asked for lies beyond what 64 bits count
(`Memory.pages_partition`).
-/

namespace Ingestion

/-! ## The order of a listing -/

namespace Memory

/-- A blueprint is newer than another one, or as new and of no greater identifier. -/
def Precedes (b b' : Blueprint) : Prop :=
  b'.createdAt < b.createdAt ∨ b.createdAt = b'.createdAt ∧ b.id.value ≤ b'.id.value

theorem listedBefore_iff {b b' : Blueprint} : listedBefore b b' = true ↔ Precedes b b' := by
  simp [listedBefore, Precedes]

theorem precedes_iff_rank {b b' : Blueprint} : Precedes b b' ↔
    b'.createdAt.rank < b.createdAt.rank ∨
      b.createdAt.rank = b'.createdAt.rank ∧ b.id.value ≤ b'.id.value := by
  rw [Precedes, Instant.eq_iff_rank]
  exact Iff.rfl

theorem listedBefore_trans (a b c : Blueprint) (hab : listedBefore a b = true)
    (hbc : listedBefore b c = true) : listedBefore a c = true := by
  rw [listedBefore_iff, precedes_iff_rank] at hab hbc ⊢
  omega

theorem listedBefore_total (a b : Blueprint) :
    (listedBefore a b || listedBefore b a) = true := by
  rw [Bool.or_eq_true, listedBefore_iff, listedBefore_iff, precedes_iff_rank, precedes_iff_rank]
  omega

theorem mergeSort_listedBefore_sorted (bs : List Blueprint) :
    (bs.mergeSort listedBefore).Pairwise Precedes :=
  (List.pairwise_mergeSort listedBefore_trans listedBefore_total _).imp listedBefore_iff.1

theorem mem_selected {m : Memory} {q : Query} {b : Blueprint} :
    b ∈ m.selected q ↔ (∃ id, m.findBlueprint id = some b) ∧ q.selects b = true := by
  simp only [selected, List.mem_mergeSort, List.mem_filter, Table.mem_values_iff, findBlueprint]

theorem selected_perm (m : Memory) (q : Query) :
    (m.selected q).Perm (m.blueprints.values.filter q.selects) :=
  List.mergeSort_perm _ _

/-! ## Identifiers -/

/-- Every blueprint is stored under its own identifier. -/
def Keyed (m : Memory) : Prop :=
  ∀ id b, m.findBlueprint id = some b → b.id = id

theorem keyed_empty : Keyed {} := by
  rintro id b ⟨⟩

theorem Keyed.insert {m : Memory} (h : m.Keyed) (b : Blueprint) :
    Keyed { m with blueprints := m.blueprints.insert b.id b } := by
  intro id b' hb'
  rw [findBlueprint, Table.find?_insert] at hb'
  split at hb'
  · next hid =>
    cases hb'
    exact hid.symm
  · exact h id b' hb'

/-- No two stored blueprints have the same identifier. -/
theorem Keyed.values_nodup {m : Memory} (h : m.Keyed) :
    (m.blueprints.values.map (·.id)).Nodup := by
  have hids : m.blueprints.values.map (·.id) = m.blueprints.keys := by
    rw [Table.values, List.map_map]
    refine List.map_congr_left ?_
    rintro ⟨id, b⟩ hmem
    exact h id b (Table.find?_eq_some_iff.2 hmem)
  rw [hids]
  exact m.blueprints.keys_nodup

theorem Keyed.filter_nodup {m : Memory} (h : m.Keyed) (p : Blueprint → Bool) :
    ((m.blueprints.values.filter p).map (·.id)).Nodup :=
  h.values_nodup.sublist (List.filter_sublist.map _)

/-- A list holds just the stored blueprints that pass the filter of a query, each of them once, and
each of them before those that are older or of the same instant and of a greater identifier. -/
structure Lists (m : Memory) (q : Query) (bs : List Blueprint) : Prop where
  mem_iff : ∀ b, b ∈ bs ↔ (∃ id, m.findBlueprint id = some b) ∧ q.selects b = true
  nodup : (bs.map (·.id)).Nodup
  sorted : bs.Pairwise fun b b' =>
    b'.createdAt < b.createdAt ∨ b.createdAt = b'.createdAt ∧ b.id < b'.id

theorem Keyed.lists_selected {m : Memory} (h : m.Keyed) (q : Query) :
    m.Lists q (m.selected q) := by
  have hnodup : ((m.selected q).map (·.id)).Nodup :=
    ((m.selected_perm q).map _).nodup_iff.2 (h.filter_nodup _)
  refine ⟨fun b => mem_selected, hnodup, ?_⟩
  have hne : (m.selected q).Pairwise fun b b' => b.id ≠ b'.id := List.pairwise_map.1 hnodup
  refine ((mergeSort_listedBefore_sorted _).and hne).imp ?_
  rintro b b' ⟨hnewer | ⟨hsame, hle⟩, hne⟩
  · exact .inl hnewer
  · have hvalue : b.id.value ≠ b'.id.value := fun heq => hne (Uuid.ext_value heq)
    exact .inr ⟨hsame, Nat.lt_of_le_of_ne hle hvalue⟩

end Memory

/-! ## Pages -/

/-- The length of a page: what is asked for, but from 1 to 500, and 50 if nothing is asked for. -/
def Query.pageLength : Option UInt32 → Nat
  | none => 50
  | some size => min (max size.toNat 1) 500

namespace Query

variable (q : Query) (page size : Option UInt32) (p : UInt32)

theorem limit?_page :
    { q with page := some p, pageSize := size }.limit? = some (pageLength size) := by
  cases size <;> rfl

theorem offset_page : { q with page := some p, pageSize := size }.offset =
    (max p.toNat 1 - 1) * pageLength size := by
  simp only [offset, limit?_page, Option.map_some, Option.getD_some]

theorem pageLength_pos : 0 < pageLength size := by
  cases size <;> simp only [pageLength] <;> omega

theorem pageLength_le : pageLength size ≤ 500 := by
  cases size <;> simp only [pageLength] <;> omega

theorem toNat_max_one : (max p 1).toNat = max p.toNat 1 := by
  show (if p ≤ 1 then 1 else p).toNat = _
  by_cases h : p ≤ 1
  · have hle : p.toNat ≤ 1 := UInt32.le_iff_toNat_le.1 h
    rw [if_pos h, Nat.max_eq_right hle]
    rfl
  · have hle : ¬ p.toNat ≤ 1 := fun hle => h (UInt32.le_iff_toNat_le.2 hle)
    rw [if_neg h, Nat.max_eq_left (by omega)]

/-- The offset of a page is what its product in 64 bits gives. -/
theorem toNat_offset_page : ((max p 1 - 1).toUInt64 * .ofNat (pageLength size)).toNat =
    { q with page := some p, pageSize := size }.offset := by
  have hone : (1 : UInt32) ≤ max p 1 := by
    rw [UInt32.le_iff_toNat_le, toNat_max_one]
    exact Nat.le_max_right _ _
  have hindex : (max p 1 - 1).toNat = max p.toNat 1 - 1 := by
    rw [UInt32.toNat_sub_of_le _ _ hone, toNat_max_one]
    rfl
  have hlength : (UInt64.ofNat (pageLength size)).toNat = pageLength size :=
    UInt64.toNat_ofNat_of_lt' (lt_of_le_of_lt (pageLength_le size) (by decide))
  rw [UInt64.toNat_mul, UInt32.toNat_toUInt64, hindex, hlength, offset_page]
  refine Nat.mod_eq_of_lt ?_
  have hp := p.toNat_lt
  calc (max p.toNat 1 - 1) * pageLength size
      ≤ 2 ^ 32 * 500 := Nat.mul_le_mul (by omega) (pageLength_le size)
    _ < 2 ^ 64 := by decide

end Query

/-- The first pieces of a list, put together, are its beginning. -/
theorem flatMap_range_take_drop {α : Type} (xs : List α) (length n : Nat) :
    ((List.range n).flatMap fun i => (xs.drop (i * length)).take length) =
      xs.take (n * length) := by
  induction n with
  | zero => simp
  | succ n ih => rw [List.range_succ, List.flatMap_append, ih, Nat.succ_mul, List.take_add]; simp

namespace Memory

variable (m : Memory) (q : Query) (size : Option UInt32) (p : UInt32)

theorem findBlueprints_fst_page :
    (m.findBlueprints { q with page := some p, pageSize := size }).1 =
      ((m.selected q).drop ((max p.toNat 1 - 1) * Query.pageLength size)).take
        (Query.pageLength size) := by
  have hselected : m.selected { q with page := some p, pageSize := size } = m.selected q := rfl
  rw [findBlueprints, hselected]
  dsimp only
  rw [page, Query.limit?_page]
  dsimp only
  rw [Query.offset_page]

/-- The first pages of a listing, put together. -/
def firstPages (n : Nat) : List Blueprint :=
  (List.range n).flatMap fun i =>
    (m.findBlueprints { q with page := some (.ofNat (i + 1)), pageSize := size }).1

theorem firstPages_eq_take {n : Nat} (hn : n < UInt32.size) :
    m.firstPages q size n = (m.selected q).take (n * Query.pageLength size) := by
  rw [← flatMap_range_take_drop, firstPages]
  refine List.flatMap_congr ?_
  intro i hi
  have hnumber : (UInt32.ofNat (i + 1)).toNat = i + 1 :=
    UInt32.toNat_ofNat_of_lt' (lt_of_le_of_lt (List.mem_range.1 hi) hn)
  rw [findBlueprints_fst_page, hnumber, Nat.max_eq_left (Nat.le_add_left 1 i), Nat.add_sub_cancel]

/-- The pages that a listing fills are the whole of it. -/
theorem firstPages_ceilDiv
    (h : (m.selected q).length ⌈/⌉ Query.pageLength size < UInt32.size) :
    m.firstPages q size ((m.selected q).length ⌈/⌉ Query.pageLength size) = m.selected q := by
  rw [firstPages_eq_take m q size h, Nat.mul_comm]
  refine List.take_of_length_le ?_
  exact (ceilDiv_le_iff_le_mul (Query.pageLength_pos size)).1 le_rfl

/-- A page after those that a listing fills is empty. -/
theorem findBlueprints_fst_of_lt
    (h : (m.selected q).length ⌈/⌉ Query.pageLength size < p.toNat) :
    (m.findBlueprints { q with page := some p, pageSize := size }).1 = [] := by
  have hfilled : (m.selected q).length ≤ (max p.toNat 1 - 1) * Query.pageLength size := by
    rw [Nat.mul_comm]
    exact (ceilDiv_le_iff_le_mul (Query.pageLength_pos size)).1 (by omega)
  rw [findBlueprints_fst_page, List.drop_eq_nil_of_le hfilled, List.take_nil]

end Memory

/-! ## A store of two blueprints -/

namespace Sample

/-- A blueprint that is run by hand, created at the beginning of time. -/
def twin (id : Nat) : Blueprint :=
  ({ name := "twin", mode := .advanced } : Draft).toBlueprint (.ofNat id) (.midnight .epoch)

/-- Two blueprints of the same instant. -/
def twins : Memory where
  blueprints := .ofList [(.ofNat 2, twin 2), (.ofNat 1, twin 1)]

theorem twins_keyed : twins.Keyed := by
  intro id b h
  have hall : ∀ e ∈ twins.blueprints.toList, e.2.id = e.1 := by decide +kernel
  exact hall (id, b) (Table.find?_eq_some_iff.1 h)

theorem twins_selected : twins.selected {} = [twin 1, twin 2] :=
  List.mergeSort_of_pairwise (by decide +kernel : [twin 1, twin 2].Pairwise _)

end Sample

namespace Memory

/-- Let a store keep every blueprint under its own identifier. Then for every filter there is one
list that all queries with this filter show. It holds the blueprints that pass the filter, each once
and in order. A query without a page shows it as a whole, and every page comes with its length.
Whatever length is asked for, the pages from the first one on, put together, are its beginning. As
many pages as it fills are the whole of it, every page after them is empty, and page 0 is page 1.
The offset of a page does not exceed 64 bits. -/
theorem pages_partition {m : Memory} (hkeyed : m.Keyed) (q : Query) :
    ∃ bs, m.Lists q bs ∧
      (m.findBlueprints { q with page := none, pageSize := none }).1 = bs ∧
      (∀ page size, (m.findBlueprints { q with page, pageSize := size }).2 = .ofNat bs.length ∧
        (bs.length < 2 ^ 63 →
          (m.findBlueprints { q with page, pageSize := size }).2.toInt = bs.length)) ∧
      ∀ size,
        (∀ n < UInt32.size, m.firstPages q size n = bs.take (n * Query.pageLength size)) ∧
        (bs.length ⌈/⌉ Query.pageLength size < UInt32.size →
          m.firstPages q size (bs.length ⌈/⌉ Query.pageLength size) = bs) ∧
        (∀ p : UInt32, bs.length ⌈/⌉ Query.pageLength size < p.toNat →
          (m.findBlueprints { q with page := some p, pageSize := size }).1 = []) ∧
        (m.findBlueprints { q with page := some 0, pageSize := size }).1 =
          (m.findBlueprints { q with page := some 1, pageSize := size }).1 ∧
        ∀ p : UInt32, ((max p 1 - 1).toUInt64 * .ofNat (Query.pageLength size)).toNat =
          { q with page := some p, pageSize := size }.offset := by
  refine ⟨m.selected q, hkeyed.lists_selected q, rfl, fun page size => ⟨rfl, ?_⟩, fun size => ?_⟩
  · exact Int64.toInt_ofNat_of_lt
  refine ⟨fun n hn => m.firstPages_eq_take q size hn, m.firstPages_ceilDiv q size,
    fun p hp => m.findBlueprints_fst_of_lt q size p hp, ?_, fun p => q.toNat_offset_page size p⟩
  rw [findBlueprints_fst_page, findBlueprints_fst_page]
  rfl

theorem twins_partition : Sample.twins.Lists {} [Sample.twin 1, Sample.twin 2] ∧
    Sample.twins.firstPages {} (some 1) 1 = [Sample.twin 1] ∧
    Sample.twins.firstPages {} (some 1) 2 = [Sample.twin 1, Sample.twin 2] := by
  obtain ⟨bs, hlists, hwhole, -, hpages⟩ := pages_partition Sample.twins_keyed {}
  obtain rfl : bs = [Sample.twin 1, Sample.twin 2] := hwhole.symm.trans Sample.twins_selected
  exact ⟨hlists, (hpages (some 1)).1 1 (by decide), (hpages (some 1)).1 2 (by decide)⟩

end Memory

end Ingestion
