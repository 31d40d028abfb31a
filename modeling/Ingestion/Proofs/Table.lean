import Mathlib
import Ingestion.Table

/-!
# Laws of tables

What each operation does to the values that a table gives to its keys. `find?` is the view that
the laws are stated in; `find?_eq_some_iff` ties it to the list of entries.
-/

namespace Ingestion

variable {κ ν : Type} [LT κ] [KeyOrder κ]

/-- There is one way to list elements by ascending key. -/
theorem KeyOrder.eq_of_mem_iff {α : Type} {key : α → κ} {xs ys : List α}
    (hxs : xs.Pairwise fun a b => key a < key b) (hys : ys.Pairwise fun a b => key a < key b)
    (hmem : ∀ a, a ∈ xs ↔ a ∈ ys) : xs = ys := by
  have hnodup {zs : List α} (hzs : zs.Pairwise fun a b => key a < key b) : zs.Nodup := by
    refine hzs.imp fun {a b} hlt heq => ?_
    rw [heq] at hlt
    exact irrefl (key b) hlt
  have hperm : xs.Perm ys := (List.perm_ext_iff_of_nodup (hnodup hxs) (hnodup hys)).2 hmem
  refine hperm.eq_of_pairwise ?_ hxs hys
  intro a b _ _ hab hba
  exact absurd (trans hab hba) (irrefl (key a))

namespace Ascending

theorem lookup_cons (k : κ) (entry : κ × ν) (rest : List (κ × ν)) :
    (entry :: rest).lookup k = if k = entry.1 then some entry.2 else rest.lookup k := by
  obtain ⟨key, value⟩ := entry
  by_cases h : k = key
  · simp [List.lookup, h]
  · simp [List.lookup, h, beq_false_of_ne h]

theorem lookup_put (key k : κ) (value : ν) (entries : List (κ × ν)) :
    (put key value entries).lookup k = if k = key then some value else entries.lookup k := by
  induction entries with
  | nil => rw [put, lookup_cons]
  | cons entry rest ih =>
    rw [put]
    split
    · next heq =>
      subst heq
      by_cases h : k = entry.1 <;> simp [lookup_cons, h]
    · split
      · rw [lookup_cons]
      · next hne _ =>
        rw [lookup_cons, ih, lookup_cons]
        by_cases h : k = entry.1
        · subst h
          simp [Ne.symm hne]
        · simp [h]

theorem lookup_filter_ne (key k : κ) (entries : List (κ × ν)) :
    (entries.filter (·.1 ≠ key)).lookup k = if k = key then none else entries.lookup k := by
  induction entries with
  | nil => simp
  | cons entry rest ih =>
    by_cases hkey : entry.1 = key
    · rw [List.filter_cons_of_neg (by simp [hkey]), ih, lookup_cons]
      by_cases h : k = key <;> simp [h, hkey]
    · rw [List.filter_cons_of_pos (by simp [hkey]), lookup_cons, lookup_cons, ih]
      by_cases h : k = entry.1
      · simp [h, hkey]
      · simp [h]

theorem lookup_eq_some_iff {entries : List (κ × ν)} (h : Ascending entries) {k : κ} {v : ν} :
    entries.lookup k = some v ↔ (k, v) ∈ entries := by
  induction entries with
  | nil => simp
  | cons entry rest ih =>
    obtain ⟨hhead, hrest⟩ := List.pairwise_cons.1 h
    rw [lookup_cons]
    by_cases hk : k = entry.1
    · subst hk
      -- The keys of the rest are greater, so no second entry has the key.
      have hnot : (entry.1, v) ∉ rest := fun hm => KeyOrder.irrefl entry.1 (hhead (entry.1, v) hm)
      simp [hnot, Prod.ext_iff, eq_comm]
    · simp [hk, ih hrest, Prod.ext_iff]

/-- An entry whose key is greater than all others is put at the end. -/
theorem put_of_forall_lt {key : κ} {value : ν} {entries : List (κ × ν)}
    (h : ∀ e ∈ entries, e.1 < key) : put key value entries = entries ++ [(key, value)] := by
  induction entries with
  | nil => rfl
  | cons entry rest ih =>
    have hlt : entry.1 < key := h entry List.mem_cons_self
    have hne : key ≠ entry.1 := fun heq => KeyOrder.irrefl key (by rw [← heq] at hlt; exact hlt)
    have hnlt : ¬ key < entry.1 := fun hgt => KeyOrder.irrefl key (KeyOrder.trans hgt hlt)
    rw [put, if_neg hne, if_neg hnlt, ih fun e he => h e (List.mem_cons_of_mem _ he)]
    rfl

/-- An entry of a new key is put somewhere among the others. -/
theorem perm_put {key : κ} {value : ν} {entries : List (κ × ν)}
    (h : key ∉ entries.map Prod.fst) : (put key value entries).Perm ((key, value) :: entries) := by
  induction entries with
  | nil => exact .refl _
  | cons entry rest ih =>
    obtain ⟨hne, hrest⟩ := not_or.1 (mt List.mem_cons.2 h)
    rw [put, if_neg hne]
    split_ifs
    · exact .refl _
    · exact ((ih hrest).cons entry).trans (.swap _ _ _)

theorem eq_of_perm {entries entries' : List (κ × ν)} (hperm : entries.Perm entries')
    (h : Ascending entries) (h' : Ascending entries') : entries = entries' :=
  KeyOrder.eq_of_mem_iff h h' fun _ => hperm.mem_iff

end Ascending

namespace Table

@[simp] theorem find?_empty (k : κ) : (empty : Table κ ν).find? k = none := rfl

theorem find?_insert (t : Table κ ν) (key k : κ) (value : ν) :
    (t.insert key value).find? k = if k = key then some value else t.find? k :=
  Ascending.lookup_put key k value t.toList

@[simp] theorem find?_insert_self (t : Table κ ν) (key : κ) (value : ν) :
    (t.insert key value).find? key = some value := by
  rw [find?_insert, if_pos rfl]

theorem find?_erase (t : Table κ ν) (key k : κ) :
    (t.erase key).find? k = if k = key then none else t.find? k :=
  Ascending.lookup_filter_ne key k t.toList

@[simp] theorem find?_erase_self (t : Table κ ν) (key : κ) : (t.erase key).find? key = none := by
  rw [find?_erase, if_pos rfl]

theorem find?_eq_some_iff {t : Table κ ν} {k : κ} {v : ν} :
    t.find? k = some v ↔ (k, v) ∈ t.toList :=
  Ascending.lookup_eq_some_iff t.ascending

theorem erase_of_find?_eq_none {t : Table κ ν} {key : κ} (h : t.find? key = none) :
    t.erase key = t := by
  have hlist : t.toList.filter (·.1 ≠ key) = t.toList := by
    refine List.filter_eq_self.2 ?_
    rintro ⟨k, v⟩ hm
    refine decide_eq_true ?_
    rintro rfl
    rw [find?_eq_some_iff.2 hm] at h
    cases h
  cases t
  simp only [erase, hlist]

/-- The values of a table are those that it gives to keys. -/
theorem mem_values_iff {t : Table κ ν} {v : ν} : v ∈ t.values ↔ ∃ k, t.find? k = some v := by
  simp only [values, List.mem_map, find?_eq_some_iff]
  constructor
  · rintro ⟨⟨k, w⟩, hm, rfl⟩
    exact ⟨k, hm⟩
  · rintro ⟨k, hm⟩
    exact ⟨(k, v), hm, rfl⟩

/-- No key occurs twice. -/
theorem keys_nodup (t : Table κ ν) : t.keys.Nodup := by
  rw [keys, List.Nodup, List.pairwise_map]
  refine t.ascending.imp ?_
  intro a b hlt heq
  rw [heq] at hlt
  exact KeyOrder.irrefl b.1 hlt

theorem toList_insert_of_forall_lt {t : Table κ ν} {key : κ} (value : ν)
    (h : ∀ k ∈ t.keys, k < key) : (t.insert key value).toList = t.toList ++ [(key, value)] :=
  Ascending.put_of_forall_lt fun e he => h e.1 (List.mem_map_of_mem he)

/-- Two tables that give the same values to keys are equal. -/
theorem ext_find? {t u : Table κ ν} (h : ∀ k, t.find? k = u.find? k) : t = u := by
  have hmem : ∀ e, e ∈ t.toList ↔ e ∈ u.toList := by
    rintro ⟨k, v⟩
    rw [← find?_eq_some_iff, ← find?_eq_some_iff, h]
  exact ext_toList (KeyOrder.eq_of_mem_iff t.ascending u.ascending hmem)

/-- A table of entries gives them back if no key occurs twice. -/
theorem find?_ofList_eq_some_iff {entries : List (κ × ν)} (h : (entries.map Prod.fst).Nodup) {k : κ}
    {v : ν} : (ofList entries).find? k = some v ↔ (k, v) ∈ entries := by
  -- Whatever the table is that the entries are put into one after another.
  have hputs (t : Table κ ν) : (entries.foldl (fun t e => t.insert e.1 e.2) t).find? k = some v ↔
      (k, v) ∈ entries ∨ k ∉ entries.map Prod.fst ∧ t.find? k = some v := by
    induction entries generalizing t with
    | nil => simp
    | cons e rest ih =>
      obtain ⟨hnot, hrest⟩ := List.nodup_cons.1 h
      rw [List.foldl_cons, ih hrest, find?_insert, List.mem_cons, List.map_cons, List.mem_cons]
      by_cases hk : k = e.1
      · subst hk
        have hnotmem : (e.1, v) ∉ rest := fun hmem => hnot (List.mem_map.2 ⟨_, hmem, rfl⟩)
        simp [hnot, hnotmem, Prod.ext_iff, eq_comm]
      · simp [hk, Prod.ext_iff]
  rw [ofList, hputs]
  simp

/-- A table of entries lists them by ascending key. -/
theorem toList_ofList_of_perm {entries entries' : List (κ × ν)} (hperm : entries.Perm entries')
    (h : Ascending entries') : (ofList entries).toList = entries' := by
  let t : Table κ ν := ⟨entries', h⟩
  have hkeys : (entries.map Prod.fst).Nodup := (hperm.map Prod.fst).nodup_iff.2 t.keys_nodup
  have ht : ofList entries = t := by
    refine ext_find? fun k => Option.ext fun v => ?_
    rw [find?_ofList_eq_some_iff hkeys, find?_eq_some_iff, hperm.mem_iff]
  rw [ht]

theorem toList_ofList {entries : List (κ × ν)} (h : Ascending entries) :
    (ofList entries).toList = entries :=
  toList_ofList_of_perm (.refl _) h

end Table

end Ingestion
