import Mathlib
import Ingestion.Json.Document
import Ingestion.Proofs.Table

/-!
# Trees of the same data

An object may list its members in any order. Two trees are of the same data if they differ at most
in the order of the members of their objects, at any depth. A tree in the form in which data is
kept is the datum of the document of every tree of the same data
(`Document.toJson?_of_sameData`): its objects list their members by ascending name, and in that
order there is one way to list them.
-/

namespace Ingestion.Json

mutual

/-- Two trees differ at most in the order in which their objects list their members. -/
inductive SameData : Json → Json → Prop where
  | null : SameData .null .null
  | bool (b : Bool) : SameData (.bool b) (.bool b)
  | number (n : Number) : SameData (.number n) (.number n)
  | string (s : String) : SameData (.string s) (.string s)
  | array {items items' : List Json} (h : SameItems items items') :
    SameData (.array items) (.array items')
  | object {members ms members' : List (String × Json)} (h : SameMembers members ms)
    (hperm : ms.Perm members') : SameData (.object members) (.object members')

/-- The trees of two lists are of the same data, one by one. -/
inductive SameItems : List Json → List Json → Prop where
  | nil : SameItems [] []
  | cons {j j' : Json} {rest rest' : List Json} (h : SameData j j') (hrest : SameItems rest rest') :
    SameItems (j :: rest) (j' :: rest')

/-- Two lists of members have the same names, and values of the same data, one by one. -/
inductive SameMembers : List (String × Json) → List (String × Json) → Prop where
  | nil : SameMembers [] []
  | cons {name : String} {j j' : Json} {rest rest' : List (String × Json)} (h : SameData j j')
    (hrest : SameMembers rest rest') : SameMembers ((name, j) :: rest) ((name, j') :: rest')

end

mutual

theorem SameData.refl : ∀ j : Json, SameData j j
  | .null => .null
  | .bool b => .bool b
  | .number n => .number n
  | .string s => .string s
  | .array items => .array (SameItems.refl items)
  | .object members => .object (SameMembers.refl members) (.refl members)

theorem SameItems.refl : ∀ items : List Json, SameItems items items
  | [] => .nil
  | j :: rest => .cons (SameData.refl j) (SameItems.refl rest)

theorem SameMembers.refl : ∀ members : List (String × Json), SameMembers members members
  | [] => .nil
  | (_, j) :: rest => .cons (SameData.refl j) (SameMembers.refl rest)

end

theorem SameData.ne_null {j j' : Json} (h : SameData j j') (hne : j ≠ .null) : j' ≠ .null := by
  rintro rfl
  cases h
  exact hne rfl

/-! ## Members found by name -/

theorem SameMembers.names_eq {members ms : List (String × Json)} (h : SameMembers members ms) :
    members.map Prod.fst = ms.map Prod.fst := by
  induction members generalizing ms with
  | nil =>
    cases h
    rfl
  | cons m rest ih =>
    cases h with
    | cons h hrest => rw [List.map_cons, List.map_cons, ih hrest]

theorem SameMembers.lookup {members ms : List (String × Json)} (h : SameMembers members ms)
    (name : String) : Option.Rel SameData (members.lookup name) (ms.lookup name) := by
  induction members generalizing ms with
  | nil =>
    cases h
    exact .none
  | cons m rest ih =>
    cases h with
    | cons h hrest =>
      rw [Ascending.lookup_cons, Ascending.lookup_cons]
      split_ifs
      · exact .some h
      · exact ih hrest

theorem lookup_of_nodup {members : List (String × Json)} (h : (members.map Prod.fst).Nodup)
    {m : String × Json} (hm : m ∈ members) : members.lookup m.1 = some m.2 := by
  induction members with
  | nil => cases hm
  | cons m' rest ih =>
    obtain ⟨hnot, hrest⟩ := List.nodup_cons.1 h
    rw [Ascending.lookup_cons]
    rcases List.mem_cons.1 hm with rfl | hm
    · exact if_pos rfl
    · have hne : m.1 ≠ m'.1 := fun heq => hnot (List.mem_map.2 ⟨m, hm, heq⟩)
      rw [if_neg hne, ih hrest hm]

theorem lookup_eq_none_of_not_mem {members : List (String × Json)} {name : String}
    (h : name ∉ members.map Prod.fst) : members.lookup name = none := by
  rw [List.lookup_eq_none_iff]
  intro m hm
  have hne : name ≠ m.1 := fun heq => h (List.mem_map.2 ⟨m, hm, heq.symm⟩)
  simpa using hne

/-- Members of different names are found in any order of them. -/
theorem lookup_eq_of_perm {members members' : List (String × Json)} (hperm : members.Perm members')
    (h : (members.map Prod.fst).Nodup) (name : String) :
    members.lookup name = members'.lookup name := by
  have h' : (members'.map Prod.fst).Nodup := (hperm.map Prod.fst).nodup_iff.1 h
  by_cases hname : name ∈ members.map Prod.fst
  · obtain ⟨m, hm, rfl⟩ := List.mem_map.1 hname
    rw [lookup_of_nodup h hm, lookup_of_nodup h' (hperm.mem_iff.1 hm)]
  · have hname' : name ∉ members'.map Prod.fst := mt (hperm.map Prod.fst).mem_iff.2 hname
    rw [lookup_eq_none_of_not_mem hname, lookup_eq_none_of_not_mem hname']

/-! ## The datum of a document -/

namespace Document

/-- A member of a document stands for a member of a datum. -/
def StandsFor (m m' : String × Json) : Prop :=
  m.1 = m'.1 ∧ (ofJson m'.2).toJson? = some m.2

/-- The data of members, put in from the last one on. -/
theorem membersToJson?_of_standsFor {members members' : List (String × Json)}
    (h : List.Forall₂ StandsFor members members') :
    membersToJson? (ofMembers members') =
      some (members.foldr (fun m rest => putUnlessNamed m.1 m.2 rest) []) := by
  induction h with
  | nil => rw [ofMembers, membersToJson?, List.foldr_nil]
  | @cons m m' rest rest' h _ ih =>
    obtain ⟨name, j⟩ := m
    obtain ⟨name', j'⟩ := m'
    obtain ⟨rfl, hread⟩ := h
    rw [ofMembers, membersToJson?, hread, ih, List.foldr_cons]
    rfl

/-- Members of different names are all put in, and they end up by ascending name. -/
theorem foldr_putUnlessNamed {members : List (String × Json)}
    (h : (members.map Prod.fst).Nodup) :
    let put := members.foldr (fun m rest => putUnlessNamed m.1 m.2 rest) []
    put.Perm members ∧ Ascending put := by
  induction members with
  | nil => exact ⟨.refl _, List.Pairwise.nil⟩
  | cons m rest ih =>
    obtain ⟨hnot, hrest⟩ := List.nodup_cons.1 h
    obtain ⟨hperm, hascending⟩ := ih hrest
    have hnew : m.1 ∉ (rest.foldr (fun m rest => putUnlessNamed m.1 m.2 rest) []).map Prod.fst :=
      mt (hperm.map Prod.fst).mem_iff.1 hnot
    dsimp only
    rw [List.foldr_cons, putUnlessNamed, lookup_eq_none_of_not_mem hnew,
      if_neg (by exact Bool.false_ne_true)]
    exact ⟨(Ascending.perm_put hnew).trans (hperm.cons m),
      Ascending.ascending_put m.1 m.2 hascending⟩

mutual

/-- A tree in its one form is the datum of the document of any tree of the same data. -/
theorem toJson?_of_sameData : ∀ {j j' : Json}, SameData j j' → j.isCanonical = true →
    (ofJson j').toJson? = some j
  | _, _, .null, _ | _, _, .bool _, _ | _, _, .number _, _ | _, _, .string _, _ => by
    rw [ofJson, toJson?]
  | _, _, .array hitems, h => by
    rw [isCanonical] at h
    rw [ofJson, toJson?, itemsToJson?_of_sameItems hitems h]
    rfl
  | .object members, _, .object hmembers hperm, h => by
    rw [isCanonical, Bool.and_eq_true, namesAscend_iff] at h
    obtain ⟨hascending, hcanonical⟩ := h
    -- The members of the datum in the order in which the document lists them.
    obtain ⟨listed, hlisted, hstand⟩ :
        Relation.Comp List.Perm (List.Forall₂ StandsFor) members _ := by
      rw [← List.forall₂_comp_perm_eq_perm_comp_forall₂]
      exact ⟨_, standFor_of_sameMembers hmembers hcanonical, hperm⟩
    have hnodup : (listed.map Prod.fst).Nodup :=
      (hlisted.map Prod.fst).nodup_iff.1 (Table.keys_nodup ⟨members, hascending⟩)
    obtain ⟨hput, hsorted⟩ := foldr_putUnlessNamed hnodup
    rw [ofJson, toJson?, membersToJson?_of_standsFor hstand,
      Ascending.eq_of_perm (hput.trans hlisted.symm) hsorted hascending]
    rfl

theorem itemsToJson?_of_sameItems : ∀ {items items' : List Json}, SameItems items items' →
    areCanonical items = true → itemsToJson? (ofItems items') = some items
  | _, _, .nil, _ => by rw [ofItems, itemsToJson?]
  | _, _, .cons hj hrest, h => by
    rw [areCanonical, Bool.and_eq_true] at h
    rw [ofItems, itemsToJson?, toJson?_of_sameData hj h.1, itemsToJson?_of_sameItems hrest h.2]
    rfl

theorem standFor_of_sameMembers : ∀ {members ms : List (String × Json)}, SameMembers members ms →
    membersAreCanonical members = true → List.Forall₂ StandsFor members ms
  | _, _, .nil, _ => .nil
  | _, _, .cons hj hrest, h => by
    rw [membersAreCanonical, Bool.and_eq_true] at h
    exact .cons ⟨rfl, toJson?_of_sameData hj h.1⟩ (standFor_of_sameMembers hrest h.2)

end

/-- A value is the datum of the document of any tree of the same data. -/
theorem toValue?_of_sameData {v : Value} {j : Json} (h : SameData v.toJson j) :
    (ofJson j).toValue? = some v := by
  have hread : (ofJson j).toJson? = some v.toJson := toJson?_of_sameData h v.property
  unfold toValue?
  split
  · next j' hj' => exact congrArg some (Value.ext (Option.some.inj (hj'.symm.trans hread)))
  · next hnone => exact absurd (hread.symm.trans hnone) (Option.some_ne_none _)

theorem lookup_ofMembers (members : List (String × Json)) (name : String) :
    (ofMembers members).lookup (some name) = (members.lookup name).map ofJson := by
  induction members with
  | nil => rfl
  | cons m rest ih =>
    obtain ⟨key, j⟩ := m
    rw [ofMembers, List.lookup_cons, List.lookup_cons, Option.some_beq_some, ih]
    by_cases h : (name == key) = true
    · rw [h]
      rfl
    · rw [Bool.eq_false_of_not_eq_true h]

end Document

end Ingestion.Json
