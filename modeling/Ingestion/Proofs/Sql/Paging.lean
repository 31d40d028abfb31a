import Mathlib
import Ingestion.Proofs.Sql.Storage
import Ingestion.Proofs.Time.Instant

/-!
# Listing page by page

The statement that lists blueprints sends one key, the instant of creation. The server may list
those of one instant in any order, and in another order for the next page. If all blueprints that a
query selects have been created at different instants, the pages put together are the list that the
store in memory shows. Else they may be another one. While no two blueprints of one instant stand on
both sides of the end of a page, each page holds the blueprints that it should, in some order. As
soon as two do, one of them may be missed and another one be given twice
(`Sql.pages_kept_unless_torn`).

What a page holds of a list is told by its first blueprints up to the two ends of the page. These
are the same for all lists that are sorted by instants, as long as the end of the page separates two
instants (`NewestFirst.take_perm`).
-/

namespace Ingestion

/-! ## Lists by instants -/

/-- The blueprints are listed from the newest to the oldest, those of one instant in any order. -/
def NewestFirst (bs : List Blueprint) : Prop :=
  bs.Pairwise fun a b => b.createdAt ≤ a.createdAt

/-- A blueprint has been created after another one. -/
def Newer (a b : Blueprint) : Prop :=
  b.createdAt < a.createdAt

instance : DecidableRel Newer := fun a b =>
  inferInstanceAs (Decidable (b.createdAt < a.createdAt))

instance : Trans Newer Newer Newer :=
  ⟨fun hab hbc => Instant.lt_of_lt_of_le hbc (Instant.le_of_lt hab)⟩

/-- A blueprint has been created after all of a list. -/
def newerThan (bs : List Blueprint) (a : Blueprint) : Bool :=
  ∀ b ∈ bs, Newer a b

/-- Two blueprints of one instant stand on both sides of a place in a list. -/
def TornAt (bs : List Blueprint) (p : Nat) : Prop :=
  ∃ a ∈ bs.take p, ∃ b ∈ bs.drop p, a.createdAt = b.createdAt

theorem newestFirst_selected (m : Memory) (q : Query) : NewestFirst (m.selected q) := by
  refine (Memory.mergeSort_listedBefore_sorted _).imp ?_
  rintro a b (hnewer | ⟨hsame, -⟩)
  · exact Instant.le_of_lt hnewer
  · exact hsame ▸ Instant.le_refl b.createdAt

namespace NewestFirst

variable {bs bs' xs ys : List Blueprint} {a b : Blueprint} {p : Nat}

/-- Two neighbours of one instant can change their places. -/
theorem swap (h : NewestFirst (xs ++ a :: b :: ys)) (hsame : a.createdAt = b.createdAt) :
    NewestFirst (xs ++ b :: a :: ys) := by
  rw [NewestFirst, List.pairwise_append, List.pairwise_cons, List.pairwise_cons] at h
  obtain ⟨hxs, ⟨ha, hb, hys⟩, hcross⟩ := h
  rw [NewestFirst, List.pairwise_append, List.pairwise_cons, List.pairwise_cons]
  refine ⟨hxs, ⟨?_, fun y hy => ha y (List.mem_cons_of_mem _ hy), hys⟩, fun x hx y hy => ?_⟩
  · exact List.forall_mem_cons.2 ⟨le_of_eq (congrArg Instant.rank hsame), hb⟩
  · refine hcross x hx y ?_
    simp only [List.mem_cons] at hy ⊢
    tauto

/-- Where a list is torn, two neighbours are of one instant. -/
theorem neighbours (h : NewestFirst bs) (htorn : TornAt bs p) : ∃ xs a b ys,
    bs = xs ++ a :: b :: ys ∧ xs.length + 1 = p ∧ a.createdAt = b.createdAt := by
  obtain ⟨a, ha, b, hb, hsame⟩ := htorn
  have hsplit := List.take_append_drop p bs
  have hp : p ≤ bs.length := by
    by_contra hlt
    rw [List.drop_eq_nil_of_le (by omega)] at hb
    cases hb
  have hlength : (bs.take p).length = p := List.length_take_of_le hp
  obtain ⟨xs, a', hxs⟩ : ∃ xs a', bs.take p = xs ++ [a'] := by
    rcases List.eq_nil_or_concat (bs.take p) with hnil | ⟨xs, a', hxs⟩
    · rw [hnil] at ha
      cases ha
    · exact ⟨xs, a', hxs.trans List.concat_eq_append⟩
  obtain ⟨b', ys, hys⟩ := List.exists_cons_of_ne_nil (List.ne_nil_of_mem hb)
  rw [hxs, hys] at hsplit
  rw [hxs] at ha hlength
  rw [hys] at hb
  rw [NewestFirst, ← hsplit, List.pairwise_append, List.pairwise_append] at h
  obtain ⟨⟨-, -, hlast⟩, hback, hcross⟩ := h
  -- The two neighbours lie between the blueprints of one instant.
  have ha' : a'.createdAt ≤ a.createdAt := by
    rcases List.mem_append.1 ha with ha | ha
    · exact hlast a ha a' (List.mem_singleton_self a')
    · rw [List.mem_singleton.1 ha]
      exact Instant.le_refl a'.createdAt
  have hb' : b.createdAt ≤ b'.createdAt := by
    rcases List.mem_cons.1 hb with rfl | hb
    · exact Instant.le_refl b.createdAt
    · exact (List.pairwise_cons.1 hback).1 b hb
  have hle : b'.createdAt ≤ a'.createdAt :=
    hcross a' (List.mem_append_right xs (List.mem_singleton_self a')) b' List.mem_cons_self
  have hge : a'.createdAt ≤ b'.createdAt :=
    Instant.le_trans ha' (Instant.le_trans (le_of_eq (congrArg Instant.rank hsame)) hb')
  refine ⟨xs, a', b', ys, ?_, ?_, Instant.le_antisymm hge hle⟩
  · rw [← hsplit, List.append_assoc, List.singleton_append]
  · rw [← hlength, List.length_append, List.length_singleton]

/-- If the only list that has the same blueprints and is sorted by instants is the list itself, then
its blueprints are of different instants. -/
theorem ne_of_unique (h : NewestFirst bs) (hnodup : bs.Nodup)
    (hunique : ∀ bs', bs'.Perm bs → NewestFirst bs' → bs' = bs) :
    bs.Pairwise fun a b => a.createdAt ≠ b.createdAt := by
  have hchain : bs.IsChain Newer := by
    rw [List.isChain_iff_forall_rel_of_append_cons_cons]
    rintro a b xs ys rfl
    by_contra hnot
    have hle : b.createdAt ≤ a.createdAt := by
      rw [NewestFirst, List.pairwise_append, List.pairwise_cons] at h
      exact h.2.1.1 b List.mem_cons_self
    have hsame : a.createdAt = b.createdAt := Instant.le_antisymm (Instant.not_lt.1 hnot) hle
    have hperm : (xs ++ b :: a :: ys).Perm (xs ++ a :: b :: ys) :=
      (List.Perm.swap a b ys).append_left xs
    have heq := hunique _ hperm (h.swap hsame)
    have hab : b = a := (List.cons.inj (List.append_cancel_left heq)).1
    simp [hab, List.nodup_append] at hnodup
  refine (List.isChain_iff_pairwise.1 hchain).imp ?_
  intro a b hnewer heq
  rw [Newer, heq] at hnewer
  exact lt_irrefl b.createdAt.rank hnewer

/-- Where all blueprints are of different instants there is one list of them only. -/
theorem eq_of_perm (h : NewestFirst bs) (h' : NewestFirst bs') (hperm : bs'.Perm bs)
    (hne : bs.Pairwise fun a b => a.createdAt ≠ b.createdAt) : bs' = bs := by
  have hnodup : (bs.map (·.createdAt)).Nodup := List.pairwise_map.2 hne
  refine hperm.eq_of_pairwise (fun a b ha hb hab hba => ?_) h' h
  exact List.inj_on_of_nodup_map hnodup (hperm.mem_iff.1 ha) hb (Instant.le_antisymm hba hab)

/-- The blueprints that are newer than some others come before the rest. -/
theorem filter_append_filter (h : NewestFirst bs) (others : List Blueprint) :
    bs.filter (newerThan others) ++ bs.filter (fun b => !newerThan others b) = bs := by
  induction bs with
  | nil => rfl
  | cons b rest ih =>
    obtain ⟨hb, hrest⟩ := List.pairwise_cons.1 h
    by_cases hnewer : newerThan others b = true
    · rw [List.filter_cons_of_pos hnewer, List.filter_cons_of_neg (by simpa using hnewer),
        List.cons_append, ih hrest]
    · -- What is not newer than the first one is not newer than the others either.
      have hnone : rest.filter (newerThan others) = [] := by
        refine List.filter_eq_nil_iff.2 fun x hx hx' => hnewer (decide_eq_true fun y hy => ?_)
        exact Instant.lt_of_lt_of_le (of_decide_eq_true hx' y hy) (hb x hx)
      have hall := ih hrest
      rw [hnone, List.nil_append] at hall
      rw [List.filter_cons_of_neg hnewer, hnone, List.nil_append,
        List.filter_cons_of_pos (by simpa using hnewer), hall]

/-- Where a list is not torn, the blueprints before the place are those that are newer than all
after it. -/
theorem filter_newerThan_drop (h : NewestFirst bs) (hp : ¬ TornAt bs p) :
    bs.filter (newerThan (bs.drop p)) = bs.take p := by
  have hcross : ∀ x ∈ bs.take p, ∀ y ∈ bs.drop p, y.createdAt ≤ x.createdAt := by
    rw [NewestFirst, ← List.take_append_drop p bs, List.pairwise_append] at h
    exact h.2.2
  have hbefore : (bs.take p).filter (newerThan (bs.drop p)) = bs.take p := by
    refine List.filter_eq_self.2 fun x hx => decide_eq_true fun y hy => ?_
    by_contra hnot
    have hsame := Instant.le_antisymm (Instant.not_lt.1 hnot) (hcross x hx y hy)
    exact hp ⟨x, hx, y, hy, hsame⟩
  have hafter : (bs.drop p).filter (newerThan (bs.drop p)) = [] := by
    refine List.filter_eq_nil_iff.2 fun y hy hnewer => ?_
    exact lt_irrefl y.createdAt.rank (of_decide_eq_true hnewer y hy)
  calc bs.filter (newerThan (bs.drop p))
      = (bs.take p ++ bs.drop p).filter (newerThan (bs.drop p)) := by rw [List.take_append_drop]
    _ = bs.take p := by rw [List.filter_append, hbefore, hafter, List.append_nil]

/-- Up to a place where a list is not torn, all lists of its blueprints that are sorted by instants
hold the same. -/
theorem take_perm (h : NewestFirst bs) (h' : NewestFirst bs') (hperm : bs'.Perm bs)
    (hp : ¬ TornAt bs p) : (bs'.take p).Perm (bs.take p) := by
  rcases Nat.lt_or_ge bs.length p with hlt | hle
  · rwa [List.take_of_length_le hlt.le, List.take_of_length_le (hperm.length_eq.trans_le hlt.le)]
  · have hfilter : (bs'.filter (newerThan (bs.drop p))).Perm (bs.take p) := by
      rw [← h.filter_newerThan_drop hp]
      exact hperm.filter _
    have hlength : (bs'.filter (newerThan (bs.drop p))).length = p :=
      hfilter.length_eq.trans (List.length_take_of_le hle)
    rwa [← h'.filter_append_filter (bs.drop p), List.take_left' hlength]

/-- A piece of a list between two places where it is not torn. -/
theorem slice_perm {length : Nat} (h : NewestFirst bs) (h' : NewestFirst bs') (hperm : bs'.Perm bs)
    (hp : ¬ TornAt bs p) (hend : ¬ TornAt bs (p + length)) :
    ((bs'.drop p).take length).Perm ((bs.drop p).take length) := by
  -- The two beginnings are the same up to order, so what lies between them is.
  have hlonger := h.take_perm h' hperm hend
  rw [List.take_add, List.take_add] at hlonger
  have hcommon := ((h.take_perm h' hperm hp).symm.append_right _).trans hlonger
  exact (List.perm_append_left_iff _).1 hcommon

end NewestFirst

namespace Sql

/-! ## What the server may list -/

variable {m : Memory} {q : Query}

/-- The key of a listing puts a blueprint before another one just if it is newer, as far as the
database tells their instants apart. -/
theorem precedes_blueprintRow (q : Query) (a b : Blueprint) :
    Precedes (listBlueprints q).order (blueprintRow a) (blueprintRow b) ↔
      b.createdAt.kept < a.createdAt.kept := by
  have hcreated (b : Blueprint) :
      (blueprintRow b).lookup "created_at" = some (.timestamptz b.createdAt.kept) :=
    lookup_blueprintRow 16 rfl
  have hputs : SortKey.Puts { column := "created_at", descending := true } (blueprintRow a)
      (blueprintRow b) ↔ b.createdAt.kept < a.createdAt.kept := by
    simp only [SortKey.Puts, hcreated, Option.some_inj, if_true]
    constructor
    · rintro ⟨x, y, rfl, rfl, hlt⟩
      exact of_decide_eq_true hlt
    · exact fun hlt => ⟨_, _, rfl, rfl, decide_eq_true hlt⟩
  simp only [listBlueprints, Precedes, hputs, and_false, or_false]

/-- The rows that a query asks for are those of the blueprints that it selects. -/
theorem matching_blueprintRows {s : Select} (h : s.conditions = queryConditions q) :
    s.matching (blueprintRows m) = (m.blueprints.values.filter q.selects).map blueprintRow := by
  rw [Select.matching, blueprintRows, List.filter_map, h]
  exact congrArg (List.map _) (List.filter_congr fun b _ => queryConditions_hold q b)

/-- The server may list the rows of the selected blueprints in every order by their instants. -/
theorem arranges_iff (hwhole : ∀ b ∈ m.blueprints.values, b.IsWhole) {listing : List Row} :
    (listBlueprints q).Arranges (blueprintRows m) listing ↔
      ∃ bs, bs.Perm (m.selected q) ∧ NewestFirst bs ∧ listing = bs.map blueprintRow := by
  have hmatching : (listBlueprints q).matching (blueprintRows m) =
      (m.blueprints.values.filter q.selects).map blueprintRow := matching_blueprintRows rfl
  have hsorted {bs : List Blueprint} (hperm : bs.Perm (m.selected q)) :
      ((bs.map blueprintRow).Pairwise fun a b => ¬ Precedes (listBlueprints q).order b a) ↔
        NewestFirst bs := by
    have hkept : ∀ b ∈ bs, b.createdAt.kept = b.createdAt := by
      intro b hb
      have hstored := (m.selected_perm q).mem_iff.1 (hperm.mem_iff.1 hb)
      exact (hwhole b (List.mem_filter.1 hstored).1 b.createdAt List.mem_cons_self).kept_eq
    rw [List.pairwise_map, NewestFirst]
    refine List.Pairwise.iff_of_mem fun {a b} ha hb => ?_
    rw [precedes_blueprintRow, hkept a ha, hkept b hb, Instant.not_lt]
  constructor
  · rintro ⟨hperm, hpairwise⟩
    rw [hmatching, ← List.mem_permutations, ← List.map_permutations, List.mem_map] at hperm
    obtain ⟨bs, hbs, rfl⟩ := hperm
    have hselected := (List.mem_permutations.1 hbs).trans (m.selected_perm q).symm
    exact ⟨bs, hselected, (hsorted hselected).1 hpairwise, rfl⟩
  · rintro ⟨bs, hperm, hnewest, rfl⟩
    refine ⟨?_, (hsorted hperm).2 hnewest⟩
    rw [hmatching]
    exact (hperm.trans (m.selected_perm q)).map blueprintRow

/-- The page of a listing of rows is the one of the listing of blueprints. -/
theorem pageOf_map (q : Query) (bs : List Blueprint) :
    (listBlueprints q).pageOf (bs.map blueprintRow) = (Memory.page q bs).map blueprintRow := by
  rw [Select.pageOf, Memory.page, listBlueprints]
  cases hlimit : q.limit? with
  | none =>
    have hoffset : q.offset = 0 := by
      rw [Query.offset, hlimit]
    rw [hoffset]
    rfl
  | some limit =>
    show ((bs.map blueprintRow).drop (min q.offset Select.maxOffset)).take limit = _
    rw [Nat.min_eq_left (offset_le_maxOffset q), ← List.map_drop, ← List.map_take]

/-- Blueprints may be found to be these, with this number of all of them: the server counts the rows
and lists a page in an order that it may give. -/
def MayFind (table : List Row) (q : Query) (found : List Blueprint × Int64) : Prop :=
  ∃ rows, (listBlueprints q).MayGive table rows ∧ ∀ rest sent,
    (findBlueprints q { replies := .rows [(countBlueprints q).countRow table] :: .rows rows :: rest,
                        sent }).1 = .ok found

theorem findBlueprints_answered (q : Query) (table rows rest sent) :
    (findBlueprints q { replies := .rows [(countBlueprints q).countRow table] :: .rows rows :: rest,
                        sent }).1 =
      (·, .ofInt ((countBlueprints q).matching table).length) <$> blueprintsOf rows :=
  rfl

/-- What may be found are the pages of the lists of the selected blueprints in all orders by their
instants. -/
theorem mayFind_iff (hwhole : ∀ b ∈ m.blueprints.values, b.IsWhole) {found} :
    MayFind (blueprintRows m) q found ↔ ∃ bs, bs.Perm (m.selected q) ∧ NewestFirst bs ∧
      found = (Memory.page q bs, (m.findBlueprints q).2) := by
  have hcount : ((countBlueprints q).matching (blueprintRows m)).length =
      (m.selected q).length := by
    rw [matching_blueprintRows rfl, List.length_map, (m.selected_perm q).length_eq]
  have hread {bs : List Blueprint} (hperm : bs.Perm (m.selected q)) :
      blueprintsOf (((listBlueprints q).pageOf (bs.map blueprintRow)).map
        (Row.project (listBlueprints q).columns)) = .ok (Memory.page q bs) := by
    have hproject : Row.project (listBlueprints q).columns ∘ blueprintRow = blueprintRow :=
      funext fun b => Row.project_ofColumns (blueprintColumns_nodup b)
    have hkept : ∀ b ∈ Memory.page q bs, b.kept = b := by
      intro b hb
      have hbs : b ∈ bs := by
        rw [Memory.page] at hb
        split at hb
        · exact List.mem_of_mem_drop (List.mem_of_mem_take hb)
        · exact List.mem_of_mem_drop hb
      have hstored := (m.selected_perm q).mem_iff.1 (hperm.mem_iff.1 hbs)
      have hb' := hwhole b (List.mem_filter.1 hstored).1
      exact (b.kept_eq_iff fun t ht => (hb' t ht).hasMicros).2 hb'
    rw [pageOf_map, List.map_map, hproject, blueprintsOf_map, List.map_congr_left hkept,
      List.map_id']
  constructor
  · rintro ⟨rows, ⟨listing, harranges, rfl⟩, hfound⟩
    obtain ⟨bs, hperm, hnewest, rfl⟩ := (arranges_iff hwhole).1 harranges
    refine ⟨bs, hperm, hnewest, ?_⟩
    have h := hfound [] []
    rw [findBlueprints_answered, hread hperm, hcount] at h
    exact (Except.ok.inj h).symm
  · rintro ⟨bs, hperm, hnewest, rfl⟩
    refine ⟨_, ⟨_, (arranges_iff hwhole).2 ⟨bs, hperm, hnewest, rfl⟩, rfl⟩, fun rest sent => ?_⟩
    rw [findBlueprints_answered, hread hperm, hcount]
    rfl

/-! ## Pages -/

/-- The first pages of a query may be found to be this list, each of them asked for by a statement
of its own over the same table. -/
def MayShowPages (table : List Row) (q : Query) (size : Option UInt32) (n : Nat)
    (bs : List Blueprint) : Prop :=
  ∃ pages : Nat → List Blueprint,
    (∀ i < n, ∃ count,
      MayFind table { q with page := some (.ofNat (i + 1)), pageSize := size } (pages i, count)) ∧
    bs = (List.range n).flatMap pages

/-- The pages that may be found are cut from one list by the instants each. -/
theorem mayShowPages_iff (hwhole : ∀ b ∈ m.blueprints.values, b.IsWhole) {size : Option UInt32}
    {n : Nat} (hn : n < UInt32.size) {bs : List Blueprint} :
    MayShowPages (blueprintRows m) q size n bs ↔ ∃ lists : Nat → List Blueprint,
      (∀ i, (lists i).Perm (m.selected q) ∧ NewestFirst (lists i)) ∧
      bs = (List.range n).flatMap fun i =>
        ((lists i).drop (i * Query.pageLength size)).take (Query.pageLength size) := by
  have hpage {i : Nat} (hi : i < n) (bs : List Blueprint) :
      Memory.page { q with page := some (.ofNat (i + 1)), pageSize := size } bs =
        (bs.drop (i * Query.pageLength size)).take (Query.pageLength size) := by
    have hnumber : (UInt32.ofNat (i + 1)).toNat = i + 1 :=
      UInt32.toNat_ofNat_of_lt' (lt_of_le_of_lt hi hn)
    rw [Memory.page, Query.limit?_page]
    dsimp only
    rw [Query.offset_page, hnumber, Nat.max_eq_left (Nat.le_add_left 1 i), Nat.add_sub_cancel]
  constructor
  · rintro ⟨pages, hpages, rfl⟩
    have hlist : ∀ i, ∃ l : List Blueprint, l.Perm (m.selected q) ∧ NewestFirst l ∧
        (i < n → pages i = (l.drop (i * Query.pageLength size)).take (Query.pageLength size)) := by
      intro i
      by_cases hi : i < n
      · obtain ⟨count, hfound⟩ := hpages i hi
        obtain ⟨l, hperm, hnewest, heq⟩ := (mayFind_iff hwhole).1 hfound
        exact ⟨l, hperm, hnewest, fun _ => (congrArg Prod.fst heq).trans (hpage hi l)⟩
      · exact ⟨m.selected q, List.Perm.refl _, newestFirst_selected m q, fun h => absurd h hi⟩
    -- Each statement may have been answered from a list of its own.
    choose lists hperm hnewest hlists using hlist
    refine ⟨lists, fun i => ⟨hperm i, hnewest i⟩, List.flatMap_congr fun i hi => ?_⟩
    exact hlists i (List.mem_range.1 hi)
  · rintro ⟨lists, hlists, rfl⟩
    refine ⟨_, fun i hi => ⟨(m.findBlueprints q).2, (mayFind_iff hwhole).2 ⟨lists i, ?_⟩⟩, rfl⟩
    refine ⟨(hlists i).1, (hlists i).2, ?_⟩
    rw [hpage hi]
    rfl

/-- A list by the instants that is shown on all pages is shown as it is. -/
theorem mayShowPages_of_newestFirst (hwhole : ∀ b ∈ m.blueprints.values, b.IsWhole)
    {size : Option UInt32}
    (hn : (m.selected q).length ⌈/⌉ Query.pageLength size < UInt32.size) {bs : List Blueprint}
    (hperm : bs.Perm (m.selected q)) (hnewest : NewestFirst bs) :
    MayShowPages (blueprintRows m) q size ((m.selected q).length ⌈/⌉ Query.pageLength size) bs := by
  refine (mayShowPages_iff hwhole hn).2 ⟨fun _ => bs, fun _ => ⟨hperm, hnewest⟩, ?_⟩
  rw [flatMap_range_take_drop, List.take_of_length_le]
  rw [hperm.length_eq, Nat.mul_comm]
  exact (ceilDiv_le_iff_le_mul (Query.pageLength_pos size)).1 le_rfl

/-- Two neighbours change their places at the end of a page. If the pages up to this one are taken
after the change and those after it before the change, one of the two is on no page. -/
theorem not_mem_pages {xs ys : List Blueprint} {a b : Blueprint}
    (hnodup : (xs ++ a :: b :: ys).Nodup) {i length : Nat} (hlength : xs.length + 1 = i * length)
    (n : Nat) :
    a ∉ (List.range n).flatMap fun j =>
      ((if j < i then xs ++ b :: a :: ys else xs ++ a :: b :: ys).drop (j * length)).take
        length := by
  simp only [List.nodup_append, List.nodup_cons, List.mem_cons, not_or] at hnodup
  obtain ⟨-, ⟨⟨hab, hys⟩, -⟩, hcross⟩ := hnodup
  have hxs : a ∉ xs := fun hx => hcross a hx a (.inl rfl) rfl
  rw [List.mem_flatMap]
  rintro ⟨j, -, hj⟩
  split at hj
  · next hji =>
    have hend : j * length + length ≤ i * length := by
      rw [← Nat.succ_mul]
      exact Nat.mul_le_mul_right _ hji
    have hfront : (xs ++ b :: a :: ys).take (i * length) = xs ++ [b] := by
      rw [List.append_cons]
      exact List.take_left' (List.length_append.trans hlength)
    rw [List.take_drop] at hj
    have hmem := List.take_subset_take_left _ hend (List.mem_of_mem_drop hj)
    rw [hfront] at hmem
    simp [hxs, hab] at hmem
  · next hji =>
    have hstart : i * length ≤ j * length := Nat.mul_le_mul_right _ (Nat.not_lt.1 hji)
    have hback : (xs ++ a :: b :: ys).drop (i * length) = b :: ys := by
      rw [List.append_cons]
      exact List.drop_left' (List.length_append.trans hlength)
    have hmem := List.drop_subset_drop_left _ hstart (List.mem_of_mem_take hj)
    rw [hback] at hmem
    simp [hab, hys] at hmem

/-- If a list is torn at the end of a page, the pages up to this one may be taken from another list
by the instants than those after it. Then a blueprint is missed. -/
theorem mayShowPages_of_tornAt (hwhole : ∀ b ∈ m.blueprints.values, b.IsWhole)
    {size : Option UInt32} {n i : Nat} (hn : n < UInt32.size) (hnodup : (m.selected q).Nodup)
    (htorn : TornAt (m.selected q) (i * Query.pageLength size)) :
    ∃ bs, MayShowPages (blueprintRows m) q size n bs ∧ ∃ a ∈ m.selected q, a ∉ bs := by
  have hnewest := newestFirst_selected m q
  obtain ⟨xs, a, b, ys, hsplit, hlength, hsame⟩ := hnewest.neighbours htorn
  have hperm : (xs ++ b :: a :: ys).Perm (xs ++ a :: b :: ys) :=
    (List.Perm.swap a b ys).append_left xs
  rw [hsplit] at hnewest hnodup
  refine ⟨_, (mayShowPages_iff hwhole hn).2 ⟨fun j => if j < i then xs ++ b :: a :: ys
    else xs ++ a :: b :: ys, fun j => ?_, rfl⟩, a, by simp [hsplit], not_mem_pages hnodup hlength n⟩
  rw [hsplit]
  dsimp only
  split
  · exact ⟨hperm, hnewest.swap hsame⟩
  · exact ⟨List.Perm.refl _, hnewest⟩

namespace MayShowPages

variable {size : Option UInt32} {n : Nat} {bs : List Blueprint}

/-- If a list is torn at the end of no page, each page holds the blueprints that it should, in some
order. -/
theorem perm_firstPages (h : MayShowPages (blueprintRows m) q size n bs)
    (hwhole : ∀ b ∈ m.blueprints.values, b.IsWhole) (hn : n < UInt32.size)
    (hnot : ∀ i, ¬ TornAt (m.selected q) (i * Query.pageLength size)) :
    bs.Perm (m.firstPages q size n) := by
  obtain ⟨lists, hlists, rfl⟩ := (mayShowPages_iff hwhole hn).1 h
  rw [Memory.firstPages_eq_take m q size hn, ← flatMap_range_take_drop]
  refine List.Perm.flatMap_left _ fun i _ => ?_
  refine (newestFirst_selected m q).slice_perm (hlists i).2 (hlists i).1 (hnot i) ?_
  rw [← Nat.succ_mul]
  exact hnot (i + 1)

/-- If the blueprints are of different instants, the pages are those of the store in memory. -/
theorem eq_firstPages (h : MayShowPages (blueprintRows m) q size n bs)
    (hwhole : ∀ b ∈ m.blueprints.values, b.IsWhole) (hn : n < UInt32.size)
    (hne : (m.selected q).Pairwise fun a b => a.createdAt ≠ b.createdAt) :
    bs = m.firstPages q size n := by
  obtain ⟨lists, hlists, rfl⟩ := (mayShowPages_iff hwhole hn).1 h
  have heq : lists = fun _ => m.selected q := by
    funext i
    exact (newestFirst_selected m q).eq_of_perm (hlists i).2 (hlists i).1 hne
  rw [Memory.firstPages_eq_take m q size hn, ← flatMap_range_take_drop, heq]

end MayShowPages

/-- Let a table hold the rows of a store that keeps every blueprint under its own identifier, all
instants in whole microseconds as they are in a table, and let the pages that the store fills be
numbered in 32 bits. The one key that is sent tells blueprints apart by their instants of creation
only, so the server may list those of one instant in any order, in another one for each page. The
pages that the store in memory shows are among those that the server may show. They are all that it
may show just if no two selected blueprints are of one instant. If no two of one instant stand on
both sides of the end of a page, whatever is shown has the same blueprints, each of them once. But
if there are two that do, the server may show pages on which a selected blueprint is missing. -/
theorem pages_kept_unless_torn (hkeyed : m.Keyed)
    (hwhole : ∀ b ∈ m.blueprints.values, b.IsWhole) (q : Query) (size : Option UInt32)
    (hn : (m.selected q).length ⌈/⌉ Query.pageLength size < UInt32.size) :
    let n := (m.selected q).length ⌈/⌉ Query.pageLength size
    let shown := m.firstPages q size n
    m.Lists q shown ∧
    (∀ a b, Precedes (listBlueprints q).order (blueprintRow a) (blueprintRow b) ↔
      b.createdAt.kept < a.createdAt.kept) ∧
    MayShowPages (blueprintRows m) q size n shown ∧
    ((∀ bs, MayShowPages (blueprintRows m) q size n bs → bs = shown) ↔
      shown.Pairwise fun a b => a.createdAt ≠ b.createdAt) ∧
    ((∀ i, ¬ TornAt shown (i * Query.pageLength size)) →
      ∀ bs, MayShowPages (blueprintRows m) q size n bs → bs.Perm shown) ∧
    ∀ i, TornAt shown (i * Query.pageLength size) →
      ∃ bs, MayShowPages (blueprintRows m) q size n bs ∧ ∃ b ∈ shown, b ∉ bs := by
  intro n shown
  have hshown : shown = m.selected q := m.firstPages_ceilDiv q size hn
  have hnewest := newestFirst_selected m q
  have hlists := hkeyed.lists_selected q
  have hnodup : (m.selected q).Nodup := hlists.nodup.of_map _
  have hself : MayShowPages (blueprintRows m) q size n (m.selected q) :=
    mayShowPages_of_newestFirst hwhole hn (List.Perm.refl _) hnewest
  rw [hshown]
  refine ⟨hlists, precedes_blueprintRow q, hself, ⟨fun hunique => ?_, fun hne bs hbs => ?_⟩,
    fun hnot bs hbs => ?_, fun i => mayShowPages_of_tornAt hwhole hn hnodup⟩
  · refine hnewest.ne_of_unique hnodup fun bs hperm hbs => ?_
    exact hunique bs (mayShowPages_of_newestFirst hwhole hn hperm hbs)
  · exact (hbs.eq_firstPages hwhole hn hne).trans hshown
  · exact (hbs.perm_firstPages hwhole hn hnot).trans (List.Perm.of_eq hshown)

/-- Of two blueprints of one instant, one to a page, one may be missed. -/
theorem twins_missed : ∃ bs, MayShowPages (blueprintRows Sample.twins) {} (some 1) 2 bs ∧
    ∃ b ∈ [Sample.twin 1, Sample.twin 2], b ∉ bs := by
  have hwhole : ∀ b ∈ Sample.twins.blueprints.values, b.IsWhole := by decide +kernel
  have hn : (Sample.twins.selected {}).length ⌈/⌉ Query.pageLength (some 1) = 2 := by
    rw [Sample.twins_selected]
    decide
  have hlt : (Sample.twins.selected {}).length ⌈/⌉ Query.pageLength (some 1) < UInt32.size := by
    rw [hn]
    decide
  have h := pages_kept_unless_torn Sample.twins_keyed hwhole {} (some 1) hlt
  have hshown := Sample.twins.firstPages_ceilDiv {} (some 1) hlt
  rw [hn, Sample.twins_selected] at hshown
  simp only [hn, hshown] at h
  exact h.2.2.2.2.2 1 ⟨Sample.twin 1, List.mem_cons_self, Sample.twin 2, List.mem_cons_self, rfl⟩

end Sql

end Ingestion
