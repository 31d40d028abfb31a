import Mathlib
import Ingestion.Proofs.Request.Command
import Ingestion.Proofs.Sql.Storage

/-!
# Storing over a blueprint

The statement that stores a blueprint sets all columns of a row with its identifier but three: the
identifier, the mode and the instant of creation. These are the fields that neither a patch nor the
validation changes. So when a patch is stored, the row of the blueprint that was read becomes the
row of the patched one in all its columns (`Service.patch_stores_over`), and the table becomes the
one of the store in memory after the same change.
-/

namespace Ingestion

namespace Sql

/-- The columns of a row that is already there that an insertion sets. -/
def Upsert.setColumns (u : Upsert) : List String :=
  (u.assignments.getD []).map (·.1)

/-- The statement that stores the second blueprint does so over the first one. -/
structure StoresOver (u : Upsert) (b b' : Blueprint) : Prop where
  /-- The statement is read as this insertion. -/
  read : readUpsert (storeBlueprint b').toStatement = some u
  /-- It comes across the row of the first blueprint. -/
  meets : u.meets (blueprintRow b) = true
  /-- This row becomes the row of the second blueprint. -/
  row : u.overwritten blueprintTable.columnNames (blueprintRow b) = blueprintRow b'
  /-- Just these columns are not set. -/
  unset : blueprintTable.columnNames.filter (· ∉ u.setColumns) = ["id", "mode", "created_at"]
  /-- The two blueprints are alike in the fields of these columns. -/
  alike : b'.id = b.id ∧ b'.mode = b.mode ∧ b'.createdAt = b.createdAt
  /-- What the store in memory does to its blueprints the statement does to their rows. -/
  rows : ∀ m m' : Memory, m.Keyed → m.findBlueprint b.id = some b → m.saveBlueprint b' = .ok m' →
    u.store blueprintTable.columnNames (blueprintRows m) = blueprintRows m'

theorem hasId_blueprintRow {b : Blueprint} {id : Uuid} :
    (blueprintRow b).hasId (.uuid id) = true ↔ b.id = id := by
  have hid : (blueprintRow b).lookup "id" = some (.uuid b.id) := lookup_blueprintRow 0 rfl
  rw [hasId_iff, hid, Option.some_inj, Datum.uuid.injEq]

theorem meets_storing {b b' : Blueprint} :
    (storing b').meets (blueprintRow b) = true ↔ b.id = b'.id := by
  have hid : (storing b').newRow.lookup "id" = some (.uuid b'.id) := lookup_blueprintRow 0 rfl
  rw [Upsert.meets, hid, Option.any_some, hasId_blueprintRow]

variable {b b' : Blueprint}

theorem overwritten_blueprintRow (hid : b'.id = b.id) (hmode : b'.mode = b.mode)
    (hcreated : b'.createdAt = b.createdAt) :
    (storing b').overwritten blueprintTable.columnNames (blueprintRow b) = blueprintRow b' := by
  refine overwritten_storing ?_ ?_ ?_
  · rw [hid]
    exact lookup_blueprintRow 0 rfl
  · rw [hmode]
    exact lookup_blueprintRow 2 rfl
  · rw [hcreated]
    exact lookup_blueprintRow 16 rfl

/-- In a list of entries with ascending identifiers, each of them that of its blueprint, a blueprint
takes the place of the one with its identifier as its row does among the rows. -/
theorem store_entries {entries : List (Uuid × Blueprint)} (hascending : Ascending entries)
    (hkeyed : ∀ e ∈ entries, e.2.id = e.1) (hmem : (b'.id, b) ∈ entries)
    (hrow : (storing b').overwritten blueprintTable.columnNames (blueprintRow b) =
      blueprintRow b') :
    (storing b').store blueprintTable.columnNames (entries.map fun e => blueprintRow e.2) =
      (Ascending.put b'.id b' entries).map fun e => blueprintRow e.2 := by
  induction entries with
  | nil => cases hmem
  | cons e rest ih =>
    obtain ⟨hhead, hrest⟩ := List.pairwise_cons.1 hascending
    obtain ⟨he, hkeyed⟩ := List.forall_mem_cons.1 hkeyed
    rw [List.map_cons, Upsert.store, Ascending.put]
    by_cases hsame : b'.id = e.1
    · have hmeets : (storing b').meets (blueprintRow e.2) = true :=
        meets_storing.2 (he.trans hsame.symm)
      -- No other entry has the identifier, so this is the entry of the blueprint.
      have heq : (b'.id, b) = e := by
        rcases List.mem_cons.1 hmem with heq | hmem
        · exact heq
        · have hlt : e.1 < b'.id := hhead _ hmem
          rw [hsame] at hlt
          exact absurd hlt (KeyOrder.irrefl e.1)
      rw [if_pos hmeets, if_pos hsame, ← heq, hrow]
      rfl
    · have hmeets : ¬ (storing b').meets (blueprintRow e.2) = true := by
        intro h
        exact hsame ((meets_storing.1 h).symm.trans he)
      have hmem : (b'.id, b) ∈ rest := by
        rcases List.mem_cons.1 hmem with heq | hmem
        · exact absurd (congrArg Prod.fst heq) hsame
        · exact hmem
      have hnlt : ¬ b'.id < e.1 := fun hlt =>
        KeyOrder.irrefl e.1 (KeyOrder.trans (hhead _ hmem) hlt)
      rw [if_neg hmeets, if_neg hsame, if_neg hnlt, ih hrest hkeyed hmem]
      rfl

/-- The rows of the store in memory after a blueprint has been stored over one that is alike in the
columns that are not set. -/
theorem store_blueprintRows (hid : b'.id = b.id) (hmode : b'.mode = b.mode)
    (hcreated : b'.createdAt = b.createdAt) {m m' : Memory} (hkeyed : m.Keyed)
    (hfound : m.findBlueprint b.id = some b) (hsave : m.saveBlueprint b' = .ok m') :
    (storing b').store blueprintTable.columnNames (blueprintRows m) = blueprintRows m' := by
  have hm' : m' = { m with blueprints := m.blueprints.insert b'.id b' } := by
    rw [Memory.saveBlueprint] at hsave
    split at hsave
    · cases hsave
    · exact (Except.ok.inj hsave).symm
  have hmem : (b'.id, b) ∈ m.blueprints.toList := by
    rw [hid]
    exact Table.find?_eq_some_iff.1 hfound
  have hentries : ∀ e ∈ m.blueprints.toList, e.2.id = e.1 := fun e he =>
    hkeyed e.1 e.2 (Table.find?_eq_some_iff.2 he)
  have hrow := overwritten_blueprintRow hid hmode hcreated
  rw [hm', blueprintRows, blueprintRows, Table.values, Table.values, List.map_map, List.map_map]
  exact store_entries m.blueprints.ascending hentries hmem hrow

/-- A blueprint that is alike another one in the columns that are not set is stored over it. -/
theorem storesOver_storing (hid : b'.id = b.id) (hmode : b'.mode = b.mode)
    (hcreated : b'.createdAt = b.createdAt) : StoresOver (storing b') b b' where
  read := readUpsert_storeBlueprint b'
  meets := meets_storing.2 hid.symm
  row := overwritten_blueprintRow hid hmode hcreated
  unset := by
    show blueprintTable.columnNames.filter
      (· ∉ (overwrittenColumns.map fun c => (c, c)).map (·.1)) = _
    decide
  alike := ⟨hid, hmode, hcreated⟩
  rows _ _ := store_blueprintRows hid hmode hcreated

/-- What validation completes of a patched blueprint is stored over the blueprint that was
patched. -/
theorem storesOver_of_completes {replies : (c : Call) → c.Reply → Prop} {p : Patch} {t : Instant}
    (h : (p.apply b t).Completes replies b') : StoresOver (storing b') b b' := by
  have hid : b'.id = b.id := by
    rw [h.fields]
    rfl
  have hmode : b'.mode = b.mode := by
    rw [h.fields]
    rfl
  have hcreated : b'.createdAt = b.createdAt := by
    rw [h.fields]
    rfl
  exact storesOver_storing hid hmode hcreated

end Sql

/-! ## Patches -/

/-- The calls of a patch: a blueprint is stored only after one has been read by the identifier, and
then over this one. -/
inductive Overwriting (id : Uuid) :
    Option Blueprint → (c : Call) → c.Reply → Option Blueprint → Prop
  | read {b : Blueprint} : Overwriting id none (.findBlueprint id) (.ok (some b)) (some b)
  | save {b b' : Blueprint} {reply : (Call.saveBlueprint b').Reply} (u : Sql.Upsert)
      (h : Sql.StoresOver u b b') : Overwriting id (some b) (.saveBlueprint b') reply (some b)
  | other {s : Option Blueprint} {c : Call} {reply : c.Reply} (h : c.isWrite = false) :
      Overwriting id s c reply s

/-- The protocol of a patch, whatever the replies are. -/
def overwriting (id : Uuid) : Protocol (Option Blueprint) where
  Replies _ _ := True
  Next := Overwriting id

theorem overwriting_ignores (id : Uuid) (s : Option Blueprint) {calls : Call → Bool}
    (h : ∀ c, calls c = true → c.isWrite = false) : (overwriting id).Ignores s calls :=
  fun c hc _ => .other (h c hc)

namespace Service

open Program (Obeys)

theorem patch_obeys_overwriting (id : Uuid) (p : Patch) :
    (patch id p).run.Obeys (overwriting id) none fun s r =>
      ∀ b', r = .ok b' → ∃ b u, s = some b ∧ Sql.StoresOver u b b' := by
  have hlookups (s : Option Blueprint) : (overwriting id).Ignores s Call.isLookup :=
    overwriting_ignores id s Call.isWrite_of_isLookup
  have hupkeep (s : Option Blueprint) : (overwriting id).Ignores s Call.isUpkeep :=
    overwriting_ignores id s Call.isWrite_of_isUpkeep
  unfold patch
  refine Obeys.andThen (Q := fun s r => ∀ b, r = .ok b → s = some b)
    (get_obeys (fun b _ => ?_) fun reply => ?_) ?_ (by rintro _ e - b' ⟨⟩)
  · exact ⟨some b, .read, fun _ hb => congrArg some (Except.ok.inj hb)⟩
  · exact ⟨none, .other rfl, by rintro e - b ⟨⟩⟩
  -- From here on, the blueprint that has been read is the stage.
  rintro s b hs
  obtain rfl := hs b rfl
  split
  · exact Obeys.throw (by rintro b' ⟨⟩)
  refine Obeys.andThen (Q := fun s _ => s = some b)
    (Obeys.always (Obeys.ask fun t _ => ⟨some b, .other rfl, rfl⟩)) ?_ (by rintro _ e - b' ⟨⟩)
  rintro _ t rfl
  have hover {b' : Blueprint} (hb' : (p.apply b t).Passes (overwriting id).Replies b') :
      Sql.StoresOver (Sql.storing b') b b' := Sql.storesOver_of_completes hb'.toCompletes
  refine change_obeys (hlookups _) (fun b' hb' => ?_) (fun b' e hb' => ?_) (by rintro e b' ⟨⟩)
  · refine ⟨some b, .save _ (hover hb'), hupkeep _, ?_, by rintro e b' ⟨⟩⟩
    rintro _ ⟨⟩
    exact ⟨b, _, rfl, hover hb'⟩
  · exact ⟨some b, .save _ (hover hb'), hlookups _, by rintro e b' ⟨⟩⟩

/-- Whatever a patch is answered with, it stores no blueprint before it has read one, and those that
it stores it stores over the one it has read: the row of the blueprint that was read becomes the row
of the one that is stored. The columns that the statement does not set are those of the identifier,
the mode and the instant of creation, in which the two are alike. A patch that succeeds gives what
it has stored so. -/
theorem patch_stores_over (id : Uuid) (p : Patch) :
    ((patch id p).run.Obeys (overwriting id) none fun s r =>
      ∀ b', r = .ok b' → ∃ b u, s = some b ∧ Sql.StoresOver u b b') ∧
    (patch id p).run.Obeys saving none fun s r => ∀ b', r = .ok b' → s = some b' :=
  ⟨patch_obeys_overwriting id p, patch_saved id p⟩

end Service

end Ingestion
