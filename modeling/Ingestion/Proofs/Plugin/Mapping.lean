import Mathlib
import Ingestion.Proofs.Plugin.Collecting
import Ingestion.Proofs.Text.Digits

/-!
# The rows that a project is mapped to

A generated plan maps its project to rows, and every row is one of a scope that a connection lists.
The identifier of a row joins the name of the plugin, the number of the connection and the
identifier of the scope by colons. The last of the three is free text. But no plugin of the catalog
has a colon in its name and no number has one, so that the first two colons tell the parts apart
(`ListedScope.rowId_inj`).

So no row stands for two scopes. If no scope is listed twice, no row is mapped twice, and the rows
are just those of the tables that the scopes feed (`Catalog.mapped_rows`).
-/

namespace Ingestion

/-! ## Listed scopes -/

/-- The scopes that the connections of a request list, in order. -/
def PlanRequest.listedScopes (req : PlanRequest) : List ListedScope :=
  req.connections.flatMap Connection.listedScopes

namespace ListedScope

/-- What tells a scope from others: its plugin, its connection and its identifier. -/
def key (x : ListedScope) : String × UInt64 × String :=
  (x.pluginName, x.connectionId, x.scope.scopeId)

/-- A scope feeds a table: its plugin declares the table for a type of data that the scope asks
for. -/
def Feeds (x : ListedScope) (table : String) : Prop :=
  ∃ p ∈ Catalog.collectors, p.name = x.pluginName ∧
    ∃ domain, (domain, table) ∈ p.tables ∧ x.AsksFor domain

/-- A row is one of a scope: it stands in a table that the scope feeds, under the identifier of the
scope. -/
structure Writes (x : ListedScope) (row : DomainScope) : Prop where
  table : x.Feeds row.table
  rowId : row.rowId = x.rowId

variable {x y : ListedScope}

theorem colon_not_mem_name {name : String} (h : Catalog.IsSource name) : ':' ∉ name.toList := by
  have hall : ∀ p ∈ Catalog.collectors, ':' ∉ p.name.toList := by decide
  obtain ⟨p, hp, rfl⟩ := h
  exact hall p hp

theorem colon_not_mem_toDigits (n : Nat) : ':' ∉ Nat.toDigits 10 n := by
  intro h
  have hdigit : ':'.isDigit = true := Nat.isDigit_of_mem_toDigits (by decide) (by decide) h
  exact absurd hdigit (by decide)

/-- Rows of scopes that plugins of the catalog serve have the same identifier only if the scopes
have the same plugin, connection and identifier, whatever the identifier is. -/
theorem rowId_inj (hx : Catalog.IsSource x.pluginName) (hy : Catalog.IsSource y.pluginName)
    (h : x.rowId = y.rowId) : x.key = y.key := by
  have htext := congrArg String.toList h
  simp only [rowId, String.toList_append, Text.toList_toString, List.append_assoc] at htext
  obtain ⟨hname, hrest⟩ :=
    Text.append_cons_inj (colon_not_mem_name hx) (colon_not_mem_name hy) htext
  obtain ⟨hnumber, hscope⟩ :=
    Text.append_cons_inj (colon_not_mem_toDigits _) (colon_not_mem_toDigits _) hrest
  have hconnection : x.connectionId = y.connectionId :=
    UInt64.toNat_inj.1 (Text.toDigits_inj hnumber)
  rw [key, key, String.toList_inj.1 hname, hconnection, String.toList_inj.1 hscope]

end ListedScope

/-! ## The rows of a request -/

namespace ListedScope

variable {x : ListedScope} {p : Collector} {row : DomainScope}

theorem mem_rows : row ∈ x.rows p ↔
    (∃ domain, (domain, row.table) ∈ p.tables ∧ x.AsksFor domain) ∧ row.rowId = x.rowId := by
  simp only [rows, List.mem_map, List.mem_filter, decide_eq_true_iff]
  constructor
  · rintro ⟨⟨domain, table⟩, ⟨htable, hasks⟩, rfl⟩
    exact ⟨⟨domain, htable, hasks⟩, rfl⟩
  · rintro ⟨⟨domain, htable, hasks⟩, hrow⟩
    refine ⟨(domain, row.table), ⟨htable, hasks⟩, ?_⟩
    cases row
    cases hrow
    rfl

/-- No plugin of the catalog has the same table for two types of data. -/
theorem rows_nodup (hp : p ∈ Catalog.collectors) : (x.rows p).Nodup := by
  have hall : ∀ p ∈ Catalog.collectors, (p.tables.map (·.2)).Nodup := by decide
  have htables : ((x.rows p).map (·.table)).Nodup := by
    rw [rows, List.map_map]
    exact (hall p hp).sublist (List.filter_sublist.map _)
  exact htables.of_map _

end ListedScope

theorem DomainScope.entry_injective : Function.Injective entry := by
  rintro ⟨table, rowId⟩ ⟨table', rowId'⟩ h
  cases h
  rfl

/-- In a list that repeats nothing each of its elements has exactly one place. -/
theorem existsUnique_place {α : Type} {xs : List α} {x : α} (h : xs.Nodup) (hx : x ∈ xs) :
    ∃! place : Nat, xs[place]? = some x := by
  obtain ⟨place, hplace⟩ := List.getElem?_of_mem hx
  refine ⟨place, hplace, fun place' hplace' => ?_⟩
  have hlt : place' < xs.length := (List.getElem?_eq_some_iff.1 hplace').1
  exact (List.getElem?_inj hlt h).1 (hplace'.trans hplace.symm)

/-- The scopes that connections list, with the plugins that serve them. -/
def servedScopes (cs : List Connection) (ps : List Collector) : List (ListedScope × Collector) :=
  (cs.zip ps).flatMap fun (c, p) => c.listedScopes.map fun x => (x, p)

/-- The rows of the scopes that connections list, with the scopes. -/
def writtenRows (cs : List Connection) (ps : List Collector) : List (ListedScope × DomainScope) :=
  (servedScopes cs ps).flatMap fun (x, p) => (x.rows p).map fun row => (x, row)

section ServedScopes

variable {cs : List Connection} {ps : List Collector}

theorem servedScopes_fst {req : PlanRequest} (h : req.connections.length ≤ ps.length) :
    (servedScopes req.connections ps).map (·.1) = req.listedScopes := by
  have hzip := congrArg (List.flatMap Connection.listedScopes) (List.map_fst_zip h)
  rw [List.flatMap_map] at hzip
  rw [PlanRequest.listedScopes, ← hzip, servedScopes, List.map_flatMap]
  simp only [List.map_map, Function.comp_def, List.map_id']

theorem mem_servedScopes (h : List.Forall₂ Connection.ServedBy cs ps) {x : ListedScope}
    {p : Collector} (hx : (x, p) ∈ servedScopes cs ps) :
    p ∈ Catalog.collectors ∧ p.name = x.pluginName := by
  obtain ⟨⟨c, p⟩, hcp, hlisted⟩ := List.mem_flatMap.1 hx
  obtain ⟨x, hx, heq⟩ := List.mem_map.1 hlisted
  obtain ⟨scope, -, rfl⟩ := List.mem_map.1 hx
  cases heq
  have hserved := List.forall₂_zip h hcp
  exact ⟨hserved.mem, hserved.name⟩

/-- The rows of a served scope are those that it writes. -/
theorem mem_rows_iff_writes (h : List.Forall₂ Connection.ServedBy cs ps) {x : ListedScope}
    {p : Collector} (hx : (x, p) ∈ servedScopes cs ps) {row : DomainScope} :
    row ∈ x.rows p ↔ x.Writes row := by
  obtain ⟨hmem, hname⟩ := mem_servedScopes h hx
  rw [ListedScope.mem_rows]
  constructor
  · rintro ⟨hdomain, hrow⟩
    exact ⟨⟨p, hmem, hname, hdomain⟩, hrow⟩
  · rintro ⟨⟨p', hmem', hname', hdomain⟩, hrow⟩
    obtain rfl := Catalog.eq_of_name_eq hmem' hmem (hname'.trans hname.symm)
    exact ⟨hdomain, hrow⟩

theorem mem_writtenRows_iff (h : List.Forall₂ Connection.ServedBy cs ps) {x : ListedScope}
    {row : DomainScope} :
    (x, row) ∈ writtenRows cs ps ↔ x ∈ (servedScopes cs ps).map (·.1) ∧ x.Writes row := by
  simp only [writtenRows, List.mem_flatMap, List.mem_map, Prod.mk.injEq, Prod.exists]
  constructor
  · rintro ⟨x, p, hx, row, hrow, rfl, rfl⟩
    exact ⟨⟨x, p, hx, rfl⟩, (mem_rows_iff_writes h hx).1 hrow⟩
  · rintro ⟨⟨x, p, hx, rfl⟩, hrow⟩
    exact ⟨x, p, hx, row, (mem_rows_iff_writes h hx).2 hrow, rfl, rfl⟩

/-- These are the rows that a project is mapped to. -/
theorem writtenRows_snd : (writtenRows cs ps).map (·.2) = mappedRows cs ps := by
  simp only [writtenRows, servedScopes, mappedRows, List.flatMap_assoc, List.flatMap_map,
    List.map_flatMap, List.map_map, Function.comp_def, List.map_id']

theorem isSource_of_mem (h : List.Forall₂ Connection.ServedBy cs ps) {x : ListedScope}
    (hx : x ∈ (servedScopes cs ps).map (·.1)) : Catalog.IsSource x.pluginName := by
  obtain ⟨⟨x, p⟩, hxp, rfl⟩ := List.mem_map.1 hx
  obtain ⟨hp, hname⟩ := mem_servedScopes h hxp
  exact ⟨p, hp, hname⟩

/-- Rows of the same identifier are written by scopes of the same plugin, connection and
identifier. -/
theorem key_eq_of_rowId_eq (h : List.Forall₂ Connection.ServedBy cs ps)
    {w w' : ListedScope × DomainScope} (hw : w ∈ writtenRows cs ps) (hw' : w' ∈ writtenRows cs ps)
    (hrow : w.2.rowId = w'.2.rowId) : w.1.key = w'.1.key := by
  obtain ⟨hlisted, hwrites⟩ := (mem_writtenRows_iff h).1 hw
  obtain ⟨hlisted', hwrites'⟩ := (mem_writtenRows_iff h).1 hw'
  rw [hwrites.rowId, hwrites'.rowId] at hrow
  exact ListedScope.rowId_inj (isSource_of_mem h hlisted) (isSource_of_mem h hlisted') hrow

/-- If no scope is listed twice, no row is written twice. -/
theorem writtenRows_nodup (h : List.Forall₂ Connection.ServedBy cs ps)
    (hkeys : ((servedScopes cs ps).map (·.1.key)).Nodup) :
    ((writtenRows cs ps).map (·.2)).Nodup := by
  simp only [writtenRows, List.map_flatMap, List.map_map, Function.comp_def, List.map_id']
  rw [List.nodup_flatMap]
  constructor
  · rintro ⟨x, p⟩ hx
    exact ListedScope.rows_nodup (mem_servedScopes h hx).1
  · have hne : (servedScopes cs ps).Pairwise fun o o' => o.1.key ≠ o'.1.key :=
      List.pairwise_map.1 hkeys
    refine hne.imp_of_mem ?_
    rintro ⟨x, p⟩ ⟨y, q⟩ hx hy hkey row hrow hrow'
    have hxrow : (x, row) ∈ writtenRows cs ps :=
      (mem_writtenRows_iff h).2 ⟨List.mem_map_of_mem hx, (mem_rows_iff_writes h hx).1 hrow⟩
    have hyrow : (y, row) ∈ writtenRows cs ps :=
      (mem_writtenRows_iff h).2 ⟨List.mem_map_of_mem hy, (mem_rows_iff_writes h hy).1 hrow'⟩
    exact hkey (key_eq_of_rowId_eq h hxrow hyrow rfl)

end ServedScopes

/-! ## Identifiers with colons -/

namespace Sample

/-- The tickets of a project, from scopes whose identifiers hold colons or are empty. -/
def colons : PlanRequest where
  projectName := "atlas"
  connections := [
    { pluginName := "github", connectionId := 1
      scopes := [{ scopeId := "2:3", entities := ["TICKET"] }, { scopeId := "" }] },
    { pluginName := "github", connectionId := 12
      scopes := [{ scopeId := ":3", entities := ["TICKET", "CODEREVIEW"] }] }]
  metrics := Table.empty
  skipCollectors := false

end Sample

namespace Catalog

variable {req : PlanRequest} {p : Plan}

/-- Let a plan be generated with the plugins of the catalog. If there is a project, the first stage
maps it to entries. Each of the entries is that of a row which is written by a scope that is listed,
and entries of the same identifier come from scopes of the same plugin, connection and identifier.
If no scope is listed twice, no entry stands twice, and for each scope and each table that it feeds
there is exactly one place where its entry stands. -/
theorem mapped_rows (h : registry.generate req = .ok p) :
    ∃ (mapping : Task) (rest : List Stage) (written : List (ListedScope × DomainScope))
      (entries : List Json),
      p.stages = (if req.projectName = "" then [] else [[mapping]]) ++ rest ∧
      mapping.Maps req.projectName entries ∧
      entries = written.map (fun w =>
        .object [("rowId", .string w.2.rowId), ("table", .string w.2.table)]) ∧
      (∀ w ∈ written, w.1 ∈ req.listedScopes ∧ w.1.Writes w.2) ∧
      (∀ w ∈ written, ∀ w' ∈ written, w.2.rowId = w'.2.rowId → w.1.key = w'.1.key) ∧
      ((req.listedScopes.map (·.key)).Nodup → entries.Nodup ∧
        ∀ x ∈ req.listedScopes, ∀ table, x.Feeds table → (x, ⟨table, x.rowId⟩) ∈ written ∧
          ∃! place : Nat, entries[place]? =
            some (.object [("rowId", .string x.rowId), ("table", .string table)])) := by
  obtain ⟨ps, mapping, collecting, computing, hserved, hmaps, -, -, hstages⟩ :=
    generate_eq_ok_iff_expandsTo.1 h
  rw [List.append_assoc] at hstages
  rw [← writtenRows_snd] at hmaps
  have hscopes : (servedScopes req.connections ps).map (·.1) = req.listedScopes :=
    servedScopes_fst hserved.length_eq.le
  have hwritten : ∀ x row, (x, row) ∈ writtenRows req.connections ps ↔
      x ∈ req.listedScopes ∧ x.Writes row := by
    intro x row
    rw [mem_writtenRows_iff hserved, hscopes]
  refine ⟨mapping, _, writtenRows req.connections ps, _, hstages, hmaps, List.map_map,
    fun w hw => (hwritten w.1 w.2).1 hw, fun w hw w' hw' => key_eq_of_rowId_eq hserved hw hw', ?_⟩
  intro hkeys
  have hnodup : (((writtenRows req.connections ps).map (·.2)).map (·.entry)).Nodup := by
    refine (writtenRows_nodup hserved ?_).map DomainScope.entry_injective
    rwa [← hscopes, List.map_map] at hkeys
  refine ⟨hnodup, fun x hx table htable => ?_⟩
  have hmem : (x, ⟨table, x.rowId⟩) ∈ writtenRows req.connections ps :=
    (hwritten _ _).2 ⟨hx, htable, rfl⟩
  exact ⟨hmem, existsUnique_place hnodup (List.mem_map_of_mem (List.mem_map_of_mem hmem))⟩

theorem colons_mapped :
    ∃ (p : Plan) (mapping : Task) (rest : List Stage) (entries : List Json),
      registry.generate Sample.colons = .ok p ∧ p.stages = [mapping] :: rest ∧
      mapping.Maps "atlas" entries ∧ entries.Nodup ∧
      ∀ row ∈ [("github:1:2:3", "boards"), ("github:1:", "repos"), ("github:12::3", "boards")],
        ∃! place : Nat, entries[place]? =
          some (.object [("rowId", .string row.1), ("table", .string row.2)]) := by
  have haccepted : (registry.generate Sample.colons).isOk = true := by decide +kernel
  cases h : registry.generate Sample.colons with
  | error e =>
    rw [h] at haccepted
    cases haccepted
  | ok p =>
    obtain ⟨mapping, rest, written, entries, hstages, hmaps, -, -, -, honce⟩ := mapped_rows h
    rw [if_neg (by decide)] at hstages
    obtain ⟨hnodup, hplace⟩ := honce (by decide)
    have hfeeds (x : ListedScope) (hname : x.pluginName = "github") (domain : String)
        {table : String} (htable : (domain, table) ∈ github.tables) (hasks : x.AsksFor domain) :
        x.Feeds table :=
      ⟨github, List.mem_cons_self, hname.symm, domain, htable, hasks⟩
    refine ⟨p, mapping, rest, entries, rfl, hstages, hmaps, hnodup, ?_⟩
    simp only [List.forall_mem_cons, List.not_mem_nil, false_imp_iff, implies_true, and_true]
    refine ⟨?_, ?_, ?_⟩
    · exact (hplace ⟨"github", 1, { scopeId := "2:3", entities := ["TICKET"] }⟩ (.head _) "boards"
        (hfeeds _ rfl "TICKET" (by decide) (.inr (by decide)))).2
    · exact (hplace ⟨"github", 1, { scopeId := "" }⟩ (.tail _ (.head _)) "repos"
        (hfeeds _ rfl "CODE" (by decide) (.inl rfl))).2
    · exact (hplace ⟨"github", 12, { scopeId := ":3", entities := ["TICKET", "CODEREVIEW"] }⟩
        (.tail _ (.tail _ (.head _))) "boards"
        (hfeeds _ rfl "TICKET" (by decide) (.inr (by decide)))).2

end Catalog

end Ingestion
