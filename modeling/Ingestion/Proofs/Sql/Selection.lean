import Mathlib
import Ingestion.Proofs.Sql.Reading
import Ingestion.Proofs.Store.Listing
import Ingestion.Sql.Store

/-!
# What the database selects

The filters of a query are written down twice: as a predicate on blueprints, and as conditions that
are sent to the database. On the row that is kept of a blueprint they come to the same
(`queryConditions_hold`). The statement that counts and the one that lists send one clause with one
list of parameters (`findBlueprints_statements`), and read with its parameters this clause means the
conditions. So the database selects and counts what the store in memory does.
-/

namespace Ingestion.Sql

/-! ## Conditions on the row of a blueprint -/

/-- The row that is kept of a blueprint. -/
def blueprintRow (b : Blueprint) : Row :=
  Row.ofColumns (blueprintColumns b)

variable {b : Blueprint} {q : Query}

theorem lookup_enable : (blueprintRow b).lookup "enable" = some (.bool b.enable) :=
  rfl

theorem lookup_is_manual : (blueprintRow b).lookup "is_manual" = some (.bool b.isManual) :=
  rfl

theorem lookup_cron_config : (blueprintRow b).lookup "cron_config" = some (.text b.cronConfig) :=
  rfl

theorem lookup_labels : (blueprintRow b).lookup "labels" = some (.textArray (b.labels.map some)) :=
  rfl

theorem columnIs_holds {row : Row} {name : String} {d d' : Datum} (h : row.lookup name = some d') :
    (columnIs name d).holds row = d'.equals d := by
  simp only [columnIs, Condition.holds, Condition.same, Operand.eval, h]

theorem isManual_holds (v : Bool) :
    (Condition.equal (.column "is_manual") (boolean v)).holds (blueprintRow b) =
      (b.isManual == v) := by
  simp only [Condition.holds, Condition.same, Operand.eval, boolean, lookup_is_manual,
    Datum.equals]

theorem notIn_holds {row : Row} {name s : String} (h : row.lookup name = some (.text s))
    (list : List String) :
    (Condition.notIn (.column name) (list.map fun t => .param (.text t))).holds row =
      !list.contains s := by
  have hsame (t : String) :
      Condition.same row (.column name) (.param (.text t)) = (s == t) := by
    simp only [Condition.same, Operand.eval, h, Datum.equals]
  rw [Condition.holds, List.any_map, List.contains_eq_any_beq]
  exact congrArg (!list.any ·) (funext hsame)

theorem labelled_holds (label : String) :
    (Condition.equalAny (.param (.text label)) "labels").holds (blueprintRow b) =
      b.labels.contains label := by
  simp only [Condition.holds, Operand.eval, lookup_labels]
  rw [Bool.eq_iff_iff, List.contains_iff_mem, List.contains_iff_mem, List.mem_map]
  constructor
  · rintro ⟨l, hl, ⟨⟩⟩
    exact hl
  · exact fun hl => ⟨label, hl, rfl⟩

/-- The conditions of a category hold for the blueprints that belong to it. -/
theorem categoryConditions_hold (c : Category) (b : Blueprint) :
    (categoryConditions c).all (Condition.holds (blueprintRow b)) = c.includes b := by
  have hcron (s : String) : (columnIs "cron_config" (.text s)).holds (blueprintRow b) =
      (b.cronConfig == s) := columnIs_holds lookup_cron_config
  have hcustom := notIn_holds (lookup_cron_config (b := b))
    [Category.dailyCron, Category.weeklyCron, Category.monthlyCron]
  cases c with
  | all => rfl
  | manual =>
    simp only [categoryConditions, List.all_cons, List.all_nil, isManual_holds, Bool.and_true,
      beq_true]
    rfl
  | custom =>
    simp only [List.map_cons, List.map_nil] at hcustom
    simp only [categoryConditions, List.all_cons, List.all_nil, isManual_holds, Bool.and_true,
      hcustom, Category.includes, beq_false]
  | _ =>
    simp only [categoryConditions, List.all_cons, List.all_nil, isManual_holds, Bool.and_true,
      hcron, Category.cron?, Option.getD_some, Category.includes, beq_false, Option.some_beq_some]

/-- The conditions of a query hold for the blueprints that it selects. -/
theorem queryConditions_hold (q : Query) (b : Blueprint) :
    (queryConditions q).all (Condition.holds (blueprintRow b)) = q.selects b := by
  have hone : (Condition.equal one one).holds (blueprintRow b) = true := rfl
  have henable : (q.enable.map fun v => columnIs "enable" (.bool v)).toList.all
      (Condition.holds (blueprintRow b)) = q.enable.all (b.enable == ·) := by
    cases q.enable with
    | none => rfl
    | some v =>
      simp only [Option.map_some, Option.toList_some, List.all_cons, List.all_nil, Bool.and_true,
        Option.all_some, columnIs_holds lookup_enable, Datum.equals]
  have hlabel : (q.label.map fun l => Condition.equalAny (.param (.text l)) "labels").toList.all
      (Condition.holds (blueprintRow b)) = q.label.all b.labels.contains := by
    cases q.label with
    | none => rfl
    | some l =>
      simp only [Option.map_some, Option.toList_some, List.all_cons, List.all_nil, Bool.and_true,
        Option.all_some, labelled_holds]
  rw [queryConditions, List.all_append, List.all_append, List.all_append, List.all_cons,
    List.all_nil, hone, henable, hlabel, Bool.and_true, Bool.true_and, Query.selects]
  cases q.isManual with
  | none =>
    dsimp only
    rw [categoryConditions_hold]
  | some v =>
    simp only [List.all_cons, List.all_nil, Bool.and_true, columnIs_holds lookup_is_manual,
      Datum.equals]

/-! ## The clause of a query -/

theorem one_legible : one.Legible := by
  have hnumber : "1".toNat? = some 1 := Nat.toNat?_repr 1
  have hread : readOperand [] "1" = some (.literal "1" (.int4 1)) := by
    show ("1".toNat?.map fun n : Nat => Operand.literal "1" (.int4 n)) = _
    rw [hnumber]
    rfl
  exact ⟨by decide, by decide, hread⟩

theorem boolean_legible (v : Bool) : (boolean v).Legible := by
  cases v
  · exact ⟨by decide, by decide, rfl⟩
  · exact ⟨by decide, by decide, rfl⟩

theorem is_manual_legible : (Operand.column "is_manual").Legible :=
  ⟨by decide, by decide, rfl⟩

theorem cron_config_legible : (Operand.column "cron_config").Legible :=
  ⟨by decide, by decide, rfl⟩

theorem byCron_legible (v : Bool) :
    (Condition.equal (.column "is_manual") (boolean v)).Legible :=
  ⟨is_manual_legible, boolean_legible v⟩

theorem categoryConditions_legible (c : Category) : ∀ x ∈ categoryConditions c, x.Legible := by
  have hcron (s : String) : (columnIs "cron_config" (.text s)).Legible :=
    ⟨cron_config_legible, trivial⟩
  cases c with
  | all => exact fun x hx => absurd hx List.not_mem_nil
  | manual => exact List.forall_mem_singleton.2 (byCron_legible true)
  | custom =>
    refine List.forall_mem_cons.2 ⟨byCron_legible false, List.forall_mem_singleton.2 ?_⟩
    refine ⟨cron_config_legible, List.cons_ne_nil _ _, ?_⟩
    intro o ho
    simp only [List.mem_cons, List.not_mem_nil, or_false] at ho
    rcases ho with rfl | rfl | rfl <;> trivial
  | _ => exact List.forall_mem_cons.2 ⟨byCron_legible false, List.forall_mem_singleton.2 (hcron _)⟩

theorem queryConditions_legible (q : Query) : ∀ x ∈ queryConditions q, x.Legible := by
  have henable : (Operand.column "enable").Legible := ⟨by decide, by decide, rfl⟩
  intro x hx
  simp only [queryConditions, List.mem_append, List.mem_singleton, Option.mem_toList,
    Option.map_eq_some_iff] at hx
  rcases hx with ((rfl | ⟨v, -, rfl⟩) | ⟨l, -, rfl⟩) | hx
  · exact ⟨one_legible, one_legible⟩
  · exact ⟨henable, trivial⟩
  · exact ⟨trivial, by decide, by decide⟩
  · cases hmanual : q.isManual with
    | none =>
      rw [hmanual] at hx
      exact categoryConditions_legible q.category x hx
    | some v =>
      rw [hmanual] at hx
      obtain rfl := List.mem_singleton.1 hx
      exact ⟨is_manual_legible, trivial⟩

/-- The text of the conditions of a query. -/
def queryClause (q : Query) : String :=
  Piece.render 1 (wherePieces (queryConditions q))

/-- The parameters of the conditions of a query. -/
def queryParams (q : Query) : List Param :=
  Piece.params (wherePieces (queryConditions q))

/-- The truth of a clause with its parameters for a row, none if the text is no clause. -/
def clauseHolds? (params : List Param) (clause : String) (row : Row) : Option Bool :=
  (readClause params clause).map fun cs => cs.all (Condition.holds row)

/-- The clause of a query is true of the blueprints that the query selects. -/
theorem queryClause_holds (q : Query) (b : Blueprint) :
    clauseHolds? (queryParams q) (queryClause q) (blueprintRow b) = some (q.selects b) := by
  have hne : queryConditions q ≠ [] := List.cons_ne_nil _ _
  rw [clauseHolds?, queryParams, queryClause,
    readClause_wherePieces hne (queryConditions_legible q), Option.map_some, queryConditions_hold]

example : queryClause { enable := some true, label := some "core", category := .custom } =
    " WHERE 1 = 1 AND enable = $1 AND $2 = ANY(labels) AND is_manual = FALSE" ++
      " AND cron_config NOT IN ($3, $4, $5)" := by
  decide +kernel

/-! ## Statements -/

theorem Select.toStatement_eq (s : Select) : s.toStatement =
    { text := "SELECT " ++ commaSeparated s.columns ++ " FROM " ++ s.source ++
        Piece.render 1 (wherePieces s.conditions) ++
        Piece.render (1 + (Piece.params (wherePieces s.conditions)).length)
          (s.orderPieces ++ s.pagePieces)
      params := Piece.params (wherePieces s.conditions) ++
        Piece.params (s.orderPieces ++ s.pagePieces) } := by
  rw [toStatement, Statement.ofPieces, List.append_assoc, List.cons_append]
  simp only [Piece.render, Piece.params, Piece.render_append, Piece.params_append,
    String.append_assoc]

theorem countBlueprints_toStatement (q : Query) : (countBlueprints q).toStatement =
    { text := "SELECT COUNT(*) FROM blueprints" ++ queryClause q, params := queryParams q } := by
  have htext : "SELECT " ++ commaSeparated ["COUNT(*)"] ++ " FROM " ++ "blueprints" =
      "SELECT COUNT(*) FROM blueprints" := by decide
  rw [Select.toStatement_eq]
  show Statement.mk ("SELECT " ++ commaSeparated ["COUNT(*)"] ++ " FROM " ++ "blueprints" ++
    queryClause q ++ "") (queryParams q ++ []) = _
  rw [htext, String.append_empty, List.append_nil]

/-- The statement that lists blueprints, but for the page. -/
def listingText (q : Query) : String :=
  "SELECT " ++ commaSeparated blueprintTable.columnNames ++ " FROM blueprints" ++ queryClause q ++
    " ORDER BY created_at DESC"

theorem listBlueprints_toStatement (q : Query) : (listBlueprints q).toStatement =
    { text := listingText q ++
        Piece.render (queryParams q).length.succ (listBlueprints q).pagePieces
      params := queryParams q ++ Piece.params (listBlueprints q).pagePieces } := by
  have hsource (s : String) : s ++ " FROM " ++ "blueprints" = s ++ " FROM blueprints" :=
    String.append_assoc.trans (congrArg (s ++ ·) (by decide))
  rw [Select.toStatement_eq]
  show Statement.mk ("SELECT " ++ commaSeparated blueprintTable.columnNames ++ " FROM " ++
    "blueprints" ++ queryClause q ++ (" ORDER BY created_at DESC" ++
      Piece.render (1 + (queryParams q).length) (listBlueprints q).pagePieces)) _ = _
  rw [hsource, Nat.add_comm, ← String.append_assoc]
  rfl

/-- The offset of a page can be sent. -/
theorem offset_le_maxOffset (q : Query) : q.offset ≤ Select.maxOffset := by
  unfold Query.offset
  split
  · next limit hlimit =>
    have hlength : limit ≤ 500 := by
      unfold Query.limit? at hlimit
      split at hlimit
      · cases hlimit
      · cases hlimit
        exact Nat.min_le_right _ _
    have hpage : (q.page.map UInt32.toNat).getD 1 ≤ 2 ^ 32 := by
      cases q.page with
      | none => decide
      | some p => exact p.toNat_lt.le
    calc (max ((q.page.map UInt32.toNat).getD 1) 1 - 1) * limit
        ≤ 2 ^ 32 * 500 := Nat.mul_le_mul (by omega) hlength
      _ ≤ Select.maxOffset := by decide
  · exact Nat.zero_le _

/-- The place of a page is sent after the conditions, with the next two parameters. -/
theorem listBlueprints_page {limit : Nat} (h : q.limit? = some limit) :
    (listBlueprints q).toStatement =
      { text := listingText q ++ (" LIMIT " ++ placeWord ((queryParams q).length + 1) ++
          " OFFSET " ++ placeWord ((queryParams q).length + 2))
        params := queryParams q ++ [.value (.int8 limit), .value (.int8 q.offset)] } := by
  have hpage : (listBlueprints q).pagePieces =
      [.text " LIMIT ", .place (.value (.int8 limit)),
        .text " OFFSET ", .place (.value (.int8 q.offset))] := by
    simp only [Select.pagePieces, listBlueprints, h, Option.map_some,
      Nat.min_eq_left (offset_le_maxOffset q)]
  rw [listBlueprints_toStatement, hpage]
  simp only [Piece.render, Piece.params, placeWord, String.append_assoc, String.append_empty]

theorem listBlueprints_whole (h : q.limit? = none) : (listBlueprints q).toStatement =
    { text := listingText q, params := queryParams q } := by
  have hpage : (listBlueprints q).pagePieces = [] := by
    simp only [Select.pagePieces, listBlueprints, h, Option.map_none]
  rw [listBlueprints_toStatement, hpage, Piece.render, Piece.params, String.append_empty,
    List.append_nil]

/-! ## What is sent -/

theorem fetch_sent (s : Statement) (peer : Peer) :
    (Talk.fetch s peer).2.sent = peer.sent ++ [s] := by
  obtain ⟨replies, sent⟩ := peer
  cases replies with
  | nil => rfl
  | cons reply rest => cases reply <;> rfl

theorem talk_bind {α β : Type} (x : Talk α) (f : α → Talk β) (peer : Peer) :
    (x >>= f) peer = f (x peer).1 (x peer).2 :=
  rfl

/-- To find blueprints they are counted, and then listed unless the count has failed. -/
theorem findBlueprints_sent (q : Query) (peer : Peer) :
    (findBlueprints q peer).2.sent = peer.sent ++ [(countBlueprints q).toStatement] ∨
      (findBlueprints q peer).2.sent =
        peer.sent ++ [(countBlueprints q).toStatement, (listBlueprints q).toStatement] := by
  have hcount := fetch_sent (countBlueprints q).toStatement peer
  rw [findBlueprints, talk_bind]
  generalize Talk.fetch (countBlueprints q).toStatement peer = counted at hcount ⊢
  obtain ⟨reply, peer'⟩ := counted
  have hlist := fetch_sent (listBlueprints q).toStatement peer'
  rw [hcount, List.append_assoc] at hlist
  dsimp only
  cases reply >>= countOf with
  | error e => exact .inl hcount
  | ok count =>
    dsimp only
    rw [talk_bind]
    generalize Talk.fetch (listBlueprints q).toStatement peer' = listed at hlist ⊢
    obtain ⟨rows, peer''⟩ := listed
    cases rows with
    | error e => exact .inr hlist
    | ok rows => exact .inr hlist

/-- Listing and counting in the database rest on one clause with one list of parameters. It is true
of the blueprints that the query selects. The statement that counts ends with it. The one that
lists goes on with the order, and with the page just if there is one, whose place is sent with the
next two parameters. Nothing else is sent. So the blueprints for which the clause is true are those
that the store in memory selects, and their number is the one that it gives. -/
theorem findBlueprints_statements (q : Query) : ∃ (clause : String) (params : List Param),
    (∀ b, clauseHolds? params clause (blueprintRow b) = some (q.selects b)) ∧
    (countBlueprints q).toStatement =
      { text := "SELECT COUNT(*) FROM blueprints" ++ clause, params } ∧
    (let listing := "SELECT " ++ commaSeparated blueprintTable.columnNames ++ " FROM blueprints" ++
      clause ++ " ORDER BY created_at DESC"
    (q.limit? = none → (listBlueprints q).toStatement = { text := listing, params }) ∧
    ∀ limit, q.limit? = some limit → (listBlueprints q).toStatement =
      { text := listing ++ (" LIMIT " ++ placeWord (params.length + 1) ++
          " OFFSET " ++ placeWord (params.length + 2))
        params := params ++ [.value (.int8 limit), .value (.int8 q.offset)] }) ∧
    (∀ peer : Peer,
      (findBlueprints q peer).2.sent = peer.sent ++ [(countBlueprints q).toStatement] ∨
        (findBlueprints q peer).2.sent =
          peer.sent ++ [(countBlueprints q).toStatement, (listBlueprints q).toStatement]) ∧
    ∀ m : Memory,
      (m.selected q).Perm (m.blueprints.values.filter fun b =>
        clauseHolds? params clause (blueprintRow b) = some true) ∧
      (m.findBlueprints q).2 = .ofNat ((m.blueprints.values.map blueprintRow).countP fun row =>
        clauseHolds? params clause row = some true) := by
  refine ⟨queryClause q, queryParams q, queryClause_holds q, countBlueprints_toStatement q,
    ⟨listBlueprints_whole, fun limit => listBlueprints_page⟩, findBlueprints_sent q, fun m => ?_⟩
  have hfilter : (m.blueprints.values.filter fun b =>
      decide (clauseHolds? (queryParams q) (queryClause q) (blueprintRow b) = some true)) =
      m.blueprints.values.filter q.selects := by
    refine List.filter_congr fun b _ => ?_
    rw [queryClause_holds]
    cases q.selects b <;> rfl
  refine ⟨?_, ?_⟩
  · rw [hfilter]
    exact m.selected_perm q
  · show Int64.ofNat (m.selected q).length = _
    rw [List.countP_map, List.countP_eq_length_filter, (m.selected_perm q).length_eq, ← hfilter]
    rfl

end Ingestion.Sql
