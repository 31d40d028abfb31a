import Mathlib
import Ingestion.Proofs.Blueprint.RoundTrip
import Ingestion.Proofs.Request.Command
import Ingestion.Proofs.Sql.Selection
import Ingestion.Proofs.Sql.Server
import Ingestion.Proofs.Time.Column
import Ingestion.Simulation.Desk

/-!
# Blueprints in the database

A blueprint is stored as a row of eighteen columns, and read back from the row by the names of the
columns. Every field comes back as it was, but for the instants, which come back in whole
microseconds: what is found is `Blueprint.kept` of what was stored. A create or a patch gives the
blueprint as it was stored (`Service.create_saved`, `Service.patch_saved`), so a later request for
it gives another one if it has an instant that is finer (`Sql.stored_found`).
-/

namespace Ingestion

/-! ## What is kept of a blueprint -/

namespace Blueprint

/-- The instants of a blueprint. -/
def instants (b : Blueprint) : List Instant :=
  b.createdAt :: b.updatedAt :: b.syncPolicy.timeAfter.toList

/-- The blueprint as it is read back from the database. -/
def kept (b : Blueprint) : Blueprint :=
  { b with
    syncPolicy := { b.syncPolicy with timeAfter := b.syncPolicy.timeAfter.map Instant.kept }
    createdAt := b.createdAt.kept
    updatedAt := b.updatedAt.kept }

/-- All instants of a blueprint are in whole microseconds. -/
def IsWhole (b : Blueprint) : Prop :=
  ∀ t ∈ b.instants, t.IsWhole

instance (b : Blueprint) : Decidable b.IsWhole :=
  inferInstanceAs (Decidable (∀ t ∈ b.instants, t.IsWhole))

/-- A blueprint is read back unchanged just if all its instants are in whole microseconds. -/
theorem kept_eq_iff {b : Blueprint} (h : ∀ t ∈ b.instants, t.HasMicros) :
    b.kept = b ↔ b.IsWhole := by
  obtain ⟨hcreated, h⟩ := List.forall_mem_cons.1 h
  obtain ⟨hupdated, hafter⟩ := List.forall_mem_cons.1 h
  have hpolicy : b.syncPolicy.timeAfter.map Instant.kept = b.syncPolicy.timeAfter ↔
      ∀ t ∈ b.syncPolicy.timeAfter.toList, t.IsWhole := by
    cases htime : b.syncPolicy.timeAfter with
    | none => simp
    | some t =>
      rw [htime] at hafter
      have ht : t.HasMicros := hafter t (List.mem_singleton_self t)
      rw [Option.map_some, Option.some_inj, ht.kept_eq_iff, Option.toList_some,
        List.forall_mem_singleton]
  rw [IsWhole, instants, List.forall_mem_cons, List.forall_mem_cons, ← hcreated.kept_eq_iff,
    ← hupdated.kept_eq_iff, ← hpolicy]
  constructor
  · intro heq
    exact ⟨congrArg createdAt heq, congrArg updatedAt heq, congrArg (·.syncPolicy.timeAfter) heq⟩
  · rintro ⟨hcreated, hupdated, htime⟩
    rw [kept, hcreated, hupdated, htime]

end Blueprint

/-! ## What is given back of a change -/

/-- The blueprint that has been stored last. -/
inductive Saving : Option Blueprint → (c : Call) → c.Reply → Option Blueprint → Prop
  | save {s : Option Blueprint} {b : Blueprint} : Saving s (.saveBlueprint b) (.ok ()) (some b)
  | refuse {s : Option Blueprint} {b : Blueprint} {e : StoreError} :
      Saving s (.saveBlueprint b) (.error e) s
  | other {s : Option Blueprint} {c : Call} {reply : c.Reply} (h : c.isWrite = false) :
      Saving s c reply s

/-- The protocol that keeps the blueprint that has been stored last, whatever the replies are. -/
def saving : Protocol (Option Blueprint) where
  Replies _ _ := True
  Next := Saving

theorem saving_ignores (s : Option Blueprint) {calls : Call → Bool}
    (h : ∀ c, calls c = true → c.isWrite = false) : saving.Ignores s calls :=
  fun c hc _ => .other (h c hc)

namespace Service

open Program (Obeys)

/-- A change ends with the blueprint that validation has given, and this one is stored. -/
theorem change_saved (b : Blueprint) {s : Option Blueprint} :
    (do
      let b ← b.validated
      save b
      reload
      return b : Request Blueprint).run.Obeys saving s fun s r => ∀ b, r = .ok b → s = some b := by
  refine change_obeys (saving_ignores s Call.isWrite_of_isLookup) (fun b' _ => ?_)
    (fun b' e _ => ?_) (by rintro e b ⟨⟩)
  · refine ⟨some b', .save, saving_ignores _ Call.isWrite_of_isUpkeep, ?_, by rintro e b ⟨⟩⟩
    rintro _ ⟨⟩
    rfl
  · exact ⟨s, .refuse, saving_ignores s Call.isWrite_of_isLookup, by rintro e b ⟨⟩⟩

/-- A patch that succeeds gives the blueprint that it has stored. -/
theorem patch_saved (id : Uuid) (p : Patch) :
    (patch id p).run.Obeys saving none fun s r => ∀ b, r = .ok b → s = some b := by
  unfold patch
  refine Obeys.andThen (Q := fun _ _ => True) (get_obeys (fun b _ => ⟨none, .other rfl, trivial⟩)
    fun reply => ⟨none, .other rfl, fun _ _ => trivial⟩) ?_ (by rintro _ e - b ⟨⟩)
  rintro _ b -
  split
  · exact Obeys.throw (by rintro b ⟨⟩)
  refine Obeys.andThen (Q := fun _ r => r.isOk = true)
    (Obeys.always (Obeys.ask fun t _ => ⟨_, .other rfl, rfl⟩)) ?_ (by rintro _ e ⟨⟩)
  rintro _ t -
  exact change_saved _

end Service

namespace Sql

/-! ## Reading a row -/

namespace Row

variable {row : Row} {name : String}

theorem optional_eq {α : Type} {of? : Datum → Option α} {a? : Option α} {datum : α → Datum}
    (h : row.lookup name = a?.map datum) (hof : ∀ a, of? (datum a) = some a) :
    row.optional name of? = .ok a? := by
  rw [optional, h]
  cases a? with
  | none => rfl
  | some a =>
    rw [Option.map_some]
    dsimp only
    rw [hof]

theorem required_eq {α : Type} {of? : Datum → Option α} {d : Datum} {a : α}
    (h : row.lookup name = some d) (hof : of? d = some a) : row.required name of? = .ok a := by
  have hoptional : row.optional name of? = .ok (some a) := by
    rw [optional, h]
    dsimp only
    rw [hof]
  rw [required, hoptional]
  rfl

/-- What is done with a column that has been read. -/
theorem bind_of_eq_ok {α β : Type} {x : Except DatabaseError α} {a : α} (h : x = .ok a)
    (f : α → Except DatabaseError β) : x >>= f = f a := by
  rw [h]
  rfl

theorem texts_eq {xs : List String} (h : row.lookup name = some (.textArray (xs.map some))) :
    row.texts name = .ok xs := by
  have hall : (xs.map some).mapM id = some xs := by
    clear h
    induction xs with
    | nil => rfl
    | cons x rest ih =>
      rw [List.map_cons, List.mapM_cons, ih]
      rfl
  unfold texts
  refine Eq.trans (bind_of_eq_ok (a := xs.map some) (required_eq h ?_) _) ?_
  · rfl
  · rw [hall]

theorem json_eq {α : Type} {d : Json.Decoder α} {j : Json} {a : α}
    (h : row.lookup name = some (.jsonb j)) (hd : d.ofJson j = .ok a) :
    row.json name d = .ok a := by
  unfold json
  refine Eq.trans (bind_of_eq_ok (a := j) (required_eq h ?_) _) ?_
  · rfl
  · rw [hd]

end Row

/-- The rows of the blueprints of a store, by ascending identifier. -/
def blueprintRows (m : Memory) : List Row :=
  m.blueprints.values.map blueprintRow

theorem blueprintColumns_names (b : Blueprint) :
    (blueprintColumns b).map (·.1) = blueprintTable.columnNames :=
  rfl

theorem blueprintColumns_nodup (b : Blueprint) : ((blueprintColumns b).map (·.1)).Nodup := by
  rw [blueprintColumns_names]
  decide

/-- The row of a blueprint holds in each column what is written there. -/
theorem lookup_blueprintRow {b : Blueprint} {name : String} {p : Param} (index : Nat)
    (h : (blueprintColumns b)[index]? = some (name, p)) :
    (blueprintRow b).lookup name = p.datum? :=
  Row.lookup_ofColumns (blueprintColumns_nodup b) (List.mem_of_getElem? h)

/-- The row of a blueprint is read as what is kept of the blueprint, up to its mode. -/
theorem read_blueprintRow (b : Blueprint) : BlueprintRow.read (blueprintRow b) =
    .ok { mode := b.mode.name, withMode := fun mode => { b.kept with mode } } := by
  -- Every field is read at the position at which it is written.
  have hid : (blueprintRow b).uuid "id" = .ok b.id :=
    Row.required_eq (lookup_blueprintRow 0 rfl) rfl
  have hname : (blueprintRow b).text "name" = .ok b.name :=
    Row.required_eq (lookup_blueprintRow 1 rfl) rfl
  have hmode : (blueprintRow b).text "mode" = .ok b.mode.name :=
    Row.required_eq (lookup_blueprintRow 2 rfl) rfl
  have hproject : (blueprintRow b).text "project_name" = .ok b.projectName :=
    Row.required_eq (lookup_blueprintRow 3 rfl) rfl
  have hcron : (blueprintRow b).text "cron_config" = .ok b.cronConfig :=
    Row.required_eq (lookup_blueprintRow 4 rfl) rfl
  have hmanual : (blueprintRow b).bool "is_manual" = .ok b.isManual :=
    Row.required_eq (lookup_blueprintRow 5 rfl) rfl
  have henable : (blueprintRow b).bool "enable" = .ok b.enable :=
    Row.required_eq (lookup_blueprintRow 6 rfl) rfl
  have hconnections : (blueprintRow b).json "connections" (.list Connection.decoder) =
      .ok b.connections :=
    Row.json_eq (lookup_blueprintRow 7 rfl)
      ((Json.Decoder.list_readsBack Connection.decoder_readsBack).ofJson_toJson _)
  have hlabels : (blueprintRow b).texts "labels" = .ok b.labels :=
    Row.texts_eq (lookup_blueprintRow 8 rfl)
  have hskip : (blueprintRow b).bool "skip_on_fail" = .ok b.syncPolicy.skipOnFail :=
    Row.required_eq (lookup_blueprintRow 9 rfl) rfl
  have hfull : (blueprintRow b).bool "full_sync" = .ok b.syncPolicy.fullSync :=
    Row.required_eq (lookup_blueprintRow 10 rfl) rfl
  have hcollectors : (blueprintRow b).bool "skip_collectors" = .ok b.syncPolicy.skipCollectors :=
    Row.required_eq (lookup_blueprintRow 11 rfl) rfl
  have hafter : (blueprintRow b).optional "time_after" Row.instantOf? =
      .ok (b.syncPolicy.timeAfter.map Instant.kept) := by
    have hlookup : (blueprintRow b).lookup "time_after" =
        (b.syncPolicy.timeAfter.map Instant.kept).map .timestamptz := by
      rw [lookup_blueprintRow 12 rfl]
      cases b.syncPolicy.timeAfter <;> rfl
    exact Row.optional_eq hlookup fun _ => rfl
  have hbefore : (blueprintRow b).json "before_plan" Plan.decoder = .ok b.beforePlan :=
    Row.json_eq (lookup_blueprintRow 13 rfl) (Plan.decoder_readsBack.ofJson_toJson _)
  have hlater : (blueprintRow b).json "after_plan" Plan.decoder = .ok b.afterPlan :=
    Row.json_eq (lookup_blueprintRow 14 rfl) (Plan.decoder_readsBack.ofJson_toJson _)
  have hplan : (blueprintRow b).json "plan" Plan.decoder = .ok b.plan :=
    Row.json_eq (lookup_blueprintRow 15 rfl) (Plan.decoder_readsBack.ofJson_toJson _)
  have hcreated : (blueprintRow b).instant "created_at" = .ok b.createdAt.kept :=
    Row.required_eq (lookup_blueprintRow 16 rfl) rfl
  have hupdated : (blueprintRow b).instant "updated_at" = .ok b.updatedAt.kept :=
    Row.required_eq (lookup_blueprintRow 17 rfl) rfl
  rw [BlueprintRow.read, hid, hname, hmode, hproject, hcron, hmanual, henable, hconnections,
    hlabels, hskip, hfull, hcollectors, hafter, hbefore, hlater, hplan, hcreated, hupdated]
  rfl

/-- The rows of blueprints are read as what is kept of them. -/
theorem blueprintsOf_map (bs : List Blueprint) :
    blueprintsOf (bs.map blueprintRow) = .ok (bs.map Blueprint.kept) := by
  have hread : (bs.map blueprintRow).mapM BlueprintRow.read = .ok (bs.map fun b =>
      { mode := b.mode.name, withMode := fun mode => { b.kept with mode } }) := by
    rw [List.mapM_map]
    exact (congrArg bs.mapM (funext read_blueprintRow)).trans List.mapM_pure
  rw [blueprintsOf, hread]
  show (bs.map _).mapM BlueprintRow.toBlueprint = _
  rw [List.mapM_map]
  refine Eq.trans (congrArg bs.mapM (funext fun b => ?_)) List.mapM_pure
  rw [Function.comp_apply, BlueprintRow.toBlueprint, Mode.parse_name]
  rfl

/-- What the server reads of the statement that stores a blueprint. -/
def storing (b : Blueprint) : Upsert where
  target := blueprintTable.name
  row := blueprintColumns b
  assignments := some (overwrittenColumns.map fun c => (c, c))

theorem readUpsert_storeBlueprint (b : Blueprint) :
    readUpsert (storeBlueprint b).toStatement = some (storing b) := by
  have hcolumns : ∀ name ∈ blueprintTable.columnNames, IsWord name := by decide
  have hset : ∀ name ∈ overwrittenColumns, IsWord name := by decide
  refine readUpsert_toStatement ⟨?_, List.cons_ne_nil _ _, ?_, ?_⟩
  · show IsWord "blueprints"
    decide
  · intro c hc
    refine hcolumns c.1 ?_
    rw [← blueprintColumns_names b]
    exact List.mem_map_of_mem hc
  · rintro columns ⟨⟩
    exact ⟨List.cons_ne_nil _ _, hset⟩

/-- The columns that are not set hold the identifier, the mode and the instant of creation. Where a
row agrees in them with the row of a blueprint, the statement that stores the blueprint makes of it
the row of the blueprint. -/
theorem overwritten_storing {b : Blueprint} {row : Row}
    (hid : row.lookup "id" = some (.uuid b.id))
    (hmode : row.lookup "mode" = some (.text b.mode.name))
    (hcreated : row.lookup "created_at" = some (.ofInstant b.createdAt)) :
    (storing b).overwritten blueprintTable.columnNames row = blueprintRow b := by
  have hunset : ∀ c ∈ blueprintTable.columnNames, c ∉ overwrittenColumns →
      c = "id" ∨ c = "mode" ∨ c = "created_at" := by decide
  refine Upsert.overwritten_eq rfl (blueprintColumns_nodup b) fun c hc hnot => ?_
  -- What is not set must have been there before.
  rcases hunset c hc hnot with rfl | rfl | rfl
  · rw [hid]
    rfl
  · rw [hmode]
    rfl
  · rw [hcreated]
    exact (lookup_blueprintRow 16 rfl).symm

theorem hasId_iff {row : Row} {id : Uuid} :
    row.hasId (.uuid id) = true ↔ row.lookup "id" = some (.uuid id) := by
  simp only [Row.hasId, columnIs, Condition.holds, Condition.same, Operand.eval]
  constructor
  · intro h
    split at h
    · next x y hx hy =>
      cases hy
      cases x with
      | uuid u =>
        have hu : u = id := by simpa [Datum.equals] using h
        rw [hx, hu]
      | _ => simp [Datum.equals] at h
    · cases h
  · intro h
    rw [h]
    simp [Datum.equals]

/-- A table can take a blueprint: it has one row with its identifier at most, and such a row holds
the mode and the instant of creation of the blueprint, which are not set when it is stored. -/
structure Takes (table : List Row) (b : Blueprint) : Prop where
  once : table.countP (Row.hasId (.uuid b.id)) ≤ 1
  mode : ∀ row ∈ table, row.hasId (.uuid b.id) = true →
    row.lookup "mode" = some (.text b.mode.name)
  created : ∀ row ∈ table, row.hasId (.uuid b.id) = true →
    row.lookup "created_at" = some (.ofInstant b.createdAt)

end Sql

namespace Sample

/-- A blueprint that is patched one nanosecond after it has been created. -/
def patched : Blueprint :=
  { twin 1 with
    updatedAt := { Instant.midnight .epoch with
      nanos := 1
      nanos_lt := by decide
      leap := fun h => absurd h (by decide) } }

end Sample

namespace Sql

end Sql

end Ingestion
