import Mathlib
import Ingestion.Proofs.Sql.Upsert
import Ingestion.Proofs.Table
import Ingestion.Sql.Store

/-!
# What the server does

A table is a list of rows. `Upsert.store` is what becomes of it with an insertion: the new row is
added, or the row that has its identifier gets the columns that are set.

What a statement that reads is answered with is not a function of the table, because the server may
give rows in any order that the keys of the statement allow. `Select.MayGive` says which answers
there are. A row comes before another one if the first key that tells them apart puts it there; rows
that no key tells apart come in any order, which may be another one for the next statement.
-/

namespace Ingestion.Sql

/-! ## Rows -/

namespace Row

/-- The row with these columns and the data that they are given. -/
def tabulate (columns : List String) (datum? : String → Option Datum) : Row :=
  columns.filterMap fun c => (datum? c).map (c, ·)

/-- The row as a statement gives it that asks for these columns. -/
def project (columns : List String) (row : Row) : Row :=
  tabulate columns (List.lookup · row)

variable {columns : List (String × Param)}

theorem lookup_ofColumns_eq_none {name : String} (h : name ∉ columns.map (·.1)) :
    (Row.ofColumns columns).lookup name = none := by
  rw [List.lookup_eq_none_iff]
  intro entry hentry
  obtain ⟨c, hc, hdatum⟩ := List.mem_filterMap.1 hentry
  obtain ⟨d, -, rfl⟩ := Option.map_eq_some_iff.1 hdatum
  have hne : name ≠ c.1 := fun heq => h (List.mem_map.2 ⟨c, hc, heq.symm⟩)
  simpa using hne

/-- Each column holds what is written there. -/
theorem lookup_ofColumns (h : (columns.map (·.1)).Nodup) {c : String × Param} (hc : c ∈ columns) :
    (Row.ofColumns columns).lookup c.1 = c.2.datum? := by
  induction columns with
  | nil => cases hc
  | cons c' rest ih =>
    obtain ⟨hnot, hrest⟩ := List.nodup_cons.1 h
    -- A column that is `NULL` leaves nothing behind.
    have hcons : Row.ofColumns (c' :: rest) =
        ((c'.2.datum?.map (c'.1, ·)).toList ++ Row.ofColumns rest) := by
      rw [Row.ofColumns, List.filterMap_cons]
      cases c'.2.datum? <;> rfl
    rw [hcons]
    rcases List.mem_cons.1 hc with rfl | hc
    · cases c.2.datum? with
      | none => exact lookup_ofColumns_eq_none hnot
      | some d => exact (Ascending.lookup_cons _ _ _).trans (if_pos rfl)
    · have hne : c.1 ≠ c'.1 := fun heq => hnot (List.mem_map.2 ⟨c, hc, heq⟩)
      cases c'.2.datum? with
      | none => exact ih hrest hc
      | some d => exact (Ascending.lookup_cons _ _ _).trans ((if_neg hne).trans (ih hrest hc))

/-- A row of a table is given as it is if all columns are asked for. -/
theorem project_ofColumns (h : (columns.map (·.1)).Nodup) :
    (Row.ofColumns columns).project (columns.map (·.1)) = Row.ofColumns columns := by
  rw [project, tabulate, List.filterMap_map]
  refine List.filterMap_congr fun c hc => ?_
  exact congrArg (Option.map (c.1, ·)) (lookup_ofColumns h hc)

theorem tabulate_congr {names : List String} {datum? datum?' : String → Option Datum}
    (h : ∀ c ∈ names, datum? c = datum?' c) : tabulate names datum? = tabulate names datum?' :=
  List.filterMap_congr fun c hc => congrArg (Option.map (c, ·)) (h c hc)

end Row

/-! ## Insertions -/

/-- A row has an identifier. -/
def Row.hasId (id : Datum) (row : Row) : Bool :=
  (columnIs "id" id).holds row

namespace Upsert

variable (u : Upsert)

/-- The row that is kept if there is none with its identifier. -/
def newRow : Row :=
  .ofColumns u.row

/-- The insertion comes across a row with the identifier of the new one. -/
def meets (row : Row) : Bool :=
  (u.newRow.lookup "id").any fun id => row.hasId id

/-- What becomes of the data of a row that the insertion comes across. -/
def assigned (row : Row) (column : String) : Option Datum :=
  match (u.assignments.getD []).lookup column with
  | some source => u.newRow.lookup source
  | none => row.lookup column

/-- The row with these columns that takes the place of one that the insertion comes across. -/
def overwritten (columns : List String) (row : Row) : Row :=
  Row.tabulate columns (u.assigned row)

/-- The rows of a table with these columns after the insertion. -/
def store (columns : List String) : List Row → List Row
  | [] => [u.newRow]
  | row :: rest =>
    if u.meets row then u.overwritten columns row :: rest else row :: store columns rest

theorem lookup_same (names : List String) (column : String) :
    (names.map fun c => (c, c)).lookup column = if column ∈ names then some column else none := by
  induction names with
  | nil => rfl
  | cons c rest ih =>
    rw [List.map_cons, Ascending.lookup_cons, ih]
    by_cases hc : column = c
    · simp [hc]
    · simp [hc]

variable {u}

/-- Where every column that is set is set from the one of its name, the new row is what becomes of a
row that agrees with it in the columns that are not set. -/
theorem overwritten_eq {names : List String}
    (hset : u.assignments = some (names.map fun c => (c, c)))
    (hnodup : (u.row.map (·.1)).Nodup) {row : Row}
    (hkept : ∀ c ∈ u.row.map (·.1), c ∉ names → row.lookup c = u.newRow.lookup c) :
    u.overwritten (u.row.map (·.1)) row = u.newRow := by
  refine Eq.trans (Row.tabulate_congr fun c hc => ?_) (Row.project_ofColumns hnodup)
  rw [assigned, hset, Option.getD_some, lookup_same]
  by_cases hmem : c ∈ names
  · rw [if_pos hmem]
    rfl
  · rw [if_neg hmem]
    exact hkept c hc hmem

end Upsert

/-! ## Answers -/

/-- A datum sorts before another one of its type. How texts are sorted is a matter of the server, so
they are not told apart here. -/
def Datum.precedes : Datum → Datum → Bool
  | .bool a, .bool b => !a && b
  | .int4 a, .int4 b | .int8 a, .int8 b => a < b
  | .timestamptz a, .timestamptz b => a < b
  | .uuid a, .uuid b => a < b
  | _, _ => false

/-- A key puts a row before another one. -/
def SortKey.Puts (k : SortKey) (a b : Row) : Prop :=
  ∃ x y, a.lookup k.column = some x ∧ b.lookup k.column = some y ∧
    (if k.descending then y.precedes x else x.precedes y) = true

/-- The first of the keys that tells two rows apart puts the first row before the second one. -/
def Precedes : List SortKey → Row → Row → Prop
  | [], _, _ => False
  | k :: keys, a, b => k.Puts a b ∨ ¬ k.Puts b a ∧ Precedes keys a b

namespace Select

variable (s : Select)

/-- The rows of a table that a statement asks for. -/
def matching (table : List Row) : List Row :=
  table.filter fun row => s.conditions.all (Condition.holds row)

/-- An order in which the server may list the rows that a statement asks for. -/
structure Arranges (table listing : List Row) : Prop where
  perm : listing.Perm (s.matching table)
  sorted : listing.Pairwise fun a b => ¬ Precedes s.order b a

/-- The page that a statement asks for. -/
def pageOf (listing : List Row) : List Row :=
  match s.page with
  | some (limit, offset) => (listing.drop (min offset maxOffset)).take limit
  | none => listing

/-- The row that a statement is answered with that counts the rows of a table. -/
def countRow (table : List Row) : Row :=
  [("count", .int8 (s.matching table).length)]

/-- The server may answer a statement with these rows. -/
def MayGive (table rows : List Row) : Prop :=
  ∃ listing, s.Arranges table listing ∧ rows = (s.pageOf listing).map (Row.project s.columns)

end Select

/-- A talk to the server is this statement, and comes to this result if it is answered with this
reply. -/
def Talk.Gives {α : Type} (p : Talk α) (s : Statement) (reply : Reply) (a : α) : Prop :=
  ∀ rest sent, p { replies := reply :: rest, sent } = (a, { replies := rest, sent := sent ++ [s] })

end Ingestion.Sql
