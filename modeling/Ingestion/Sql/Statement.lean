import Ingestion.Sql.Datum

/-!
# Statements

Statements are kept as trees. `toStatement` prints a tree as the text that is sent, with numbered
places for the parameters, and `Condition.holds` says what a condition means for a row.
-/

namespace Ingestion.Sql

/-- A statement as it is sent: a text with the places `$1`, `$2` and so on, and the parameters
for these places in order. -/
structure Statement where
  text : String
  params : List Param := []
deriving Inhabited

/-! ## Fragments -/

/-- A piece of a statement. -/
inductive Piece where
  /-- Text that is sent as it is. -/
  | text (s : String)
  /-- A place for a parameter. -/
  | place (p : Param)

/-- The text of pieces, the first place of which has the number `index`. -/
def Piece.render : Nat → List Piece → String
  | _, [] => ""
  | index, .text s :: rest => s ++ render index rest
  | index, .place _ :: rest => "$" ++ toString index ++ render (index + 1) rest

/-- The parameters of pieces in order. -/
def Piece.params : List Piece → List Param
  | [] => []
  | .text _ :: rest => params rest
  | .place p :: rest => p :: params rest

/-- The statement of pieces. -/
def Statement.ofPieces (pieces : List Piece) : Statement where
  text := Piece.render 1 pieces
  params := Piece.params pieces

/-- Pieces with a text between them. -/
def Piece.join (separator : String) : List (List Piece) → List Piece
  | [] => []
  | [pieces] => pieces
  | pieces :: rest => pieces ++ .text separator :: join separator rest

/-! ## Conditions -/

/-- Something that has a datum in a row. -/
inductive Operand where
  /-- The datum of a column. -/
  | column (name : String)
  /-- A datum that is sent as a parameter. -/
  | param (d : Datum)
  /-- A datum that is written in the statement. -/
  | literal (text : String) (d : Datum)

namespace Operand

/-- The pieces of an operand. -/
def pieces : Operand → List Piece
  | column name => [.text name]
  | param d => [.place (.value d)]
  | literal text _ => [.text text]

/-- The datum of an operand in a row, none for `NULL`. -/
def eval (row : Row) : Operand → Option Datum
  | column name => row.lookup name
  | param d => some d
  | literal _ d => some d

end Operand

/-- The number one, as it is written. -/
def one : Operand :=
  .literal "1" (.int4 1)

/-- A boolean, as it is written. -/
def boolean (b : Bool) : Operand :=
  .literal (if b then "TRUE" else "FALSE") (.bool b)

/-- A condition on rows. -/
inductive Condition where
  | equal (a b : Operand)
  /-- The operand is equal to an item of the array in a column. -/
  | equalAny (a : Operand) (column : String)
  /-- The operand is equal to none of the list. -/
  | notIn (a : Operand) (list : List Operand)

namespace Condition

/-- The pieces of a condition. -/
def pieces : Condition → List Piece
  | equal a b => a.pieces ++ .text " = " :: b.pieces
  | equalAny a column => a.pieces ++ [.text (" = ANY(" ++ column ++ ")")]
  | notIn a list =>
    a.pieces ++ .text " NOT IN (" :: Piece.join ", " (list.map Operand.pieces) ++ [.text ")"]

/-- Whether two operands have equal data in a row, none of them `NULL`. -/
def same (row : Row) (a b : Operand) : Bool :=
  match a.eval row, b.eval row with
  | some x, some y => x.equals y
  | _, _ => false

/-- Whether a condition is true of a row without `NULL`. -/
def holds (row : Row) : Condition → Bool
  | equal a b => same row a b
  | equalAny a column =>
    match a.eval row, row.lookup column with
    | some (.text s), some (.textArray items) => items.contains (some s)
    | _, _ => false
  | notIn a list => !list.any (same row a)

end Condition

/-- The pieces of conditions that have to hold together. -/
def wherePieces (conditions : List Condition) : List Piece :=
  .text " WHERE " :: Piece.join " AND " (conditions.map Condition.pieces)

/-! ## Kinds of statements -/

/-- A column to sort by. -/
structure SortKey where
  column : String
  descending : Bool := false
deriving DecidableEq, Repr

/-- The text of a column to sort by. -/
def SortKey.text (k : SortKey) : String :=
  if k.descending then k.column ++ " DESC" else k.column

/-- Names with commas between them. -/
def commaSeparated (names : List String) : String :=
  String.intercalate ", " names

/-- A statement that reads rows. -/
structure Select where
  columns : List String
  source : String
  conditions : List Condition
  order : List SortKey := []
  /-- The number of rows to give at most, and the number of rows to leave out before them. -/
  page : Option (Nat × Nat) := none

namespace Select

/-- The largest offset that can be sent. -/
def maxOffset : Nat := 9223372036854775807

/-- The pieces for the order of the rows. -/
def orderPieces (s : Select) : List Piece :=
  if s.order.isEmpty then []
  else [.text (" ORDER BY " ++ commaSeparated (s.order.map SortKey.text))]

/-- The pieces for the page. -/
def pagePieces (s : Select) : List Piece :=
  match s.page with
  | some (limit, offset) =>
    [.text " LIMIT ", .place (.value (.int8 limit)),
      .text " OFFSET ", .place (.value (.int8 (min offset maxOffset : Nat)))]
  | none => []

/-- The statement as it is sent. -/
def toStatement (s : Select) : Statement :=
  .ofPieces <|
    .text ("SELECT " ++ commaSeparated s.columns ++ " FROM " ++ s.source)
      :: wherePieces s.conditions ++ s.orderPieces ++ s.pagePieces

end Select

/-- A statement that writes a row. -/
structure Insert where
  target : String
  /-- The columns and what is written there. -/
  row : List (String × Param)
  /-- The columns that are written over if there already is a row with the same `id`. -/
  overwrites : Option (List String) := none

namespace Insert

/-- The text for a row that already exists. -/
def conflictText : Option (List String) → String
  | none => ""
  | some columns =>
    " ON CONFLICT (id) DO UPDATE SET "
      ++ commaSeparated (columns.map fun c => c ++ " = EXCLUDED." ++ c)

/-- The statement as it is sent. -/
def toStatement (s : Insert) : Statement :=
  .ofPieces <|
    .text ("INSERT INTO " ++ s.target ++ " ( " ++ commaSeparated (s.row.map (·.1))
        ++ " ) VALUES (")
      :: Piece.join ", " (s.row.map fun c => [.place c.2])
      ++ [.text (")" ++ conflictText s.overwrites)]

end Insert

/-- A statement that deletes rows. -/
structure Delete where
  target : String
  conditions : List Condition

/-- The statement as it is sent. -/
def Delete.toStatement (s : Delete) : Statement :=
  .ofPieces (.text ("DELETE FROM " ++ s.target) :: wherePieces s.conditions)

end Ingestion.Sql
