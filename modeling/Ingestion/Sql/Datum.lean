import Ingestion.Json.Basic
import Ingestion.Time.Instant
import Ingestion.Uuid

/-!
# Data of the database

The data that statements carry to the database and rows carry back, each of a type of its own.
Any type has the value `NULL` besides.
-/

namespace Ingestion.Sql

/-- A type of data. -/
inductive DataType where
  | bool | int4 | int8 | text | textArray | timestamptz | uuid | jsonb
deriving DecidableEq, Repr, Inhabited

/-- The name of a type. -/
def DataType.name : DataType → String
  | bool => "bool"
  | int4 => "int4"
  | int8 => "int8"
  | text => "text"
  | textArray => "text[]"
  | timestamptz => "timestamptz"
  | uuid => "uuid"
  | jsonb => "jsonb"

/-- A datum that is not `NULL`. -/
inductive Datum where
  | bool (b : Bool)
  | int4 (n : Int)
  | int8 (n : Int)
  | text (s : String)
  /-- An array of texts, some of which may be `NULL`. -/
  | textArray (items : List (Option String))
  /-- An instant in whole microseconds. -/
  | timestamptz (t : Instant)
  | uuid (u : Uuid)
  | jsonb (j : Json)
deriving Inhabited

namespace Datum

/-- The type of a datum. -/
def type : Datum → DataType
  | bool _ => .bool
  | int4 _ => .int4
  | int8 _ => .int8
  | text _ => .text
  | textArray _ => .textArray
  | timestamptz _ => .timestamptz
  | uuid _ => .uuid
  | jsonb _ => .jsonb

/-- The datum of an instant, which is kept in whole microseconds. -/
def ofInstant (t : Instant) : Datum :=
  .timestamptz (t.toMicros?.getD t)

/-- Equality of data that are neither arrays nor documents. -/
def equals : Datum → Datum → Bool
  | bool a, bool b => a == b
  | int4 a, int4 b | int8 a, int8 b => a == b
  | text a, text b => a == b
  | timestamptz a, timestamptz b => a == b
  | uuid a, uuid b => a == b
  | _, _ => false

end Datum

/-- What a statement carries to the database in one place. -/
inductive Param where
  | value (d : Datum)
  | null (type : DataType)
deriving Inhabited

namespace Param

/-- The type of a parameter. -/
def type : Param → DataType
  | value d => d.type
  | null type => type

/-- The datum of a parameter, none for `NULL`. -/
def datum? : Param → Option Datum
  | value d => some d
  | null _ => none

/-- The parameter of a value that may be missing. -/
def ofOption {α : Type} (type : DataType) (datum : α → Datum) : Option α → Param
  | some a => .value (datum a)
  | none => .null type

end Param

/-- A row: data by the names of their columns. A column without a datum is `NULL`. -/
abbrev Row : Type :=
  List (String × Datum)

end Ingestion.Sql
