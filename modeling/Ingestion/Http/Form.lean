import Ingestion.Blueprint.Query
import Ingestion.Http.Percent

/-!
# Query strings

A query string is a list of pairs with `&` between them, each with `=` between its key and its
value. `+` stands for a space, and bytes that are no UTF-8 for the replacement character.

`queryOfForm?` reads the query for blueprints off a query string. Keys it does not know are
passed over; a key given twice or a value of another kind makes the string invalid.
-/

namespace Ingestion.Http

/-- The text that a part of a pair stands for. -/
def formText (cs : List Char) : String :=
  Utf8.decodeLossy (Percent.decode (cs.map fun c => if c = '+' then ' ' else c))

/-- The pair that a piece stands for. Without `=` its value is empty. -/
def formPair (cs : List Char) : String × String :=
  (formText (cs.takeWhile (· != '=')), formText ((cs.dropWhile (· != '=')).drop 1))

/-- The pairs of a query string. Empty pieces are passed over. -/
def formPairs (cs : List Char) : List (String × String) :=
  ((Text.splitAt '&' cs).filter fun piece => !piece.isEmpty).map formPair

/-- The value of a key that may be given once and has to be read by `read?`. The outer option is
`none` if the pairs break this rule. -/
def formValue? {α : Type} (pairs : List (String × String)) (key : String)
    (read? : String → Option α) : Option (Option α) :=
  match pairs.filter (·.1 == key) with
  | [] => some none
  | [(_, value)] => (read? value).map some
  | _ => none

/-- Reads a boolean. -/
def formBool? : String → Option Bool
  | "true" => some true
  | "false" => some false
  | _ => none

/-- Reads an unsigned 32-bit number. -/
def formUInt32? (s : String) : Option UInt32 :=
  (Text.bounded? (UInt32.size - 1) s.toList).map UInt32.ofNat

/-- Reads a query off a query string. -/
def queryOfForm? (cs : List Char) : Option Query := do
  let pairs := formPairs cs
  let enable ← formValue? pairs "enable" formBool?
  let isManual ← formValue? pairs "is_manual" formBool?
  let label ← formValue? pairs "label" some
  let category ← formValue? pairs "type" Category.ofName?
  let page ← formValue? pairs "page" formUInt32?
  let pageSize ← formValue? pairs "page_size" formUInt32?
  return { enable, isManual, label, category := category.getD .all, page, pageSize }

end Ingestion.Http
