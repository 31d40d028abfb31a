import Ingestion.Text
import Ingestion.Text.Utf8

/-!
# Percent encoding

A `%` with two hexadecimal digits stands for a byte. Any other `%` stands for itself.
-/

namespace Ingestion.Http.Percent

/-- The bytes that a text stands for. -/
def decode : List Char → List Nat
  | [] => []
  | [a] => Utf8.encode [a]
  | [a, b] => Utf8.encode [a, b]
  | '%' :: a :: b :: rest =>
    match Text.hexValue? a, Text.hexValue? b with
    | some high, some low => (16 * high + low) :: decode rest
    | _, _ => Utf8.encode ['%'] ++ decode (a :: b :: rest)
  | c :: rest => Utf8.encode [c] ++ decode rest

end Ingestion.Http.Percent
