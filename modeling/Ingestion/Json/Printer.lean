import Ingestion.Json.Basic
import Ingestion.Text

/-!
# Printing JSON

A tree is printed without blanks, members in the order in which the tree lists them. Characters
outside ASCII are printed as they are. A number that is not whole is printed in the fewest digits
that stand for it, positionally if its first digit stands at most sixteen places before the point
or five after it, and with an exponent otherwise.
-/

namespace Ingestion.Json

/-- The text of a character inside quotation marks. -/
def escaped (c : Char) : List Char :=
  match c with
  | '"' => ['\\', '"']
  | '\\' => ['\\', '\\']
  | '\n' => ['\\', 'n']
  | '\r' => ['\\', 'r']
  | '\t' => ['\\', 't']
  | c =>
    if c.toNat = 8 then ['\\', 'b']
    else if c.toNat = 12 then ['\\', 'f']
    else if c.toNat < 32 then '\\' :: 'u' :: Text.hexDigits 4 c.toNat
    else [c]

/-- A text between quotation marks. -/
def quoted (s : String) : List Char :=
  '"' :: s.toList.flatMap escaped ++ ['"']

/-- The digits of a number that is not whole, with its point or exponent. `place` tells how many
digits stand before the point; it is negative for zeros right after the point. -/
def placed (digits : List Char) (place : Int) : List Char :=
  if (digits.length : Int) ≤ place ∧ place ≤ 16 then
    digits ++ List.replicate (place.toNat - digits.length) '0' ++ ['.', '0']
  else if 0 < place ∧ place ≤ 16 then
    digits.take place.toNat ++ '.' :: digits.drop place.toNat
  else if -5 < place ∧ place ≤ 0 then
    '0' :: '.' :: List.replicate (-place).toNat '0' ++ digits
  else
    let mantissa := match digits with
      | [d] => [d]
      | d :: rest => d :: '.' :: rest
      | [] => []
    mantissa ++ 'e' :: (toString (place - 1)).toList

/-- The text of a number. -/
def Number.render : Number → List Char
  | .int n => (toString n).toList
  | .double negative d =>
    let (digits, exponent) := d.shortest
    let text := (toString digits).toList
    (if negative then ['-'] else []) ++
      (if d.significand = 0 then ['0', '.', '0'] else placed text (text.length + exponent))

mutual

/-- The text of a tree. -/
def render : Json → List Char
  | .null => ['n', 'u', 'l', 'l']
  | .bool true => ['t', 'r', 'u', 'e']
  | .bool false => ['f', 'a', 'l', 's', 'e']
  | .number n => n.render
  | .string s => quoted s
  | .array items => '[' :: renderItems items
  | .object members => '\x7b' :: renderMembers members

/-- The texts of the items, with commas between them and the closing bracket. -/
def renderItems : List Json → List Char
  | [] => [']']
  | [j] => j.render ++ [']']
  | j :: rest => j.render ++ ',' :: renderItems rest

/-- The texts of the members, with commas between them and the closing brace. -/
def renderMembers : List (String × Json) → List Char
  | [] => ['\x7d']
  | [(name, j)] => quoted name ++ ':' :: j.render ++ ['\x7d']
  | (name, j) :: rest => quoted name ++ ':' :: j.render ++ ',' :: renderMembers rest

end

/-- The text of a tree. -/
def toText (j : Json) : String :=
  String.ofList j.render

end Ingestion.Json
