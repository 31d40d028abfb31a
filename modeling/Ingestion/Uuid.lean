import Ingestion.Table
import Ingestion.Text

/-!
# Identifiers

A universally unique identifier is a number of 128 bits. It is written in hexadecimal digits, in
lower case, in five groups of 8, 4, 4, 4 and 12 digits with hyphens between them. Reading also
accepts digits of either case, the digits without any hyphen, and the hyphenated form in braces
or after `urn:uuid:`, which may be in either case too. Identifiers are ordered as numbers, which is
the order of their texts.
-/

namespace Ingestion

/-- The number of identifiers, which have 128 bits. -/
def Uuid.count : Nat := 0x100000000000000000000000000000000

/-- A universally unique identifier. -/
structure Uuid where
  value : Nat
  isLt : value < Uuid.count
deriving DecidableEq

namespace Uuid

instance : Inhabited Uuid := ⟨⟨0, by decide⟩⟩

instance : LT Uuid := ⟨fun a b => a.value < b.value⟩

theorem lt_iff {a b : Uuid} : a < b ↔ a.value < b.value :=
  Iff.rfl

theorem ext_value {a b : Uuid} (h : a.value = b.value) : a = b := by
  cases a; cases b; cases h; rfl

instance : KeyOrder Uuid where
  decidableLT a b := Nat.decLt a.value b.value
  decidableEq := inferInstance
  irrefl a := Nat.lt_irrefl a.value
  trans hab hbc := Nat.lt_trans (lt_iff.1 hab) (lt_iff.1 hbc)
  connected hab hba := ext_value (KeyOrder.connected hab hba)

/-- The identifier of a number, whose bits above the lowest 128 are dropped. -/
def ofNat (n : Nat) : Uuid :=
  ⟨n % count, Nat.mod_lt _ (by decide)⟩

/-- The written form of an identifier. -/
def toText (u : Uuid) : String :=
  let digits := Text.hexDigits 32 u.value
  String.ofList <|
    digits.take 8 ++ '-' :: (digits.drop 8).take 4 ++ '-' :: (digits.drop 12).take 4
      ++ '-' :: (digits.drop 16).take 4 ++ '-' :: digits.drop 20

/-- Reads 32 hexadecimal digits. -/
def ofDigits? (digits : List Char) : Option Uuid :=
  if digits.length = 32 then (Text.ofHex? digits).map ofNat else none

/-- Reads the five groups of digits with hyphens between them. -/
def ofHyphenated? (cs : List Char) : Option Uuid :=
  match Text.splitAt '-' cs with
  | [a, b, c, d, e] =>
    if a.length = 8 ∧ b.length = 4 ∧ c.length = 4 ∧ d.length = 4 ∧ e.length = 12 then
      ofDigits? (a ++ b ++ c ++ d ++ e)
    else none
  | _ => none

/-- The name of the space of identifiers, which may stand before one. -/
def namespaceName : List Char :=
  ['u', 'r', 'n', ':', 'u', 'u', 'i', 'd', ':']

/-- Reads an identifier in any of its forms. -/
def ofText? (s : String) : Option Uuid :=
  let cs := s.toList
  if cs.length = 32 then ofDigits? cs
  else if Text.sameUpToCase namespaceName (cs.take namespaceName.length) then
    ofHyphenated? (cs.drop namespaceName.length)
  else match cs with
    | '\x7b' :: rest =>
      if rest.getLast? = some '\x7d' then ofHyphenated? rest.dropLast else none
    | _ => ofHyphenated? cs

end Uuid

end Ingestion
