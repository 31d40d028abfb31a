/-!
# Text

Blank text, fields separated by blanks, and whole numbers as they are typed.

A character is *white* when Unicode gives it the property `White_Space`. Numbers are decimal
digits of the ASCII range only, with any number of leading zeros and at most one sign.
-/

namespace Ingestion.Text

/-- The characters with the Unicode property `White_Space`. -/
def isWhite (c : Char) : Bool :=
  let n := c.toNat
  (9 ≤ n && n ≤ 13) || n == 0x20 || n == 0x85 || n == 0xA0 || n == 0x1680
    || (0x2000 ≤ n && n ≤ 0x200A) || n == 0x2028 || n == 0x2029 || n == 0x202F
    || n == 0x205F || n == 0x3000

/-- A text without any character that is not white. -/
def isBlank (s : String) : Bool :=
  s.toList.all isWhite

/-- Whether neither the first nor the last character is white. -/
def isTrimmed (s : String) : Bool :=
  !(s.toList.head?.any isWhite) && !(s.toList.getLast?.any isWhite)

/-- The text without the white characters it starts with. -/
def trimStart (cs : List Char) : List Char :=
  cs.dropWhile isWhite

/-- The maximal runs of characters that are not white. `word` holds the characters of the run
being read, the last one first. -/
def fieldsFrom : List Char → List Char → List (List Char)
  | word, [] => if word.isEmpty then [] else [word.reverse]
  | word, c :: cs =>
    if isWhite c then
      if word.isEmpty then fieldsFrom [] cs else word.reverse :: fieldsFrom [] cs
    else fieldsFrom (c :: word) cs

/-- The maximal runs of characters that are not white, in order. -/
def fields (cs : List Char) : List (List Char) :=
  fieldsFrom [] cs

/-- The pieces between the occurrences of `sep`: one more than there are occurrences. -/
def splitAt (sep : Char) : List Char → List (List Char)
  | [] => [[]]
  | c :: cs =>
    if c = sep then [] :: splitAt sep cs
    else match splitAt sep cs with
      | piece :: rest => (c :: piece) :: rest
      | [] => [[c]]

/-- Replaces every occurrence of `old`, from the left and without overlap. An empty `old` has no
occurrence. `skip` counts the characters still to be dropped of the occurrence just met. -/
def replaceFrom (old new : List Char) : Nat → List Char → List Char
  | _, [] => []
  | skip + 1, _ :: cs => replaceFrom old new skip cs
  | 0, c :: cs =>
    if !old.isEmpty && old.isPrefixOf (c :: cs) then
      new ++ replaceFrom old new (old.length - 1) cs
    else c :: replaceFrom old new 0 cs

/-- Replaces every occurrence of `old` by `new`, from the left and without overlap. -/
def replace (old new : List Char) (cs : List Char) : List Char :=
  replaceFrom old new 0 cs

/-! ## ASCII case -/

/-- The text with the letters `A` to `Z` in lower case. -/
def lower (cs : List Char) : List Char :=
  cs.map Char.toLower

/-- The text with the letters `a` to `z` in upper case. -/
def upper (s : String) : String :=
  String.ofList (s.toList.map Char.toUpper)

/-- Equality that takes no notice of the case of ASCII letters. -/
def sameUpToCase (a b : List Char) : Bool :=
  lower a == lower b

/-! ## Whole numbers -/

/-- The value of an ASCII digit. -/
def digitValue (c : Char) : Nat :=
  c.toNat - '0'.toNat

/-- The number that a run of ASCII digits stands for, in base ten. -/
def ofDigits (cs : List Char) : Nat :=
  cs.foldl (fun n c => 10 * n + digitValue c) 0

/-- Reads a text made of ASCII digits alone, at least one. -/
def digits? (cs : List Char) : Option Nat :=
  if !cs.isEmpty && cs.all Char.isDigit then some (ofDigits cs) else none

/-- Reads ASCII digits, at least one, after at most one plus sign. -/
def natural? : List Char → Option Nat
  | '+' :: cs => digits? cs
  | cs => digits? cs

/-- Reads ASCII digits, at least one, after at most one sign. -/
def integer? : List Char → Option Int
  | '-' :: cs => (digits? cs).map fun n => -(n : Int)
  | cs => (natural? cs).map fun n => (n : Int)

/-- Reads a number as `natural?` does, up to `limit`. -/
def bounded? (limit : Nat) (cs : List Char) : Option Nat :=
  (natural? cs).filter (· ≤ limit)

/-- The value of a hexadecimal digit, in either case. -/
def hexValue? (c : Char) : Option Nat :=
  if c.isDigit then some (c.toNat - '0'.toNat)
  else if 'a' ≤ c && c ≤ 'f' then some (c.toNat - 'a'.toNat + 10)
  else if 'A' ≤ c && c ≤ 'F' then some (c.toNat - 'A'.toNat + 10)
  else none

/-- The hexadecimal digit of a value below sixteen, in lower case. -/
def hexDigit (n : Nat) : Char :=
  if n < 10 then Char.ofNat ('0'.toNat + n) else Char.ofNat ('a'.toNat + (n - 10))

/-- The `width` hexadecimal digits of `n`, the most significant first. -/
def hexDigits : Nat → Nat → List Char
  | 0, _ => []
  | width + 1, n => hexDigit (n / Nat.pow 16 width % 16) :: hexDigits width n

/-- The number that hexadecimal digits stand for, or `none` if one of them is no such digit. -/
def ofHex? (cs : List Char) : Option Nat :=
  cs.foldlM (fun n c => (hexValue? c).map (16 * n + ·)) 0

/-- The `width` decimal digits of `n`, the most significant first. Higher digits are dropped. -/
def paddedDigits : Nat → Nat → List Char
  | 0, _ => []
  | width + 1, n => Char.ofNat ('0'.toNat + n / Nat.pow 10 width % 10) :: paddedDigits width n

end Ingestion.Text
