import Ingestion.Json.Document
import Ingestion.Text

/-!
# Reading JSON

`Document.read` makes the document of a JSON text, up to the first fault, and tells whether the
text ends where its value does. `Json.read?` accepts only a text without any fault.

The text follows the strict grammar: no blank but space, tab, line feed and carriage return, no
trailing comma, no leading zero, no control character inside quotation marks. Arrays and objects
may stand inside each other up to a depth of `depthLimit`.
-/

namespace Ingestion.Json

/-- The deepest nesting of arrays and objects that can be read. -/
def depthLimit : Nat := 127

/-- The text without the blanks it starts with. -/
def skipBlanks (cs : List Char) : List Char :=
  cs.dropWhile fun c => c == ' ' || c == '\n' || c == '\t' || c == '\r'

/-! ## Text between quotation marks -/

/-- The number that four hexadecimal digits stand for. -/
def hex4? (a b c d : Char) : Option Nat :=
  Text.ofHex? [a, b, c, d]

/-- What has been read of a text between quotation marks. -/
structure Quotation where
  /-- The characters read, the last one first. -/
  read : List Char := []
  /-- The first half of a surrogate pair whose second half has to follow. -/
  pending : Option Nat := none
  /-- Whether every escape so far stands for a character. -/
  faithful : Bool := true

namespace Quotation

/-- Adds a character. A first half of a surrogate pair that waits has no second half then. -/
def push (q : Quotation) (c : Char) : Quotation :=
  { read := c :: q.read, pending := none, faithful := q.faithful && q.pending.isNone }

/-- Adds the UTF-16 unit of an escape. -/
def pushUnit (q : Quotation) (unit : Nat) : Quotation :=
  if 0xD800 ≤ unit ∧ unit ≤ 0xDBFF then
    { q with pending := some unit, faithful := q.faithful && q.pending.isNone }
  else if 0xDC00 ≤ unit ∧ unit ≤ 0xDFFF then
    match q.pending with
    | some high =>
      let c := Char.ofNat (0x10000 + (high - 0xD800) * 0x400 + (unit - 0xDC00))
      { q with read := c :: q.read, pending := none }
    | none => { q with faithful := false }
  else q.push (Char.ofNat unit)

/-- The text read, unless one of its escapes stands for no character. -/
def text? (q : Quotation) : Option String :=
  if q.faithful && q.pending.isNone then some (String.ofList q.read.reverse) else none

/-- Reads up to the closing quotation mark. The outer option is `none` if there is no such mark
or a fault stands before it; the inner one is `none` if an escape stands for no character. -/
def scan (q : Quotation) : List Char → Option (Option String × List Char)
  | [] => none
  | '"' :: rest => some (q.text?, rest)
  | '\\' :: 'u' :: a :: b :: c :: d :: rest =>
    match hex4? a b c d with
    | some unit => scan (q.pushUnit unit) rest
    | none => none
  | '\\' :: 'n' :: rest => scan (q.push '\n') rest
  | '\\' :: 't' :: rest => scan (q.push '\t') rest
  | '\\' :: 'r' :: rest => scan (q.push '\r') rest
  | '\\' :: 'b' :: rest => scan (q.push (Char.ofNat 8)) rest
  | '\\' :: 'f' :: rest => scan (q.push (Char.ofNat 12)) rest
  | '\\' :: c :: rest =>
    if c = '"' ∨ c = '\\' ∨ c = '/' then scan (q.push c) rest else none
  | c :: rest => if c.toNat < 32 then none else scan (q.push c) rest

end Quotation

/-! ## Numbers -/

/-- The parts of a number as it is written. -/
structure Numeral where
  negative : Bool
  whole : List Char
  /-- The digits after the point, if there is one. -/
  fraction : Option (List Char)
  /-- The sign and the digits after the letter `e`, if there is one. -/
  exponent : Option (Bool × List Char)

namespace Numeral

/-- Splits off a number. The result is `none` if the text does not start with one. -/
def scan? (cs : List Char) : Option (Numeral × List Char) := do
  let (negative, cs) := match cs with
    | '-' :: rest => (true, rest)
    | rest => (false, rest)
  let whole := cs.takeWhile Char.isDigit
  let cs := cs.dropWhile Char.isDigit
  guard (!whole.isEmpty && (whole.length == 1 || whole.head? != some '0'))
  let (fraction, cs) ← match cs with
    | '.' :: rest =>
      let digits := rest.takeWhile Char.isDigit
      if digits.isEmpty then none else some (some digits, rest.dropWhile Char.isDigit)
    | rest => some (none, rest)
  let (exponent, cs) ← match cs with
    | c :: rest =>
      if c = 'e' ∨ c = 'E' then
        let (minus, rest) := match rest with
          | '-' :: rest => (true, rest)
          | '+' :: rest => (false, rest)
          | rest => (false, rest)
        let digits := rest.takeWhile Char.isDigit
        if digits.isEmpty then none else some (some (minus, digits), rest.dropWhile Char.isDigit)
      else some (none, c :: rest)
    | [] => some (none, [])
  return (⟨negative, whole, fraction, exponent⟩, cs)

/-- Reads on digits after those that stand for `n`, as long as the number has 64 bits. The result
is the number with the digits that are left. -/
def readDigits : Nat → List Char → Nat × List Char
  | n, [] => (n, [])
  | n, c :: cs =>
    let next := 10 * n + Text.digitValue c
    if next < UInt64.size then readDigits next cs else (n, c :: cs)

/-- The number of a numeral that has a fraction or an exponent, or a whole part beyond the
64-bit range. It is `none` if its magnitude is out of the range of doubles. Only the first digits
count, as many as make a number of 64 bits; the digits of the whole part that are dropped still
count for the place of the point. -/
def double? (n : Numeral) : Option Number :=
  let (significand, dropped) := readDigits 0 n.whole
  let fraction := n.fraction.getD []
  let (significand, ignored) := readDigits significand fraction
  let power : Int := match n.exponent with
    | some (minus, ds) => if minus then -(Text.ofDigits ds : Int) else Text.ofDigits ds
    | none => 0
  let places : Int := dropped.length + ignored.length - fraction.length
  (Double.ofScientific? significand (places + power)).map (.double n.negative)

/-- The number of a numeral. Only digits without fraction and exponent make a whole number, and
only in the range of signed or unsigned 64-bit words; minus zero is none. -/
def number? (n : Numeral) : Option Number :=
  match n.fraction, n.exponent with
  | none, none =>
    let magnitude := Text.ofDigits n.whole
    if n.negative then
      if 0 < magnitude ∧ magnitude ≤ UInt64.size / 2 then some (.int (-magnitude)) else n.double?
    else if magnitude < UInt64.size then some (.int magnitude) else n.double?
  | _, _ => n.double?

end Numeral

/-! ## Values -/

namespace Document

/-- A document with the text after it. There is no such text if the document breaks off. -/
abbrev Reading : Type :=
  Document × Option (List Char)

/-- A document that cannot be read at all. -/
def broken : Reading :=
  (.unreadable false, none)

/-- An array or object that stands inside `depth` others. -/
def nested (depth : Nat) (d : Document) : Document :=
  if depth < depthLimit then d else .unreadable d.isSkippable

mutual

/-- Reads the value at the start of the text, inside `depth` arrays and objects. Every call takes
one unit of `fuel`. -/
def readValue : Nat → Nat → List Char → Reading
  | 0, _, _ => broken
  | fuel + 1, depth, cs =>
    match skipBlanks cs with
    | 'n' :: 'u' :: 'l' :: 'l' :: rest => (.null, some rest)
    | 't' :: 'r' :: 'u' :: 'e' :: rest => (.bool true, some rest)
    | 'f' :: 'a' :: 'l' :: 's' :: 'e' :: rest => (.bool false, some rest)
    | '"' :: rest =>
      match Quotation.scan {} rest with
      | some (some s, rest) => (.string s, some rest)
      | some (none, rest) => (.unreadable true, some rest)
      | none => broken
    | '[' :: rest =>
      match skipBlanks rest with
      | ']' :: rest => (nested depth (.array [] true), some rest)
      | rest =>
        let (items, after) := readItems fuel (depth + 1) rest
        (nested depth (.array items after.isSome), after)
    | '\x7b' :: rest =>
      match skipBlanks rest with
      | '\x7d' :: rest => (nested depth (.object [] true), some rest)
      | rest =>
        let (members, after) := readMembers fuel (depth + 1) rest
        (nested depth (.object members after.isSome), after)
    | cs =>
      match Numeral.scan? cs with
      | some (n, rest) =>
        (match n.number? with
          | some n => .number n
          | none => .unreadable true, some rest)
      | none => broken

/-- Reads the items of an array from the first one on. -/
def readItems : Nat → Nat → List Char → List Document × Option (List Char)
  | 0, _, _ => ([], none)
  | fuel + 1, depth, cs =>
    match readValue fuel depth cs with
    | (d, none) => ([d], none)
    | (d, some rest) =>
      match skipBlanks rest with
      | ']' :: rest => ([d], some rest)
      | ',' :: rest =>
        let (items, after) := readItems fuel depth rest
        (d :: items, after)
      | _ => ([d], none)

/-- Reads the members of an object from the first one on. -/
def readMembers : Nat → Nat → List Char →
    List (Option String × Document) × Option (List Char)
  | 0, _, _ => ([], none)
  | fuel + 1, depth, cs =>
    match skipBlanks cs with
    | '"' :: rest =>
      match Quotation.scan {} rest with
      | none => ([], none)
      | some (name, rest) =>
        match skipBlanks rest with
        | ':' :: rest =>
          match readValue fuel depth rest with
          | (d, none) => ([(name, d)], none)
          | (d, some rest) =>
            match skipBlanks rest with
            | '\x7d' :: rest => ([(name, d)], some rest)
            | ',' :: rest =>
              let (members, after) := readMembers fuel depth rest
              ((name, d) :: members, after)
            | _ => ([(name, d)], none)
        | _ => ([(name, .unreadable false)], none)
    | _ => ([], none)

end

/-- The document of a text, and whether nothing but blanks follows its value. There are at most
two calls for each character, so the fuel does not run out. -/
def read (s : String) : Document × Bool :=
  let cs := s.toList
  let (d, after) := readValue (2 * cs.length + 2) 0 cs
  (d, after.any fun rest => (skipBlanks rest).isEmpty)

end Document

/-- The value of a text without any fault. -/
def read? (s : String) : Option Value :=
  match Document.read s with
  | (d, true) => d.toValue?
  | (_, false) => none

end Ingestion.Json
