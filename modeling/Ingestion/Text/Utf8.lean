/-!
# UTF-8

Decoding of bytes. Bytes that begin a character but break off before its end, and bytes that
begin none, are faults.
-/

namespace Ingestion.Utf8

/-- The bytes of a text. -/
def encode (cs : List Char) : List Nat :=
  cs.flatMap fun c => (String.utf8EncodeChar c).map UInt8.toNat

/-- A character that has been begun. -/
structure Begun where
  /-- The bits read so far. -/
  bits : Nat
  /-- The number of bytes still to come. -/
  left : Nat
  /-- The least value of the next byte. -/
  low : Nat := 0x80
  /-- The greatest value of the next byte. -/
  high : Nat := 0xBF

/-- The character that a byte begins, if it begins one of several bytes. -/
def begun? (b : Nat) : Option Begun :=
  if 0xC2 ≤ b ∧ b ≤ 0xDF then some { bits := b - 0xC0, left := 1 }
  else if b = 0xE0 then some { bits := 0, left := 2, low := 0xA0 }
  else if b = 0xED then some { bits := 0xD, left := 2, high := 0x9F }
  else if 0xE1 ≤ b ∧ b ≤ 0xEF then some { bits := b - 0xE0, left := 2 }
  else if b = 0xF0 then some { bits := 0, left := 3, low := 0x90 }
  else if 0xF1 ≤ b ∧ b ≤ 0xF3 then some { bits := b - 0xF0, left := 3 }
  else if b = 0xF4 then some { bits := 4, left := 3, high := 0x8F }
  else none

/-- Reads a byte between two characters. The result holds what is complete, a fault being
`none`, and what is begun. -/
def beginWith (b : Nat) : List (Option Char) × Option Begun :=
  if b < 0x80 then ([some (Char.ofNat b)], none)
  else
    match begun? b with
    | some p => ([], some p)
    | none => ([none], none)

/-- Reads a byte. -/
def step (p : Option Begun) (b : Nat) : List (Option Char) × Option Begun :=
  match p with
  | none => beginWith b
  | some p =>
    if p.low ≤ b ∧ b ≤ p.high then
      let bits := p.bits * 0x40 + (b - 0x80)
      if p.left = 1 then ([some (Char.ofNat bits)], none)
      else ([], some { bits, left := p.left - 1 })
    else
      let (out, next) := beginWith b
      (none :: out, next)

/-- Decodes bytes after what has been begun. A fault is `none`. -/
def decodeFrom : Option Begun → List Nat → List (Option Char)
  | none, [] => []
  | some _, [] => [none]
  | p, b :: rest =>
    let (out, next) := step p b
    out ++ decodeFrom next rest

/-- Decodes bytes. A fault is `none`. -/
def decode (bytes : List Nat) : List (Option Char) :=
  decodeFrom none bytes

/-- Decodes bytes without any fault. -/
def decode? (bytes : List Nat) : Option String :=
  ((decode bytes).mapM id).map String.ofList

/-- Decodes bytes, with the replacement character for each fault. -/
def decodeLossy (bytes : List Nat) : String :=
  String.ofList ((decode bytes).map (·.getD (Char.ofNat 0xFFFD)))

end Ingestion.Utf8
