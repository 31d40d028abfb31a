import Ingestion.Text

/-!
# Fields of a cron expression

A field gives marks to values. The mark `all` lets a value match wherever it occurs, `nth n` only
at its n-th occurrence in a month, `last` only at its last one, and `closest` on the weekday
closest to it. Not every unit of time takes every mark.

A field is either `*` or a list of parts with commas between them. `Part.read` says for each form
of a part which values it marks, or what is wrong with it.
-/

namespace Ingestion.Cron

/-! ## Marks -/

/-- How a value of a field matches. -/
inductive Mark where
  /-- Wherever the value occurs. -/
  | all
  /-- At the n-th occurrence of the value in a month. -/
  | nth (n : Nat)
  /-- At the last occurrence of the value in a month. -/
  | last
  /-- On the weekday closest to the value. -/
  | closest
deriving DecidableEq, Repr, Inhabited

/-- The bit that stands for a mark in messages. -/
def Mark.bit : Mark → Nat
  | .all => 1
  | .nth n => Nat.pow 2 n
  | .last => 64
  | .closest => 128

/-- What the fields count, in the order in which an expression lists them. -/
inductive Slot where
  | minute | hour | day | month | weekday
deriving DecidableEq, Repr, Inhabited

namespace Slot

/-- The least value of a field. -/
def least : Slot → Nat
  | minute | hour | weekday => 0
  | day | month => 1

/-- The greatest value of a field. Both 0 and 7 stand for Sunday. -/
def greatest : Slot → Nat
  | minute => 59
  | hour => 23
  | day => 31
  | month => 12
  | weekday => 7

/-- Whether a field takes a mark. -/
def takes : Slot → Mark → Bool
  | _, .all | _, .last => true
  | slot, .nth _ => slot == weekday
  | slot, .closest => slot == day

/-- The bits of all marks that a field takes. -/
def bits : Slot → Nat
  | weekday => 0b01111111
  | day => 0b11000001
  | _ => 0b01000001

end Slot

/-! ## What may be wrong with a part -/

/-- What is wrong with a part of a field. -/
inductive PartFault where
  | nthNotNumber
  | nthOutOfBounds
  | stepShape
  | stepNotNumber
  | stepZero
  | stepRangeShape
  | stepRangeStart
  | stepRangeEnd
  | stepStart
  | stepOutOfBounds
  | stepOverflow
  | rangeShape
  | rangeStart
  | rangeEnd
  | rangeOutOfBounds
  | closestNotNumber
  | closestOutOfBounds
  | nthNotAllowed
  | lastNotAllowed
  | notNumber
  | outOfBounds
  /-- The field does not take the mark. -/
  | markNotTaken (mark : Mark) (slot : Slot)
deriving DecidableEq, Repr, Inhabited

/-- The eight binary digits of a number, the most significant first. -/
def binary (n : Nat) : String :=
  String.ofList ((List.range 8).map fun i => if n.testBit (7 - i) then '1' else '0')

/-- The text that tells what is wrong with a part. -/
def PartFault.message : PartFault → String
  | nthNotNumber => "Invalid nth specifier."
  | nthOutOfBounds => "Nth specifier out of bounds."
  | stepShape => "Invalid stepped range syntax."
  | stepNotNumber => "Invalid step."
  | stepZero => "Step cannot be zero."
  | stepRangeShape => "Invalid range syntax in stepping."
  | stepRangeStart => "Invalid range start."
  | stepRangeEnd => "Invalid range end."
  | stepStart => "Invalid start."
  | stepOutOfBounds => "Range is out of bounds in stepping."
  | stepOverflow => "Value exceeded max after stepping."
  | rangeShape => "Invalid range syntax."
  | rangeStart => "Invalid start of range."
  | rangeEnd => "Invalid end of range."
  | rangeOutOfBounds => "Range out of bounds."
  | closestNotNumber => "Invalid day for closest weekday."
  | closestOutOfBounds => "Day for closest weekday out of bounds."
  | nthNotAllowed => "Nth specifier # not allowed in the current field."
  | lastNotAllowed => "L not allowed in the current field."
  | notNumber => "Invalid number."
  | outOfBounds => "Number out of bounds."
  | markNotTaken mark slot =>
    "Bit 0b" ++ binary mark.bit ++ " is not supported by the current features 0b"
      ++ binary slot.bits ++ "."

/-! ## Parts -/

/-- What a part of a field says. -/
structure Part where
  /-- The values it marks. -/
  values : List Nat
  /-- The mark it gives them. -/
  mark : Mark
  /-- Whether it asks for the last day of the month. -/
  lastDay : Bool := false
deriving DecidableEq, Repr, Inhabited

namespace Part

/-- Reads a number of one byte. -/
def number (cs : List Char) (fault : PartFault) : Except PartFault Nat :=
  match Text.bounded? 255 cs with
  | some n => .ok n
  | none => .error fault

/-- The mark that the end of a part asks for: `L` or a number after `#`. -/
def markOf (cs : List Char) : Except PartFault Mark :=
  if cs.getLast?.any fun c => c == 'l' || c == 'L' then .ok .last
  else
    match cs.dropWhile (· != '#') with
    | [] => .ok .all
    | _ :: rest => do
      let n ← number rest .nthNotNumber
      if 1 ≤ n ∧ n ≤ 5 then .ok (.nth n) else .error .nthOutOfBounds

/-- The part without its `#` and what follows. -/
def strip (cs : List Char) : List Char :=
  cs.takeWhile (· != '#')

/-- Gives a mark to values, if the field takes it. -/
def marking (slot : Slot) (mark : Mark) (values : List Nat) : Except PartFault Part :=
  if slot.takes mark then .ok { values, mark } else .error (.markNotTaken mark slot)

/-- The values from `start` to `stop` in steps. The last step must not lead beyond a byte. -/
def steps (start stop step : Nat) : Except PartFault (List Nat) :=
  let values := (List.range ((stop - start) / step + 1)).map fun i => start + i * step
  if start + ((stop - start) / step + 1) * step ≤ 255 then .ok values else .error .stepOverflow

/-- Reads a part with a slash: a step through a range, from a value on, or through all
values. -/
def readStepped (slot : Slot) (cs : List Char) : Except PartFault Part := do
  let mark ← markOf cs
  match Text.splitAt '/' (strip cs) with
  | [left, right] => do
    let step ← number right .stepNotNumber
    if step = 0 then throw .stepZero
    let (start, stop) ←
      if left = ['*'] then pure (slot.least, slot.greatest)
      else if left.contains '-' then
        match Text.splitAt '-' left with
        | [a, b] => do
          let start ← number a .stepRangeStart
          let stop ← number b .stepRangeEnd
          pure (start, stop)
        | _ => throw .stepRangeShape
      else do
        let start ← number left .stepStart
        pure (start, slot.greatest)
    if start < slot.least ∨ slot.greatest < stop ∨ stop < start then throw .stepOutOfBounds
    let part ← marking slot mark []
    return { part with values := ← steps start stop step }
  | _ => throw .stepShape

/-- Reads a part with a hyphen: a range. -/
def readRange (slot : Slot) (cs : List Char) : Except PartFault Part := do
  let mark ← markOf cs
  match Text.splitAt '-' (strip cs) with
  | [a, b] => do
    let start ← number a .rangeStart
    let stop ← number b .rangeEnd
    if stop < start ∨ start < slot.least ∨ slot.greatest < stop then throw .rangeOutOfBounds
    marking slot mark (List.range' start (stop + 1 - start))
  | _ => throw .rangeShape

/-- Reads a part with a `w`: the weekday closest to a day. What follows the `w` is passed
over. -/
def readClosest (slot : Slot) (cs : List Char) : Except PartFault Part := do
  let day ← number (cs.takeWhile (· != 'w')) .closestNotNumber
  if day < slot.least ∨ slot.greatest < day then throw .closestOutOfBounds
  marking slot .closest [day]

/-- Reads a part that is one value, perhaps with an `L` or `#` after it. -/
def readValue (slot : Slot) (cs : List Char) : Except PartFault Part := do
  let cs := cs.map fun c => if c = 'l' then 'L' else c
  let cs :=
    if cs.getLast? = some 'L' ∧ !cs.contains '#' then Text.replace ['L'] ['#', 'L'] cs else cs
  if cs.contains '#' ∧ slot ≠ .weekday then throw .nthNotAllowed
  if cs.contains 'L' ∧ slot ≠ .weekday then throw .lastNotAllowed
  let mark ← markOf cs
  let value ← number (strip cs) .notNumber
  if value < slot.least ∨ slot.greatest < value then throw .outOfBounds
  marking slot mark [value]

/-- Reads a part. The first form whose sign it has is the one that counts. -/
def read (slot : Slot) (cs : List Char) : Except PartFault Part :=
  if cs.contains '/' then readStepped slot cs
  else if cs.contains '-' then readRange slot cs
  else if cs.contains 'w' then readClosest slot cs
  else if cs = ['l'] then .ok { values := [], mark := .last, lastDay := true }
  else readValue slot cs

end Part

/-! ## Fields -/

/-- The marks that a field gives. -/
structure Field where
  marks : List (Nat × Mark)
  /-- Whether the last day of the month is asked for. -/
  lastDay : Bool
deriving DecidableEq, Repr, Inhabited

namespace Field

/-- Whether the field gives a mark to a value. -/
def has (f : Field) (value : Nat) (mark : Mark) : Bool :=
  f.marks.contains (value, mark)

/-- The field that its parts make. -/
def ofParts (parts : List Part) : Field where
  marks := parts.flatMap fun p => p.values.map fun v => (v, p.mark)
  lastDay := parts.any (·.lastDay)

/-- The values of a field. -/
def values (slot : Slot) : List Nat :=
  List.range' slot.least (slot.greatest + 1 - slot.least)

/-- Reads a field. Empty parts are passed over. -/
def read (slot : Slot) (cs : List Char) : Except PartFault Field :=
  if cs = ['*'] then .ok { marks := (values slot).map fun v => (v, .all), lastDay := false }
  else do
    let parts ← ((Text.splitAt ',' cs).filter fun p => !p.isEmpty).mapM (Part.read slot)
    return ofParts parts

end Field

end Ingestion.Cron
