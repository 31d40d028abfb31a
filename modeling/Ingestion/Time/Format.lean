import Ingestion.Text
import Ingestion.Time.Instant

/-!
# Timestamps

An instant is written `YYYY-MM-DDTHH:MM:SSZ`, with a fraction of three, six or nine digits if
there is one, whichever is the fewest that hold it. A year outside 0 to 9999 is written with its
sign. A leap second is written as second 60.

Reading is more liberal: month, day, hour, minute and second may have one digit, the date may be
followed by a space, the fraction may have any number of digits, and an offset from universal
time may be given in place of `Z`. The instant is then the one in universal time. White
characters may stand before each number, before each hyphen of the date and each colon of the
time, and before and after the offset.
-/

namespace Ingestion

/-! ## Writing -/

namespace Date

/-- The text of a year: four digits, or a sign and at least four. -/
def yearText (year : Int) : List Char :=
  if 0 ≤ year ∧ year ≤ 9999 then Text.paddedDigits 4 year.toNat
  else
    let digits := (toString year.natAbs).toList
    (if year < 0 then '-' else '+') :: List.replicate (4 - digits.length) '0' ++ digits

/-- The text of a date. -/
def toText (d : Date) : List Char :=
  yearText d.year ++ '-' :: Text.paddedDigits 2 d.month ++ '-' :: Text.paddedDigits 2 d.day

end Date

namespace Instant

/-- The fraction of a second with its point, in the fewest of 0, 3, 6 and 9 digits. -/
def fractionText (nanos : Nat) : List Char :=
  if nanos = 0 then []
  else if nanos % 1000000 = 0 then '.' :: Text.paddedDigits 3 (nanos / 1000000)
  else if nanos % 1000 = 0 then '.' :: Text.paddedDigits 6 (nanos / 1000)
  else '.' :: Text.paddedDigits 9 nanos

/-- The text of an instant. -/
def toText (t : Instant) : String :=
  String.ofList <|
    t.date.toText ++ 'T' :: Text.paddedDigits 2 (t.second / 3600)
      ++ ':' :: Text.paddedDigits 2 (t.second / 60 % 60)
      ++ ':' :: Text.paddedDigits 2 (t.second % 60 + t.nanos / 1000000000)
      ++ fractionText (t.nanos % 1000000000) ++ ['Z']

end Instant

/-! ## Reading -/

/-- Reads something off the start of a text. -/
abbrev Scanner (α : Type) : Type :=
  StateT (List Char) Option α

namespace Scanner

/-- Reads one of the given characters. -/
def oneOf (cs : List Char) : Scanner Unit
  | [] => none
  | c :: rest => if cs.contains c then some ((), rest) else none

/-- Passes over white characters. -/
def skipWhite : Scanner Unit := fun cs =>
  some ((), Text.trimStart cs)

/-- Reads a mark between two numbers, after any white characters. -/
def separator (c : Char) : Scanner Unit := do
  skipWhite
  oneOf [c]

/-- Reads at least one digit and at most `most`. -/
def digits (most : Nat) : Scanner (List Char) := fun cs =>
  let ds := (cs.take most).takeWhile Char.isDigit
  if ds.isEmpty then none else some (ds, cs.drop ds.length)

/-- Reads a number of one digit or two, after any white characters. -/
def twoDigits : Scanner Nat := do
  skipWhite
  return Text.ofDigits (← digits 2)

/-- Reads a year, after any white characters: up to four digits, or any number of them after a
sign. -/
def year : Scanner Int := fun cs =>
  match Text.trimStart cs with
  | '-' :: rest => (digits rest.length rest).map fun (ds, rest) => (-(Text.ofDigits ds : Int), rest)
  | '+' :: rest => (digits rest.length rest).map fun (ds, rest) => ((Text.ofDigits ds : Int), rest)
  | rest => (digits 4 rest).map fun (ds, rest) => ((Text.ofDigits ds : Int), rest)

/-- Reads a date. -/
def date : Scanner Date := do
  let year ← year
  separator '-'
  let month ← twoDigits
  separator '-'
  let day ← twoDigits
  Date.of? year month day

/-- Reads the fraction of a second after its point, in nanoseconds. Digits after the ninth are
passed over. -/
def fraction : Scanner Nat := do
  let ds ← digits 9
  modify fun (cs : List Char) => cs.dropWhile Char.isDigit
  return Text.ofDigits ds * Nat.pow 10 (9 - ds.length)

/-- Reads a time of day: its second and the nanoseconds of that second. -/
def time : Scanner (Nat × Nat) := do
  let hour ← twoDigits
  separator ':'
  let minute ← twoDigits
  separator ':'
  let second ← twoDigits
  guard (hour ≤ 23 && minute ≤ 59 && second ≤ 60)
  let nanos ← match (← get) with
    | '.' :: rest => do
      set rest
      fraction
    | _ => pure 0
  if second = 60 then return (hour * 3600 + minute * 60 + 59, 1000000000 + nanos)
  else return (hour * 3600 + minute * 60 + second, nanos)

/-- Reads two digits that stand side by side. -/
def digitPair : Scanner Nat
  | a :: b :: rest =>
    if a.isDigit && b.isDigit then some (Text.ofDigits [a, b], rest) else none
  | _ => none

/-- Reads an offset from universal time, in seconds. -/
def offset : Scanner Int := fun cs =>
  match cs with
  | 'Z' :: rest | 'z' :: rest => some (0, rest)
  | a :: b :: c :: rest =>
    if Text.lower [a, b, c] = ['u', 't', 'c'] then some (0, rest) else signed cs
  | _ => signed cs
where
  /-- Reads a sign, two digits of hours and two digits of minutes, which a colon may precede. -/
  signed : Scanner Int := do
    let negative ← fun cs => match cs with
      | '+' :: rest => some (false, rest)
      | '-' :: rest | '\u2212' :: rest => some (true, rest)
      | _ => none
    let hours ← digitPair
    modify fun (cs : List Char) => cs.dropWhile fun c => c == ':' || Text.isWhite c
    let minutes ← digitPair
    guard (hours ≤ 23 && minutes ≤ 59)
    let seconds : Int := hours * 3600 + minutes * 60
    return if negative then -seconds else seconds

end Scanner

namespace Instant

/-- The instant of a local date and time at an offset from universal time. -/
def ofLocal? (date : Date) (second nanos : Nat) (offset : Int) : Option Instant :=
  let shifted := (second : Int) - offset
  let date? :=
    if shifted < 0 then date.previous? else if shifted < 86400 then some date else date.next?
  match date? with
  | none => none
  | some date =>
    let second := (shifted % 86400).toNat
    if h : second < 86400 ∧ nanos < 2000000000 ∧ (1000000000 ≤ nanos → second % 60 = 59) then
      some ⟨date, second, nanos, h.1, h.2.1, h.2.2⟩
    else none

/-- Reads a timestamp. -/
def scanner : Scanner Instant := do
  let date ← Scanner.date
  Scanner.oneOf ['T', 't', ' ']
  let (second, nanos) ← Scanner.time
  Scanner.skipWhite
  let offset ← Scanner.offset
  Instant.ofLocal? date second nanos offset

/-- Reads a text that is a timestamp. White characters may follow it. -/
def ofText? (s : String) : Option Instant :=
  match scanner.run s.toList with
  | some (t, rest) => if rest.all Text.isWhite then some t else none
  | none => none

end Instant

end Ingestion
