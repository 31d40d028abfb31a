import Ingestion.Text

/-!
# Numbers of double precision

A *double* is a significand of 53 bits times a power of two. Numbers of a JSON text that are not
whole are kept as doubles. `Double.ofRatio?` rounds a quotient to the nearest double, and of two
equally near ones to the one with the even significand. `Double.ofScientific?` reads digits and a
power of ten, and `Double.shortest` gives the fewest digits that stand for a double.

Everything is computed in natural numbers, without any error but that of the rounding.
-/

namespace Ingestion.Json

namespace Double

/-- The greatest power of two of a significand, and so the least significand of full length. -/
def leastFull : Nat := 0x10000000000000

/-- The least exponent. Significands need not have full length with it. -/
def leastExponent : Int := -1074

/-- The greatest exponent. -/
def greatestExponent : Int := 971

/-- Whether a significand and an exponent make a double. Each number is made in one way only. -/
def Fits (significand : Nat) (exponent : Int) : Prop :=
  significand < 2 * leastFull ∧ (leastExponent ≤ exponent ∧ exponent ≤ greatestExponent) ∧
    (leastFull ≤ significand ∨ exponent = leastExponent)

instance (significand : Nat) (exponent : Int) : Decidable (Fits significand exponent) :=
  inferInstanceAs (Decidable (_ ∧ _))

end Double

/-- The magnitude of a number of double precision: `significand · 2 ^ exponent`. -/
structure Double where
  significand : Nat
  exponent : Int
  fits : Double.Fits significand exponent
deriving DecidableEq, Repr

namespace Double

/-- The double zero. -/
def zero : Double :=
  ⟨0, leastExponent, by decide⟩

instance : Inhabited Double := ⟨zero⟩

/-! ## Rounding -/

/-- The natural number nearest to a quotient, and of two equally near ones the even one. -/
def nearest (num den : Nat) : Nat :=
  let q := num / den
  let twice := 2 * (num % den)
  if twice < den ∨ (twice = den ∧ q % 2 = 0) then q else q + 1

/-- The quotient of a quotient and a power of two. -/
def downscaled (num den : Nat) (exponent : Int) : Nat × Nat :=
  (num * Nat.pow 2 (-exponent).toNat, den * Nat.pow 2 exponent.toNat)

/-- The exponent with which the significand of a quotient has full length, or the least exponent
if that is greater. -/
def exponentOf (num den : Nat) : Int :=
  let estimate : Int := (num.log2 : Int) - (den.log2 : Int) - 52
  let (n, d) := downscaled num den estimate
  if num = 0 then leastExponent
  else max leastExponent (if n < d * leastFull then estimate - 1 else estimate)

/-- The double nearest to a quotient, unless it is rounded beyond the greatest double. -/
def ofRatio? (num den : Nat) : Option Double :=
  let exponent := exponentOf num den
  let (n, d) := downscaled num den exponent
  let rounded := nearest n d
  let (significand, exponent) :=
    if rounded = 2 * leastFull then (leastFull, exponent + 1) else (rounded, exponent)
  if h : Fits significand exponent then some ⟨significand, exponent, h⟩ else none

/-- The numerator of a double. -/
def num (d : Double) : Nat :=
  d.significand * Nat.pow 2 d.exponent.toNat

/-- The denominator of a double, a power of two. -/
def den (d : Double) : Nat :=
  Nat.pow 2 (-d.exponent).toNat

/-- The product of two doubles, rounded. -/
def mul? (a b : Double) : Option Double :=
  ofRatio? (a.num * b.num) (a.den * b.den)

/-- The quotient of two doubles, rounded. -/
def div? (a b : Double) : Option Double :=
  ofRatio? (a.num * b.den) (a.den * b.num)

/-! ## Reading decimals -/

/-- The greatest power of ten that lies in the range of doubles. -/
def greatestPower : Nat := 308

/-- The double nearest to a power of ten. -/
def powerOfTen (n : Nat) : Double :=
  (ofRatio? (Nat.pow 10 n) 1).getD zero

/-- A double times a power of ten. It is multiplied or divided once by a power in the range of
doubles; below that range it is first divided by the greatest such power, `rounds` times at
most. -/
def scale? : Nat → Double → Int → Option Double
  | 0, _, _ => some zero
  | rounds + 1, d, exponent =>
    if d.significand = 0 then some d
    else if greatestPower < exponent then none
    else if 0 ≤ exponent then d.mul? (powerOfTen exponent.toNat)
    else if -greatestPower ≤ exponent then d.div? (powerOfTen (-exponent).toNat)
    else (d.div? (powerOfTen greatestPower)).bind fun d =>
      scale? rounds d (exponent + greatestPower)

/-- The double for `significand · 10 ^ exponent`, unless it is out of range. The significand and
the power of ten are rounded each, and so is their product: the result may be off by a unit in
its last place. A significand of 64 bits is zero after two rounds of scaling down. -/
def ofScientific? (significand : Nat) (exponent : Int) : Option Double :=
  (ofRatio? significand 1).bind fun d => scale? 3 d exponent

/-! ## Shortest digits -/

/-- Whether a quotient is rounded to a double: it lies between the middles to the neighbours of
the double, or on one of them if the significand is even. Below a significand of least length the
neighbour is nearer. -/
def covers (d : Double) (num den : Nat) : Bool :=
  let isNarrow := d.significand = leastFull ∧ leastExponent < d.exponent
  let (n, m) := downscaled (4 * num) den d.exponent
  let low := (4 * d.significand - if isNarrow then 1 else 2) * m
  let high := (4 * d.significand + 2) * m
  if d.significand % 2 = 0 then low ≤ n && n ≤ high else low < n && n < high

/-- The multiple of a power of ten that stands for a double, if there is one: one of the two
multiples around it, the nearer if both do, and the even one if they are equally near. -/
def multipleOf? (d : Double) (power : Int) : Option Nat :=
  let up := Nat.pow 10 power.toNat
  let down := Nat.pow 10 (-power).toNat
  let n := d.num * down
  let m := d.den * up
  let below := n / m
  let near := nearest n m
  let far := if near = below then below + 1 else below
  if d.covers (near * up) down then some near
  else if d.covers (far * up) down then some far
  else none

/-- The digits and the power of ten of the first of a few powers of ten that has a multiple
standing for a double, going down from `power`. -/
def digitsFrom : Nat → Int → Double → Nat × Int
  | 0, power, _ => (0, power)
  | powers + 1, power, d =>
    match d.multipleOf? power with
    | some digits => (digits, power)
    | none => digitsFrom powers (power - 1) d

/-- A power of ten that is not below a double, and at most a hundredfold of it. -/
def coarsePower (d : Double) : Int :=
  if d.den ≤ d.num then (toString (d.num / d.den)).length
  else 1 - (toString (d.den / d.num)).length

/-- The fewest digits that stand for a double other than zero, and the power of ten they are
multiplied by. Seventeen digits always suffice. -/
def shortest (d : Double) : Nat × Int :=
  digitsFrom 20 d.coarsePower d

end Double

end Ingestion.Json
