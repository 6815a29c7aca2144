-- SUMMARY: Double-precision numbers by their bits, with exact order, truncation and rounding.

/-!
# Doubles

A double is kept as its 64 bits, and everything about it is integer arithmetic on its
value in *units* of 2⁻¹⁰⁷⁴, the least positive double: order, equality, truncation and
sums are exact, and `ofRatio` is the one place where a value is rounded (to the nearest
double, a tie to the even one).
-/

namespace SceneSource

/-- An IEEE 754 double-precision number. -/
structure Double where
  bits : UInt64
deriving DecidableEq, Repr

namespace Double

/-- The number of units in one. -/
def one : Nat := Nat.pow 2 1074

/-- Whether the sign bit is set. -/
def negative (d : Double) : Bool := d.bits.toNat / Nat.pow 2 63 == 1

/-- The biased exponent. -/
def exponent (d : Double) : Nat := d.bits.toNat / Nat.pow 2 52 % Nat.pow 2 11

/-- The fraction bits. -/
def fraction (d : Double) : Nat := d.bits.toNat % Nat.pow 2 52

/-- Whether the double is a number and finite. -/
def isFinite (d : Double) : Bool := d.exponent != 2047

/-- Whether the double is no number. -/
def isNaN (d : Double) : Bool := d.exponent == 2047 && d.fraction != 0

/-- Whether the double is an infinity. -/
def isInfinite (d : Double) : Bool := d.exponent == 2047 && d.fraction == 0

/-- The significand as an integer. -/
def significand (d : Double) : Nat :=
  if d.exponent = 0 then d.fraction else Nat.pow 2 52 + d.fraction

/-- The power of two, in units, that the significand counts. -/
def scale (d : Double) : Nat := d.exponent - 1

/-- The absolute value in units. An infinity comes out above every finite double. -/
def magnitude (d : Double) : Nat := d.significand * Nat.pow 2 d.scale

/-- The value in units. -/
def units (d : Double) : Int := if d.negative then -(d.magnitude : Int) else d.magnitude

/-- The double with a sign and the other bits. -/
def ofSign (negative : Bool) (rest : Nat) : Double :=
  ⟨UInt64.ofNat ((if negative then Nat.pow 2 63 else 0) + rest)⟩

/-- The bits of infinity, without the sign. -/
def infinityBits : Nat := 2047 * Nat.pow 2 52

/-- The double that is no number. -/
def nan : Double := ⟨0x7FF8000000000000⟩
/-- Positive zero. -/
def zero : Double := ⟨0⟩

/-- The infinity of a sign. -/
def infinity (negative : Bool) : Double := ofSign negative infinityBits

-- ---------------------------------------------------------------------------
-- Rounding
-- ---------------------------------------------------------------------------

/-- A quotient rounded to the nearest integer, a tie to the even one. -/
def roundEven (num den : Nat) : Nat :=
  let q := num / den
  let r := num % den
  if den < 2 * r ∨ (2 * r = den ∧ q % 2 = 1) then q + 1 else q

/-- The double nearest to ±`num`/`den`: the quotient in units is cut to the 53 bits that
    its size leaves, so its bits are the cut significand moved up by the cut. -/
def ofRatio (negative : Bool) (num den : Nat) : Double :=
  let cut := (num * one / den).log2 - 52
  let bits := cut * Nat.pow 2 52 + roundEven (num * one) (den * Nat.pow 2 cut)
  ofSign negative (min bits infinityBits)

/-- The double nearest to an integer, unless that is an infinity. -/
def ofInt? (n : Int) : Option Double :=
  let d := ofRatio (n < 0) n.natAbs 1
  if d.isFinite then some d else none

/-- The double nearest to ±`n` · 10^`e`. Exponents beyond the range of doubles are
    decided by the number of digits alone. -/
def ofDecimal (negative : Bool) (n : Nat) (e : Int) : Double :=
  let top := e + (n.log2 : Int) / 3 + 1
  if n = 0 ∨ top < -400 then ofSign negative 0
  else if 320 < e then infinity negative
  else if 0 ≤ e then ofRatio negative (n * Nat.pow 10 e.toNat) 1
  else ofRatio negative n (Nat.pow 10 (-e).toNat)

-- ---------------------------------------------------------------------------
-- Order and arithmetic
-- ---------------------------------------------------------------------------

/-- Equality of values: both zeros are equal, and a NaN equals nothing. -/
def equal (a b : Double) : Bool := !a.isNaN && !b.isNaN && a.units == b.units

/-- The order of values, false for a NaN. -/
def le (a b : Double) : Bool := !a.isNaN && !b.isNaN && a.units ≤ b.units

/-- The value as an integer, if it is one. -/
def toInt? (d : Double) : Option Int :=
  if d.isFinite && d.units % one == 0 then some (d.units / one) else none

/-- The integer part, toward zero. -/
def truncate (d : Double) : Int := d.units.tdiv one

/-- The part behind the point in units, with the sign of the double. -/
def remainder (d : Double) : Int := d.units.tmod one

/-- The sum, rounded. -/
def add (a b : Double) : Double :=
  if a.isNaN || b.isNaN then nan
  else if a.isInfinite then
    if b.isInfinite && a.negative != b.negative then nan else a
  else if b.isInfinite then b
  else
    let sum := a.units + b.units
    if sum = 0 then ofSign (a.negative && b.negative) 0
    else ofRatio (sum < 0) sum.natAbs one

end Double

end SceneSource
