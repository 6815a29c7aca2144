-- SUMMARY: The shortest decimal that reads back as a double, and how it is laid out.
import SceneSource.Number.Double

/-!
# Shortest decimals

`Double.shortest` gives the fewest decimal digits that read back as the double, and of
those the nearest to it. A `Layout` says how they are written: where positional notation
starts, how wide an exponent is at least, and the words for what is no finite number.
-/

namespace SceneSource

/-- A decimal `d₀.d₁d₂… · 10^exponent`. -/
structure Decimal where
  digits : List Char
  exponent : Int
deriving DecidableEq, Repr

namespace Double

/-- The decimal exponent of a positive quotient that is at least 10⁻³³⁰. -/
def decimalExponent (num den : Nat) : Int :=
  (Nat.toDigits 10 (num * Nat.pow 10 330 / den)).length - 331

/-- The decimals of one grid that read back as the double: `value`, `low` and `high` are
    four times the double and the ends of its interval, in units of `step`. The ends count
    iff the significand is even. -/
def gridHit? (value low high step : Nat) (closed : Bool) : Option Nat :=
  let c := value / step
  let inside (n : Nat) : Bool :=
    if closed then low ≤ n * step && n * step ≤ high else low < n * step && n * step < high
  if inside c && inside (c + 1) then
    let below := value - c * step
    let above := (c + 1) * step - value
    some (if below < above ∨ (below = above ∧ c % 2 = 0) then c else c + 1)
  else if inside c then some c
  else if inside (c + 1) then some (c + 1)
  else none

/-- Tries the grids with `n`, `n + 1`, … digits, `fuel` of them. -/
def searchGrids (value low high den : Nat) (closed : Bool) (k : Int) :
    (fuel n : Nat) → Option (Nat × Int)
  | 0, _ => none
  | fuel + 1, n =>
    let p : Int := k - n + 1
    let up := Nat.pow 10 p.toNat
    let down := Nat.pow 10 (-p).toNat
    match gridHit? (value * down) (low * down) (high * down) (up * den) closed with
    | some c => some (c, p)
    | none => searchGrids value low high den closed k fuel (n + 1)

/-- The shortest decimal of the absolute value of a finite double. -/
def shortest (d : Double) : Decimal :=
  let value := 4 * d.magnitude
  let half := 2 * Nat.pow 2 d.scale
  let below := if d.fraction = 0 ∧ 1 < d.exponent then Nat.pow 2 d.scale else half
  let k := decimalExponent d.magnitude one
  if d.magnitude = 0 then ⟨['0'], 0⟩
  else
    let closed := d.significand % 2 == 0
    match searchGrids value (value - below) (value + half) (4 * one) closed k 17 1 with
    | some (c, p) =>
      let ds := Nat.toDigits 10 c
      ⟨(ds.reverse.dropWhile (· == '0')).reverse, p + ds.length - 1⟩
    | none => ⟨['0'], 0⟩

end Double

/-- How a double is written. -/
structure Layout where
  /-- The least decimal exponent that is written positionally. -/
  leastPositional : Int
  /-- The least decimal exponent from one up that is not written positionally any more. -/
  firstExponential : Int
  /-- The least number of digits of a written exponent. -/
  exponentWidth : Nat
  nan : String
  infinity : String

namespace Layout

/-- Zeros in front, up to a width. -/
def padLeft (width : Nat) (cs : List Char) : List Char :=
  List.replicate (width - cs.length) '0' ++ cs

/-- Positional notation; a whole number keeps one zero behind the point. -/
def positional (x : Decimal) : List Char :=
  if 0 ≤ x.exponent then
    let whole := x.exponent.toNat + 1
    let front := x.digits.take whole
    let back := x.digits.drop whole
    front ++ List.replicate (whole - front.length) '0' ++ ['.'] ++
      (if back.isEmpty then ['0'] else back)
  else
    ['0', '.'] ++ List.replicate ((-x.exponent).toNat - 1) '0' ++ x.digits

/-- Exponential notation; the exponent always has a sign. -/
def exponential (layout : Layout) (x : Decimal) : List Char :=
  let mantissa := match x.digits with
    | d :: [] => [d]
    | d :: ds => d :: '.' :: ds
    | [] => []
  mantissa ++ ['e', if x.exponent < 0 then '-' else '+'] ++
    padLeft layout.exponentWidth (Nat.toDigits 10 x.exponent.natAbs)

/-- The text of a double. -/
def write (layout : Layout) (d : Double) : List Char :=
  if d.isNaN then layout.nan.toList
  else
    (if d.negative then ['-'] else []) ++
      if d.isInfinite then layout.infinity.toList
      else
        let x := d.shortest
        if layout.leastPositional ≤ x.exponent ∧ x.exponent < layout.firstExponential then
          positional x
        else layout.exponential x

/-- Messages write 10⁻⁴ positionally and give an exponent two digits. -/
def message : Layout := ⟨-4, 16, 2, "nan", "inf"⟩

/-- JSON text writes 10⁻⁵ positionally and an exponent with the digits it has. -/
def json : Layout := ⟨-5, 16, 1, "NaN", "Infinity"⟩

end Layout

end SceneSource
