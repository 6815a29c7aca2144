-- SUMMARY: Numbers that are integers of any size or doubles, compared exactly.
import SceneSource.Number.Double

/-!
# Numbers

An integer and a double are compared by value: neither is converted to the other.
-/

namespace SceneSource

/-- An integer or a double. -/
inductive Number where
  | int (n : Int)
  | real (d : Double)
deriving DecidableEq, Repr

namespace Number

/-- Equality of values. -/
def equal : Number → Number → Bool
  | int m, int n => m == n
  | real a, real b => a.equal b
  | int m, real b => b.isFinite && m * Double.one == b.units
  | real a, int n => a.isFinite && a.units == n * Double.one

/-- Whether two numbers are one and the same, which a NaN is with itself. -/
def same : Number → Number → Bool
  | int m, int n => m == n
  | real a, real b => a.bits == b.bits
  | int _, real _ | real _, int _ => false

/-- The order of values, false for a NaN. -/
def le : Number → Number → Bool
  | int m, int n => m ≤ n
  | real a, real b => a.le b
  | int m, real b =>
      if b.isNaN then false else if b.isInfinite then !b.negative else m * Double.one ≤ b.units
  | real a, int n =>
      if a.isNaN then false else if a.isInfinite then a.negative else a.units ≤ n * Double.one

/-- The nearest double. -/
def toDouble : Number → Except Unit Double
  | int n => match Double.ofInt? n with
    | some d => .ok d
    | none => .error ()
  | real d => .ok d

end Number

end SceneSource
