-- SUMMARY: The integer that a value denotes where any number or numeral will do.
import SceneSource.Value.Shown

/-!
# Values as integers

Color channels and the members of flag collections are converted to integers: integral
values are themselves, doubles lose what is behind the point, texts and bytes are read as
numerals.
-/

namespace SceneSource.Value

/-- The first part of a shown value, as far as a message quotes it. -/
def excerpt (s : String) : String := String.ofList (s.toList.take 200)

/-- A numeral that was read, or the fault of the value it was read from. -/
def ofNumeral (shown : String) : Except Integer.ReadError Int → Except Fault Int
  | .ok n => .ok n
  | .error .malformed => .error (.numeral (excerpt shown))
  | .error (.tooLong digits) => .error (.numeralDigits digits)

/-- The integer part of a double. -/
def integerPart (d : Double) : Except Fault Int :=
  if d.isNaN then .error .nanToInteger
  else if d.isInfinite then .error .infinityToInteger
  else .ok d.truncate

/-- The integer that a value denotes. -/
def toInteger (v : Value) : Except Fault Int :=
  match v with
  | real d => integerPart d
  | bytes bs =>
      ofNumeral (bytes (bs.take 200)).shown
        (Integer.readNumeral Text.isAsciiWhite (bs.map fun b => Char.ofNat b.toNat))
  | v => match v.int?, v.text? with
    | some n, _ => .ok n
    | none, some s => ofNumeral v.shown (Integer.readNumeral Text.isWhite s.toList)
    | none, none => .error (.notNumeric v.fullTypeName)

end SceneSource.Value
