-- SUMMARY: What a field without parts accepts, and what it stores.
import SceneSource.BoundingSize
import SceneSource.Color
import SceneSource.FontFlags
import SceneSource.Number.Real
import SceneSource.PathText
import SceneSource.Schema
import SceneSource.Text.Utf8
import SceneSource.Validation.Issue
import SceneSource.Value.Equality

/-!
# Validation of leaves

Every leaf accepts the values of its own kind, and most accept others that denote one:
numbers by their text, texts by their bytes, truth values by a word. What is stored does
not depend on how it was given. A conversion that fails for the value given is an issue.
-/

namespace SceneSource

namespace Leaf

/-- The text that a value spells: its own, or the one its bytes encode; `bytesReason` is
    what is wrong with bytes that encode none. -/
def spelled? (bytesReason : Reason) (v : Value) : Option (Except Refusal String) :=
  match v with
  | .bytes bs => match Text.decode bs with
    | .ok s => some (.ok s)
    | .error _ => some (.error (.because bytesReason))
  | v => v.text?.map .ok

-- ---------------------------------------------------------------------------
-- Truth values
-- ---------------------------------------------------------------------------

/-- The words for a truth value. -/
def boolWord? (s : String) : Option Bool :=
  let low := String.ofList (s.toList.map Char.toLower)
  if low ∈ ["1", "on", "t", "true", "y", "yes"] then some true
  else if low ∈ ["0", "off", "f", "false", "n", "no"] then some false
  else none

/-- Whether an integer fits 64 bits with a sign. -/
def isWord (n : Int) : Bool := -9223372036854775808 ≤ n && n ≤ 9223372036854775807

/-- The truth value of an integer. -/
def boolOfInt (n : Int) : Except Refusal Value :=
  if n = 0 then .ok (.bool false)
  else if n = 1 then .ok (.bool true)
  else .error (.because (if isWord n then .boolText else .boolType))

/-- The integer that a double is, within the range that 64 bits hold. -/
def wordOfReal? (d : Double) : Option Int :=
  d.toInt?.filter fun n => -9223372036854775808 < n && n < 9223372036854775808

/-- What a field for a truth value stores. -/
def booleanOf (v : Value) : Except Refusal Value :=
  match v with
  | .bool _ => .ok v
  | .real d => match wordOfReal? d with
    | some n => boolOfInt n
    | none => .error (.because .boolType)
  | v => match spelled? .boolText v, v.int? with
    | some s, _ => do match boolWord? (← s) with
      | some b => return .bool b
      | none => .error (.because .boolText)
    | none, some n => boolOfInt n
    | none, none => .error (.because .boolType)

-- ---------------------------------------------------------------------------
-- Numbers
-- ---------------------------------------------------------------------------

/-- The integer that a double is given for. -/
def integerOfReal (d : Double) : Except Refusal Int :=
  if !d.isFinite then .error (.because .integerFinite)
  else match d.toInt?, wordOfReal? d with
    | none, _ => .error (.because .integerFraction)
    | some _, none => .error (.because .integerSize)
    | some _, some n => .ok n

/-- The integer that a value is given for. -/
def integerOf (v : Value) : Except Refusal Int :=
  match v with
  | .real d => integerOfReal d
  | v => match spelled? .integerText v, v.int? with
    | some s, _ => do match Integer.readField (← s).toList with
      | .ok n => return n
      | .error .malformed => .error (.because .integerText)
      | .error (.tooLong _) => .error (.because .integerSize)
    | none, some n => .ok n
    | none, none => .error (.because .integerType)

/-- What a field for a real number stores. -/
def realOf (v : Value) : Except Refusal Value :=
  match spelled? .realText v, v.number? with
  | some s, _ => do match Real.read? (← s).toList with
    | some d => return .real d
    | none => .error (.because .realText)
  | none, some n => match n.toDouble with
    | .ok d => .ok (.real d)
    | .error () => .error (.because .realType)
  | none, none => .error (.because .realType)

-- ---------------------------------------------------------------------------
-- Texts and mappings
-- ---------------------------------------------------------------------------

/-- The text that a value is given for. Members of numeric enumerations and font flags
    are taken by their decimal digits, plain numbers are not. -/
def textOf (v : Value) : Except Refusal String :=
  match spelled? .textBytes v with
  | some s => s
  | none => match v with
    | .flags _ | .choice _ => .ok v.display
    | _ => .error (.because .textType)

/-- What a field for a text that is not empty stores. -/
def nameOf (v : Value) : Except Refusal Value := do
  let s ← textOf v
  if s.isEmpty then .error (.because .textShort) else return .text s

/-- What a field for a mapping stores. -/
def mappingOf : Value → Except Refusal Value
  | .mapping entries => .ok (.mapping entries)
  | _ => .error (.because .mappingType)

-- ---------------------------------------------------------------------------
-- Kinds of settings
-- ---------------------------------------------------------------------------

/-- What a field for a duration stores: a bare number counts milliseconds. -/
def durationOf (v : Value) : Except Fault Value :=
  match v with
  | .duration _ => .ok v
  | .bool _ => .error .durationShape
  | .real d => (Duration.ofMillisReal d).map .duration
  | v => match v.int? with
    | some n => (Duration.ofMillis n).map .duration
    | none => .error .durationShape

/-- The wire value that is meant by what a field for a member is given. -/
def scalarOf (e : Enumeration) (v : Value) : Except Refusal Scalar :=
  let unknown := Refusal.because (.choice e)
  if e.isNumeric then
    match integerOf v with
    | .ok n => if isWord n then .ok (.number n) else .error (.because .integerSize)
    | .error _ => .error unknown
  else match textOf v with
    | .ok s => .ok (.text s)
    | .error _ => .error unknown

/-- What a field for a member of an enumeration stores. -/
def memberOf (e : Enumeration) (v : Value) : Except Refusal Value :=
  let find : Except Refusal Value := do
    match e.find? (← scalarOf e v) with
    | some c => return .choice c
    | none => .error (.because (.choice e))
  match v with
  | .choice c => if c.enumeration = e then .ok v else find
  | _ => find

/-- What is wrong with a value that is not the tag of a crop variant. -/
def tagReason (variant : CropVariant) (v : Value) : Reason :=
  match v with
  | .int n => if isWord n then .tag variant else .integerSize
  | _ => .tag variant

/-- What a field for the tag of a crop variant stores. -/
def tagOf (variant : CropVariant) (v : Value) : Except Refusal Value :=
  if v.equal (.int variant.tag) then .ok (.int variant.tag)
  else .error (.because (tagReason variant v))

/-- The outcome of a conversion as the outcome of a check. -/
def converted (r : Except Fault Value) : Except Refusal Value := r.mapError .ofFault

/-- What a field stores for a value. -/
def check : Leaf → Value → Except Refusal Value
  | .boolean, v => booleanOf v
  | .integer, v => (integerOf v).map .int
  | .real, v => realOf v
  | .text, v => (textOf v).map .text
  | .name, v => nameOf v
  | .optionalText, .null => .ok .null
  | .optionalText, v => (textOf v).map .text
  | .mapping, v => mappingOf v
  | .color, v => converted (Color.ofValue v)
  | .duration, v => converted (durationOf v)
  | .flags, v => converted ((FontFlags.ofValue v).map .flags)
  | .path, v => converted (PathText.ofValue v)
  | .boundingSize, v => converted (BoundingSize.ofValue v)
  | .choice e, v => memberOf e v
  | .tag variant, v => tagOf variant v

end Leaf

end SceneSource
