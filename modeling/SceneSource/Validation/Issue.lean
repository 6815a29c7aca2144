-- SUMMARY: What is wrong with given settings: reasons with their place, and how they add up.
import SceneSource.Choice
import SceneSource.Fault
import SceneSource.Kind

/-!
# Validation issues

Validation goes on behind a field that is wrong and reports every issue, each with the
way from the outermost settings to the value in question. A fault that is not about the
value as such ends validation at once. `Refusal` is one or the other, and `Refusal.join`
says what two checks give together.
-/

namespace SceneSource

/-- What is wrong with one value. -/
inductive Reason where
  | missing
  | extra
  | frozen
  | boolType
  | boolText
  | integerType
  | integerText
  | integerSize
  | integerFraction
  | integerFinite
  | realType
  | realText
  | textType
  | textBytes
  | textShort
  | tupleType
  | mappingType
  | partType (name : String)
  | choice (e : Enumeration)
  /-- A tag other than the one of the variant at hand. -/
  | tag (v : CropVariant)
  /-- A crop without a tag. -/
  | tagMissing
  | tagUnknown (shown : String)
  /-- A value that can have no tag. -/
  | cropType
  /-- A fault of a conversion. -/
  | fault (f : Fault)
deriving DecidableEq, Repr

namespace Reason

/-- The name under which a reason is reported. -/
def name : Reason → String
  | missing => "missing"
  | extra => "extra_forbidden"
  | frozen => "frozen_instance"
  | boolType => "bool_type"
  | boolText => "bool_parsing"
  | integerType => "int_type"
  | integerText => "int_parsing"
  | integerSize => "int_parsing_size"
  | integerFraction => "int_from_float"
  | integerFinite => "finite_number"
  | realType => "float_type"
  | realText => "float_parsing"
  | textType => "string_type"
  | textBytes => "string_unicode"
  | textShort => "string_too_short"
  | tupleType => "tuple_type"
  | mappingType => "dict_type"
  | partType _ => "model_type"
  | choice _ => "enum"
  | tag _ => "literal_error"
  | tagMissing => "union_tag_not_found"
  | tagUnknown _ => "union_tag_invalid"
  | cropType => "model_attributes_type"
  | fault _ => "value_error"

/-- Alternatives in a sentence: commas, and a word before the last one. -/
def alternatives : List String → String
  | [] => ""
  | [s] => s
  | [s, t] => s ++ " or " ++ t
  | s :: rest => s ++ ", " ++ alternatives rest

/-- A wire value as an alternative. -/
def alternative : Scalar → String
  | .text s => "'" ++ s ++ "'"
  | .number n => toString n

/-- The wording of a reason. -/
def message : Reason → String
  | missing => "Field required"
  | extra => "Extra inputs are not permitted"
  | frozen => "Instance is frozen"
  | boolType => "Input should be a valid boolean"
  | boolText => "Input should be a valid boolean, unable to interpret input"
  | integerType => "Input should be a valid integer"
  | integerText => "Input should be a valid integer, unable to parse string as an integer"
  | integerSize => "Unable to parse input string as an integer, exceeded maximum size"
  | integerFraction => "Input should be a valid integer, got a number with a fractional part"
  | integerFinite => "Input should be a finite number"
  | realType => "Input should be a valid number"
  | realText => "Input should be a valid number, unable to parse string as a number"
  | textType => "Input should be a valid string"
  | textBytes => "Input should be a valid string, unable to parse raw data as a unicode string"
  | textShort => "String should have at least 1 character"
  | tupleType => "Input should be a valid tuple"
  | mappingType => "Input should be a valid dictionary"
  | partType name => s!"Input should be a valid dictionary or instance of {name}"
  | choice e => "Input should be " ++ alternatives (e.members.map fun c => alternative c.value)
  | tag v => s!"Input should be {v.tag}"
  | tagMissing => "Unable to extract tag using discriminator 'mode'"
  | tagUnknown shown => s!"Input tag '{shown}' found using 'mode' does not match any of the " ++
      "expected tags: " ++ ", ".intercalate (CropVariant.all.map fun v => toString v.tag)
  | cropType => "Input should be a valid dictionary or object to extract fields from"
  | fault f => "Value error, " ++ f.message

end Reason

/-- One step of the way to a value. -/
inductive Step where
  | key (name : String)
  | index (n : Int)
deriving DecidableEq, Repr

/-- Something wrong with a value, and the way to it. -/
structure Issue where
  reason : Reason
  place : List Step := []
deriving DecidableEq, Repr

/-- Why given settings were refused. -/
inductive Refusal where
  | issues (found : List Issue)
  | fault (f : Fault)
deriving DecidableEq, Repr

namespace Refusal

/-- The refusal for one reason, with nothing said about the place. -/
def because (r : Reason) : Refusal := issues [⟨r, []⟩]

/-- The refusal for a fault: about the value, or the end of the validation. -/
def ofFault (f : Fault) : Refusal :=
  if f.category = .value then because (.fault f) else fault f

/-- A refusal seen from one step further out. -/
def under (s : Step) : Refusal → Refusal
  | issues found => issues (found.map fun i => { i with place := s :: i.place })
  | fault f => fault f

/-- The outcome of two checks, the second of which starts unless the first one ends the
    validation: issues add up. -/
def join (f : α → β → γ) : Except Refusal α → Except Refusal β → Except Refusal γ
  | .ok a, .ok b => .ok (f a b)
  | .ok _, .error r => .error r
  | .error (.fault e), _ => .error (.fault e)
  | .error (.issues found), .ok _ => .error (.issues found)
  | .error (.issues found), .error (.issues more) => .error (.issues (found ++ more))
  | .error (.issues _), .error (.fault e) => .error (.fault e)

/-- The outcome of some checks, in order. -/
def all : List (Except Refusal α) → Except Refusal (List α)
  | [] => .ok []
  | r :: rest => join List.cons r (all rest)

end Refusal

end SceneSource
