-- SUMMARY: Parts and crop variants: instances as they are, mappings read field by field.
import SceneSource.Validation.Fields
import SceneSource.Validation.Leaf

/-!
# Validation of parts

An instance of the part itself is taken as it is, whatever its attributes hold. A mapping
is read field by field. Which variant a crop is of is told by its tag.
-/

namespace SceneSource

namespace Part

/-- Reads a part from the entries of a mapping. -/
def read (p : Part) (entries : List (String × Value)) : Except Refusal Value :=
  (Field.readAll Leaf.check (Model.part p).isClosed p.fields entries).map p.record

/-- What a field for a part stores. -/
def check (p : Part) (v : Value) : Except Refusal Value :=
  match v with
  | .record m _ => if m = .part p then .ok v else .error (.because (.partType p.name))
  | .mapping entries => p.read entries
  | _ => .error (.because (.partType p.name))

end Part

namespace CropVariant

/-- The variant with a tag. -/
def ofTag? (tag : Value) : Option CropVariant := all.find? fun v => tag.equal (.int v.tag)

/-- A tag as messages show it. -/
def tagText (tag : Value) : String :=
  if tag.isOversize then s!"<unprintable {tag.typeName} object>" else tag.display

/-- The step into a variant with a tag as it was given. -/
def step (tag : Value) : Step :=
  match tag.int? with
  | some n => .index n
  | Option.none => .key tag.shown

/-- Reads a crop as the variant of its tag. -/
def checkTagged (tag crop : Value) : Except Refusal Value :=
  match ofTag? tag with
  | some v => ((Part.crop v).check crop).mapError (·.under (step tag))
  | Option.none => .error (.because (.tagUnknown (tagText tag)))

/-- What a field for a crop stores. -/
def check (v : Value) : Except Refusal Value :=
  match v with
  | .mapping entries | .record _ entries => match entries.lookup "mode" with
    | some tag => checkTagged tag v
    | Option.none => .error (.because .tagMissing)
  | .color .. | .flags _ | .choice _ | .path _ | .caselessPath .. | .pathLike .. | .ratio .. |
      .size .. => .error (.because .tagMissing)
  | .null | .bool _ | .int _ | .real _ | .text _ | .bytes _ | .list _ | .tuple _ | .set _ |
      .duration _ | .object _ => .error (.because .cropType)

end CropVariant

end SceneSource
