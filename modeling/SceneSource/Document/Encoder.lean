-- SUMMARY: The encoders of single fields, and what becomes of their failures.
import SceneSource.BoundingSize
import SceneSource.Color
import SceneSource.FontFlags
import SceneSource.Json.Basic
import SceneSource.PathText
import SceneSource.Schema
import SceneSource.Text.Utf8

/-!
# Encoders

Colors, durations, font flags, paths and bounding sizes have an encoder each, and so have
embedded parts and crops; every other field travels as it is stored. An encoder that fails
is reported by its name, and in JSON text once more as an error of that text.
-/

namespace SceneSource

/-- The name under which the encoder of embedded parts is reported. -/
def embeddedEncoder : String := "embed_json"

/-- The name under which the encoder of crops is reported. -/
def cropEncoder : String := "_flatten_crop_mode"

/-- Whole milliseconds of a value that has to be a duration. -/
def Duration.encode (v : Value) : Except Fault Int :=
  match v with
  | .duration d => .ok d.millis
  | v => .error (.noAttribute v.fullTypeName "days")

/-- What the encoder of a leaf gives, and its name. -/
def Leaf.encode? : Leaf → Value → Option (String × Except Fault Value)
  | .color, v => some ("encode_color", Color.encode v)
  | .duration, v => some ("duration_millis", (Duration.encode v).map .int)
  | .flags, v => some ("pack_flags", (FontFlags.encode v).map .int)
  | .path, v => some ("path_text", PathText.encode v)
  | .boundingSize, v => some ("format_custom_size", (BoundingSize.format v).map .text)
  | _, _ => none

/-- A fault of an encoder: one that serialization itself reports stays what it is. -/
def Fault.inEncoder (name : String) (f : Fault) : Fault :=
  if f.category = .serialization then f else .encoder name f

-- ---------------------------------------------------------------------------
-- Crops
-- ---------------------------------------------------------------------------

/-- What stands in front of the sides of a rectangle in a document. -/
def CropVariant.rectangleHome : CropVariant → String
  | .toWindowAndManual => "window"
  | .none | .manual | .toWindow => "manual"

/-- The attributes of a variant that a document carries, with their names there. -/
def CropVariant.wires (v : CropVariant) : List (String × String) :=
  (if v.hasWindow then windowFields.map fun f => (f.name, f.wire) else []) ++
    (if v.hasRectangle then [
      ("left", v.rectangleHome ++ ".origin.x"),
      ("top", v.rectangleHome ++ ".origin.y"),
      ("right", v.rectangleHome ++ ".size.width"),
      ("bottom", v.rectangleHome ++ ".size.height")]
     else [])

/-- Attributes of a variant under their names in a document. -/
def CropVariant.arrange (v : CropVariant) (attributes : List (String × α)) : List (String × α) :=
  v.wires.filterMap fun (name, wire) => (attributes.lookup name).map fun a => (wire, a)

/-- The entries of a crop in a document, as they are stored. -/
def CropVariant.encode (crop : Value) : Except Fault (List (String × Value)) :=
  match crop with
  | .record (.part (.crop v)) attributes =>
      .ok (("crop_mode", .int v.tag) :: v.arrange attributes)
  | _ => .error (.cropRequired crop.typeName)

end SceneSource
