-- SUMMARY: The fields of every model: their names, wire names, shapes and defaults.
import SceneSource.Value.Basic

/-!
# Schemas

Each field of a model has the name under which an instance keeps it, the keys under which
it can be given, and the name under which a document carries it. Its shape says what it
holds. Parts have leaves only; the fields of a payload can also hold parts.
-/

namespace SceneSource

/-- What a field without parts holds. -/
inductive Leaf where
  | boolean
  | integer
  | real
  | text
  /-- A text that is not empty. -/
  | name
  | optionalText
  /-- Any mapping. -/
  | mapping
  | color
  | duration
  | flags
  | path
  | boundingSize
  | choice (e : Enumeration)
  /-- The tag of a crop variant, which is the only value there. -/
  | tag (v : CropVariant)
deriving DecidableEq, Repr

/-- What a field holds. -/
inductive Shape where
  | leaf (leaf : Leaf)
  | part (part : Part)
  /-- Any number of parts of one kind. -/
  | parts (part : Part)
  /-- A part that travels as JSON text. -/
  | embedded (part : Part)
  /-- Any crop variant; its fields travel beside those of the payload. -/
  | crop
deriving DecidableEq, Repr

/-- A field of a model. -/
structure Field (σ : Type) where
  /-- The name under which an instance keeps the field. -/
  name : String
  shape : σ
  /-- The value of a field that is not given; without one the field has to be. -/
  default? : Option Value
  /-- The keys under which the field can be given, the preferred one first. -/
  keys : List String := [name]
  /-- The name in a document. -/
  wire : String := name

/-- A field with something in place of its shape. -/
def Field.map (f : σ → τ) (field : Field σ) : Field τ :=
  ⟨field.name, f field.shape, field.default?, field.keys, field.wire⟩

/-- The field with a name. -/
def Field.find? (fields : List (Field σ)) (name : String) : Option (Field σ) :=
  fields.find? (·.name == name)

-- ---------------------------------------------------------------------------
-- Parts
-- ---------------------------------------------------------------------------

/-- The sides of a crop rectangle. -/
def rectangleFields : List (Field Leaf) :=
  ["left", "top", "right", "bottom"].map fun name =>
    { name, shape := .real, default? := some (.real .zero) }

/-- The fields that name a window. -/
def windowFields : List (Field Leaf) := [
  { name := "owner_name", shape := .text, default? := some (.text "") },
  { name := "window_name", shape := .text, default? := some (.text "") },
  { name := "window", shape := .integer, default? := some (.int 0) },
  { name := "show_empty_names", shape := .boolean, default? := some (.bool false) }]

/-- The fields of a crop variant, its tag last. -/
def CropVariant.fields (v : CropVariant) : List (Field Leaf) :=
  (if v.hasRectangle then rectangleFields else []) ++
    (if v.hasWindow then windowFields else []) ++
    [{ name := "mode", shape := .tag v, default? := some (.int v.tag) }]

/-- The fields of a part. -/
def Part.fields : Part → List (Field Leaf)
  | .font => [
      { name := "face", shape := .text, default? := some (.text "Helvetica") },
      { name := "flags", shape := .flags, default? := some (.flags 0) },
      { name := "size", shape := .integer, default? := some (.int 256) },
      { name := "style", shape := .text, default? := some (.text "Regular") }]
  | .frameRate => [
      { name := "numerator", shape := .integer, default? := none },
      { name := "denominator", shape := .integer, default? := none }]
  | .resolution => [
      { name := "width", shape := .integer, default? := none },
      { name := "height", shape := .integer, default? := none }]
  | .slideshowFile => [
      { name := "value", shape := .path, default? := some (.text "") },
      { name := "hidden", shape := .boolean, default? := some (.bool false) },
      { name := "selected", shape := .boolean, default? := some (.bool false) }]
  | .crop v => v.fields

/-- The instance of a part with some attributes. -/
def Part.record (p : Part) (attributes : List (String × Value)) : Value :=
  .record (.part p) attributes

/-- The instance of a part that has every default of its fields. -/
def Part.default (p : Part) : Value :=
  p.record (p.fields.filterMap fun f => f.default?.map fun v => (f.name, v))

-- ---------------------------------------------------------------------------
-- Payloads
-- ---------------------------------------------------------------------------

/-- The page that a browser source shows at first. -/
def browserUrl : String := "https://obsproject.com/browser-source"

/-- The style sheet of a browser source at first. -/
def browserCss : String :=
  "body \x7b background-color: rgba(0, 0, 0, 0); margin: 0px auto; overflow: hidden; \x7d"

namespace Field

/-- A field for a truth value. -/
def flag (name : String) (b : Bool) : Field Shape :=
  { name, shape := .leaf .boolean, default? := some (.bool b) }

/-- A field for an integer. -/
def count (name : String) (n : Int) : Field Shape :=
  { name, shape := .leaf .integer, default? := some (.int n) }

/-- A field for a text. -/
def text (name : String) (s : String) : Field Shape :=
  { name, shape := .leaf .text, default? := some (.text s) }

/-- A field for a path, nothing at first. -/
def path (name : String) : Field Shape :=
  { name, shape := .leaf .path, default? := some (.text "") }

/-- A field for a color, opaque at first. -/
def color (name : String) (r g b : Int) : Field Shape :=
  { name, shape := .leaf .color, default? := some (.color (.int r) (.int g) (.int b) (.int 255)) }

/-- A field for a duration. -/
def duration (name : String) (d : Duration) : Field Shape :=
  { name, shape := .leaf .duration, default? := some (.duration d) }

/-- A field for a member of an enumeration. -/
def member (name : String) (c : Choice) : Field Shape :=
  { name, shape := .leaf (.choice c.enumeration), default? := some (.choice c) }

/-- A field for files, none at first. -/
def files (name : String) : Field Shape :=
  { name, shape := .parts .slideshowFile, default? := some (.tuple []) }

end Field

namespace Kind

/-- The fields of the payload of a kind. -/
def fields : Kind → List (Field Shape)
  | coreaudioInputCapture | coreaudioOutputCapture => [.text "device_id" "default"]
  | browserSource => [
      .flag "is_local_file" false,
      .path "local_file",
      .text "url" browserUrl,
      .count "width" 800,
      .count "height" 600,
      .flag "fps_custom" false,
      .count "fps" 30,
      .flag "reroute_audio" false,
      .text "css" browserCss,
      .flag "shutdown" false,
      .flag "restart_when_active" false]
  | colorSource => [.color "color" 209 209 209, .count "width" 0, .count "height" 0]
  | displayCapture => [
      .count "display" 0,
      .flag "show_cursor" true,
      { name := "crop_mode", shape := .crop, default? := some (Part.crop .none).default }]
  | imageSource => [.path "file", .flag "unload" false]
  | slideshow => [
      .member "playback_behavior" (.playback .alwaysPlay),
      .member "slide_mode" (.slideMode .auto),
      .member "transition" (.transition .fade),
      .duration "slide_time" ⟨8000000, by decide, by decide⟩,
      .duration "transition_speed" ⟨700000, by decide, by decide⟩,
      .flag "loop" true,
      .flag "hide" false,
      .flag "randomize" false,
      { name := "use_custom_size", shape := .leaf .boundingSize,
        default? := some (.choice (.aspect .automatic)) },
      .files "files"]
  | ffmpegSource => [
      .flag "is_local_file" true,
      .path "local_file",
      .flag "looping" false,
      .count "buffering_mb" 2,
      .text "input" "",
      .text "input_format" "",
      .count "reconnect_delay_sec" 10,
      .flag "restart_on_activate" true,
      .flag "clear_on_media_end" true,
      .flag "close_when_inactive" false,
      .count "speed_percent" 100,
      .member "color_range" (.colorRange .auto),
      .flag "seekable" false]
  | textFt2Source => [
      .flag "antialiasing" true,
      .color "color1" 255 255 255,
      .color "color2" 255 255 255,
      .count "custom_width" 0,
      .flag "drop_shadow" false,
      { name := "font", shape := .part .font, default? := some Part.font.default },
      .flag "from_file" false,
      .count "log_lines" 6,
      .flag "log_mode" false,
      .flag "outline" false,
      .text "text" "",
      .path "text_file",
      .flag "word_wrap" false]
  | vlcSource => [
      { Field.flag "loop" true with keys := ["loop", "bool"], wire := "bool" },
      .flag "shuffle" false,
      .member "playback_behavior" (.playback .stopRestart),
      .files "playlist",
      .duration "network_caching" ⟨400000, by decide, by decide⟩,
      .count "track" 1,
      .flag "subtitle_enable" false,
      .count "subtitle" 1]
  | avCaptureInput => [
      .flag "buffering" false,
      .member "color_space" (.colorSpace .auto),
      .text "device" "",
      .text "device_name" "",
      { name := "frame_rate", shape := .part .frameRate,
        default? := some (Part.frameRate.record
          [("numerator", .int 30), ("denominator", .int 1)]) },
      .count "input_format" 0,
      { name := "resolution", shape := .embedded .resolution,
        default? := some (Part.resolution.record [("width", .int 1280), ("height", .int 720)]) },
      .flag "use_preset" true]
  | windowCapture => [
      .text "owner_name" "",
      .text "window_name" "",
      .count "window" 0,
      .flag "show_empty_names" false,
      .flag "show_shadow" false]

/-- The least values that are documented for fields of a kind. Smaller ones are accepted. -/
def minimums : Kind → List (String × Value)
  | slideshow => [
      ("slide_time", .duration ⟨50000, by decide, by decide⟩),
      ("transition_speed", .duration ⟨0, by decide, by decide⟩)]
  | textFt2Source => [("log_lines", .int 1)]
  | vlcSource => [
      ("network_caching", .duration ⟨100000, by decide, by decide⟩),
      ("track", .int 1),
      ("subtitle", .int 1)]
  | _ => []

end Kind

-- ---------------------------------------------------------------------------
-- Models
-- ---------------------------------------------------------------------------

/-- The fields of an update. -/
def updateFields : List (Field Leaf) := [
  { name := "source_name", shape := .name, default? := none, wire := "sourceName" },
  { name := "source_type", shape := .optionalText, default? := some .null, wire := "sourceType" },
  { name := "source_settings", shape := .mapping, default? := some (.mapping []),
    wire := "sourceSettings" }]

/-- The fields of a model. -/
def Model.fields : Model → List (Field Shape)
  | .payload k => k.fields
  | .part p => p.fields.map (·.map .leaf)
  | .update => updateFields.map (·.map .leaf)

/-- Whether a model refuses keys that no field has. -/
def Model.isClosed : Model → Bool
  | .payload _ | .part (.crop _) => true
  | .part _ | .update => false

end SceneSource
