-- SUMMARY: The kinds of sources, the models that describe their settings, and the crop variants.

/-!
# Kinds and models

`Kind` lists the source kinds in catalog order. A `Model` names a shape of settings: the
payload of a kind, a part that sits inside payloads, or the update that carries a finished
document. What fields a model has is in `SceneSource.Schema`.
-/

namespace SceneSource

/-- The kinds of sources that have a settings payload. -/
inductive Kind where
  | coreaudioInputCapture
  | coreaudioOutputCapture
  | browserSource
  | colorSource
  | displayCapture
  | imageSource
  | slideshow
  | ffmpegSource
  | textFt2Source
  | vlcSource
  | avCaptureInput
  | windowCapture
deriving DecidableEq, Repr

namespace Kind

/-- All kinds, in catalog order. -/
def all : List Kind :=
  [coreaudioInputCapture, coreaudioOutputCapture, browserSource, colorSource, displayCapture,
    imageSource, slideshow, ffmpegSource, textFt2Source, vlcSource, avCaptureInput, windowCapture]

/-- The text by which the control protocol names a kind. -/
def tag : Kind → String
  | coreaudioInputCapture => "coreaudio_input_capture"
  | coreaudioOutputCapture => "coreaudio_output_capture"
  | browserSource => "browser_source"
  | colorSource => "color_source_v3"
  | displayCapture => "display_capture"
  | imageSource => "image_source"
  | slideshow => "slideshow"
  | ffmpegSource => "ffmpeg_source"
  | textFt2Source => "text_ft2_source_v2"
  | vlcSource => "vlc_source"
  | avCaptureInput => "av_capture_input"
  | windowCapture => "window_capture"

/-- The name of the payload model of a kind. -/
def modelName : Kind → String
  | coreaudioInputCapture => "CoreaudioInputCapture"
  | coreaudioOutputCapture => "CoreaudioOutputCapture"
  | browserSource => "BrowserSource"
  | colorSource => "ColorSourceV3"
  | displayCapture => "DisplayCapture"
  | imageSource => "ImageSource"
  | slideshow => "Slideshow"
  | ffmpegSource => "FfmpegSource"
  | textFt2Source => "TextFt2SourceV2"
  | vlcSource => "VlcSource"
  | avCaptureInput => "AvCaptureInput"
  | windowCapture => "WindowCapture"

/-- The name of the constant that stands for the tag of a kind. -/
def constantName (k : Kind) : String := "SOURCE_" ++ String.ofList (k.tag.toList.map Char.toUpper)

/-- The kind with a tag. -/
def ofTag? (s : String) : Option Kind := all.find? (·.tag == s)

@[simp] theorem ofTag?_tag (k : Kind) : ofTag? k.tag = some k := by cases k <;> rfl

end Kind

/-- The ways in which a display capture can be cropped. -/
inductive CropVariant where
  | none
  | manual
  | toWindow
  | toWindowAndManual
deriving DecidableEq, Repr

namespace CropVariant

/-- All variants, in the order of their tags. -/
def all : List CropVariant := [none, manual, toWindow, toWindowAndManual]

/-- The number by which a document names a variant. -/
def tag : CropVariant → Int
  | none => 0
  | manual => 1
  | toWindow => 2
  | toWindowAndManual => 3

/-- Whether a variant cuts by a rectangle. -/
def hasRectangle : CropVariant → Bool
  | manual | toWindowAndManual => true
  | none | toWindow => false

/-- Whether a variant follows a window. -/
def hasWindow : CropVariant → Bool
  | toWindow | toWindowAndManual => true
  | none | manual => false

theorem tag_injective {v w : CropVariant} (h : v.tag = w.tag) : v = w := by
  cases v <;> cases w <;> first | rfl | simp [tag] at h

end CropVariant

/-- The parts that payloads are made of. -/
inductive Part where
  | font
  | frameRate
  | resolution
  | slideshowFile
  | crop (variant : CropVariant)
deriving DecidableEq, Repr

/-- A shape of settings. -/
inductive Model where
  | payload (kind : Kind)
  | part (part : Part)
  | update
deriving DecidableEq, Repr

/-- The name of a part. -/
def Part.name : Part → String
  | font => "Font"
  | frameRate => "FrameRate"
  | resolution => "Resolution"
  | slideshowFile => "SlideshowFile"
  | crop .none => "CropNone"
  | crop .manual => "CropManual"
  | crop .toWindow => "CropToWindow"
  | crop .toWindowAndManual => "CropToWindowAndManual"

/-- All parts. -/
def Part.all : List Part :=
  [font, frameRate, resolution, slideshowFile] ++ CropVariant.all.map crop

namespace Model

/-- The name of a model. -/
def name : Model → String
  | payload kind => kind.modelName
  | part p => p.name
  | update => "SourceSettingsUpdate"

/-- All models. -/
def all : List Model := Kind.all.map payload ++ Part.all.map part ++ [update]

/-- The model with a name. -/
def ofName? (s : String) : Option Model := all.find? (·.name == s)

end Model

end SceneSource
