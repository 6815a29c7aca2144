-- SUMMARY: The enumerated settings: their members, names and wire values.

/-!
# Choices

The settings that take one of a few values. A member of an enumeration travels as a text
or as a number, never as its name. `Choice` is the sum of all enumerations, for places
that hold a member of any of them.
-/

namespace SceneSource

/-- What a source does while it is not shown. -/
inductive PlaybackBehavior where
  | alwaysPlay
  | stopRestart
  | pauseUnpause
deriving DecidableEq, Repr

/-- What moves a slideshow on. -/
inductive SlideMode where
  | auto
  | manual
deriving DecidableEq, Repr

/-- How a slideshow passes from one picture to the next. -/
inductive Transition where
  | cut
  | fade
  | swipe
  | slide
deriving DecidableEq, Repr

/-- The color range of a media file. -/
inductive ColorRange where
  | auto
  | limited
  | full
deriving DecidableEq, Repr

/-- The color space of a capture device. -/
inductive ColorSpace where
  | auto
  | rec601
  | rec709
deriving DecidableEq, Repr

/-- The video range of a capture device. -/
inductive VideoRange where
  | auto
  | limited
  | full
deriving DecidableEq, Repr

/-- The named bounding sizes of a slideshow. -/
inductive AspectPreset where
  | automatic
  | sixteenToNine
  | sixteenToTen
  | fourToThree
  | oneToOne
deriving DecidableEq, Repr

namespace AspectPreset

/-- All presets, in order. -/
def all : List AspectPreset := [automatic, sixteenToNine, sixteenToTen, fourToThree, oneToOne]

/-- The text of a preset. -/
def text : AspectPreset → String
  | automatic => "Automatic"
  | sixteenToNine => "16:9"
  | sixteenToTen => "16:10"
  | fourToThree => "4:3"
  | oneToOne => "1:1"

/-- The preset with a text. -/
def ofText? (s : String) : Option AspectPreset := all.find? (·.text == s)

@[simp] theorem ofText?_text (p : AspectPreset) : ofText? p.text = some p := by
  cases p <;> rfl

end AspectPreset

/-- A member of some enumeration. -/
inductive Choice where
  | playback (behavior : PlaybackBehavior)
  | slideMode (mode : SlideMode)
  | transition (transition : Transition)
  | colorRange (range : ColorRange)
  | colorSpace (space : ColorSpace)
  | videoRange (range : VideoRange)
  | aspect (preset : AspectPreset)
deriving DecidableEq, Repr

/-- The enumerations themselves. -/
inductive Enumeration where
  | playback
  | slideMode
  | transition
  | colorRange
  | colorSpace
  | videoRange
  | aspect
deriving DecidableEq, Repr

/-- The wire value of a member. -/
inductive Scalar where
  | text (s : String)
  | number (n : Int)
deriving DecidableEq, Repr

namespace Enumeration

/-- All enumerations. -/
def all : List Enumeration :=
  [playback, slideMode, transition, colorRange, colorSpace, videoRange, aspect]

/-- The name of an enumeration. -/
def name : Enumeration → String
  | playback => "PlaybackBehavior"
  | slideMode => "SlideMode"
  | transition => "Transition"
  | colorRange => "ColorRange"
  | colorSpace => "ColorSpace"
  | videoRange => "VideoRange"
  | aspect => "AspectPreset"

/-- The members of an enumeration, in order. -/
def members : Enumeration → List Choice
  | playback => [.playback .alwaysPlay, .playback .stopRestart, .playback .pauseUnpause]
  | slideMode => [.slideMode .auto, .slideMode .manual]
  | transition =>
      [.transition .cut, .transition .fade, .transition .swipe, .transition .slide]
  | colorRange => [.colorRange .auto, .colorRange .limited, .colorRange .full]
  | colorSpace => [.colorSpace .auto, .colorSpace .rec601, .colorSpace .rec709]
  | videoRange => [.videoRange .auto, .videoRange .limited, .videoRange .full]
  | aspect => AspectPreset.all.map .aspect

/-- Whether the members travel as numbers. -/
def isNumeric : Enumeration → Bool
  | colorRange | colorSpace | videoRange => true
  | playback | slideMode | transition | aspect => false

end Enumeration

namespace Choice

/-- The enumeration of a member. -/
def enumeration : Choice → Enumeration
  | playback _ => .playback
  | slideMode _ => .slideMode
  | transition _ => .transition
  | colorRange _ => .colorRange
  | colorSpace _ => .colorSpace
  | videoRange _ => .videoRange
  | aspect _ => .aspect

/-- The name of a member within its enumeration. -/
def name : Choice → String
  | playback .alwaysPlay => "ALWAYS_PLAY"
  | playback .stopRestart => "STOP_RESTART"
  | playback .pauseUnpause => "PAUSE_UNPAUSE"
  | slideMode .auto => "MODE_AUTO"
  | slideMode .manual => "MODE_MANUAL"
  | transition .cut => "CUT"
  | transition .fade => "FADE"
  | transition .swipe => "SWIPE"
  | transition .slide => "SLIDE"
  | colorRange .auto | colorSpace .auto | videoRange .auto => "AUTO"
  | colorRange .limited | videoRange .limited => "PARTIAL"
  | colorRange .full | videoRange .full => "FULL"
  | colorSpace .rec601 => "REC601"
  | colorSpace .rec709 => "REC709"
  | aspect .automatic => "AUTOMATIC"
  | aspect .sixteenToNine => "SIXTEEN_TO_NINE"
  | aspect .sixteenToTen => "SIXTEEN_TO_TEN"
  | aspect .fourToThree => "FOUR_TO_THREE"
  | aspect .oneToOne => "ONE_TO_ONE"

/-- The wire value of a member. -/
def value : Choice → Scalar
  | playback .alwaysPlay => .text "always_play"
  | playback .stopRestart => .text "stop_restart"
  | playback .pauseUnpause => .text "pause_unpause"
  | slideMode .auto => .text "mode_auto"
  | slideMode .manual => .text "mode_manual"
  | transition .cut => .text "cut"
  | transition .fade => .text "fade"
  | transition .swipe => .text "swipe"
  | transition .slide => .text "slide"
  | colorRange .auto => .number 0
  | colorRange .limited => .number 1
  | colorRange .full => .number 2
  | colorSpace .auto => .number (-1)
  | colorSpace .rec601 => .number 1
  | colorSpace .rec709 => .number 2
  | videoRange .auto => .number (-1)
  | videoRange .limited => .number 1
  | videoRange .full => .number 2
  | aspect preset => .text preset.text

/-- The enumeration and the name of a member, with a point between them. -/
def fullName (c : Choice) : String := s!"{c.enumeration.name}.{c.name}"

/-- All members of all enumerations. -/
def all : List Choice := Enumeration.all.flatMap (·.members)

/-- The member with a full name. -/
def ofFullName? (s : String) : Option Choice := all.find? (·.fullName == s)

end Choice

/-- The member of an enumeration with a wire value. -/
def Enumeration.find? (e : Enumeration) (s : Scalar) : Option Choice :=
  e.members.find? (·.value == s)

/-- Within its enumeration a member is found by its wire value. -/
@[simp] theorem Enumeration.find?_value (c : Choice) : c.enumeration.find? c.value = some c := by
  cases c with
  | playback b => cases b <;> rfl
  | slideMode m => cases m <;> rfl
  | transition t => cases t <;> rfl
  | colorRange r => cases r <;> rfl
  | colorSpace s => cases s <;> rfl
  | videoRange r => cases r <;> rfl
  | aspect p => cases p <;> rfl

end SceneSource
