-- SUMMARY: Bounding sizes of a slideshow: presets, ratios and sizes in pixels, read and written.
import SceneSource.Text.Blank
import SceneSource.Value.Shown

/-!
# Bounding sizes

A bounding size is a preset, a free ratio `width:height` or a size `widthxheight` in
pixels. Reading allows blanks around the numbers and digits of any script; a text that is
the text of a preset is always the preset.
-/

namespace SceneSource.BoundingSize

open SceneSource.Text

/-- What stands between the two numbers of a bounding size. -/
inductive Separator where
  | colon
  | cross
deriving DecidableEq, Repr

/-- The separator that a character is. -/
def separator? : Char → Option Separator
  | ':' => some .colon
  | 'x' | 'X' => some .cross
  | _ => none

/-- Splits a text into two runs of digits and the separator between them; blanks may
    stand around each of the three. -/
def split? (cs : List Char) : Option (List Char × Separator × List Char) :=
  let cs := trim isBlank cs
  let first := cs.takeWhile isDigit
  match (cs.dropWhile isDigit).dropWhile isBlank with
  | [] => none
  | c :: rest =>
    let second := rest.dropWhile isBlank
    if first.isEmpty || second.isEmpty || !second.all isDigit then none
    else (separator? c).map fun sep => (first, sep, second)

/-- The number of a run of digits. -/
def number (cs : List Char) : Except Fault Int :=
  match Integer.readDigits cs with
  | .ok n => .ok n
  | .error (.tooLong digits) => .error (.numeralDigits digits)
  | .error .malformed => .error (.numeral (Text.quoted (String.ofList cs)))

/-- The bounding size with given numbers. -/
def make (sep : Separator) (width height : Int) : Value :=
  match sep with
  | .colon => .ratio (.int width) (.int height)
  | .cross => .size (.int width) (.int height)

/-- Reads a bounding size; `shown` is what the text was given as. -/
def read (shown : Value) (s : String) : Except Fault Value :=
  match AspectPreset.ofText? (String.ofList (trim isBlank s.toList)) with
  | some preset => .ok (.choice (.aspect preset))
  | none => match split? s.toList with
    | some (first, sep, second) => do
      let width ← number first
      let height ← number second
      return make sep width height
    | none => do .error (.sizeUnknown (← shown.show?))

/-- Reads a bounding size from a value that has to be a text. -/
def parse (v : Value) : Except Fault Value :=
  match v with
  | .bytes _ => .error .sizeBytes
  | v => match v.text? with
    | some s => read v s
    | none => .error (.noAttribute v.fullTypeName "strip")

/-- Writes a bounding size. -/
def format (v : Value) : Except Fault String :=
  match v with
  | .choice (.aspect preset) => .ok preset.text
  | .ratio .. | .size .. => v.display?
  | v => do .error (.sizeRequired (← v.show?))

/-- What a field for a bounding size stores for a value. -/
def ofValue (v : Value) : Except Fault Value :=
  match v with
  | .choice (.aspect _) | .ratio .. | .size .. => .ok v
  | v => match v.text? with
    | some s => read v s
    | none => do .error (.sizeExpected (← v.show?))

end SceneSource.BoundingSize
