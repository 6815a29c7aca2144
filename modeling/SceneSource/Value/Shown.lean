-- SUMMARY: Values as messages show them, and as they read inside a sentence.
import SceneSource.FontFlag
import SceneSource.Number.Integer
import SceneSource.Number.Shortest
import SceneSource.Text.Quoted
import SceneSource.Value.Basic

/-!
# Values in messages

`shown` is the unambiguous text of a value: texts in quotes, collections in brackets,
members of enumerations with their name and value. `display` is the text that a value
has on its own, where a text is itself. Neither exists for a value that holds an integer
of too many digits: `show?` and `display?` fail then.
-/

namespace SceneSource.Value

/-- Font flags by name; bits without a name are added as a number, and flags without any
    name have none. -/
def flagsText (n : Nat) : String :=
  let named := (FontFlag.all.filter fun f => n &&& f.bit ≠ 0).map (·.name)
  if named.isEmpty then "FontFlags"
  else "FontFlags." ++ "|".intercalate (named ++ if n < 16 then [] else [toString (n / 16 * 16)])

/-- A double as messages show it. -/
def realText (d : Double) : String := String.ofList (Layout.message.write d)

/-- A wire value as messages show it. -/
def scalarShown : Scalar → String
  | .text s => Text.quoted s
  | .number n => toString n

mutual

/-- The unambiguous text of a value. -/
def shown : Value → String
  | null => "None"
  | bool true => "True"
  | bool false => "False"
  | int n => toString n
  | real d => realText d
  | text s => Text.quoted s
  | bytes bs => Text.quotedBytes bs
  | list xs => "[" ++ ", ".intercalate (shownItems xs) ++ "]"
  | tuple xs => match shownItems xs with
    | [x] => "(" ++ x ++ ",)"
    | xs => "(" ++ ", ".intercalate xs ++ ")"
  | set xs => match shownItems xs with
    | [] => "set()"
    | xs => "\x7b" ++ ", ".intercalate xs ++ "\x7d"
  | mapping entries => "\x7b" ++ ", ".intercalate (shownEntries entries) ++ "\x7d"
  | duration d => d.shown
  | color r g b a =>
      "Rgba8(r=" ++ r.shown ++ ", g=" ++ g.shown ++ ", b=" ++ b.shown ++ ", a=" ++ a.shown ++ ")"
  | flags n => "<" ++ flagsText n ++ ": " ++ toString n ++ ">"
  | choice c => "<" ++ c.fullName ++ ": " ++ scalarShown c.value ++ ">"
  | path s => "PosixPath(" ++ Text.quoted s ++ ")"
  | caselessPath s _ =>
      let slashed := s.toList.map fun c => if c = '\\' then '/' else c
      "PureWindowsPath(" ++ Text.quoted (String.ofList slashed) ++ ")"
  | pathLike .. => "<PathLike object>"
  | ratio w h => "CustomRatio(width=" ++ w.shown ++ ", height=" ++ h.shown ++ ")"
  | size w h => "CustomSize(width=" ++ w.shown ++ ", height=" ++ h.shown ++ ")"
  | record m attributes =>
      m.name ++ "(" ++ ", ".intercalate (shownAttributes attributes) ++ ")"
  | object _ => "<object object>"

/-- The texts of the items of a collection. -/
def shownItems : List Value → List String
  | [] => []
  | x :: xs => x.shown :: shownItems xs

/-- The texts of the entries of a mapping. -/
def shownEntries : List (String × Value) → List String
  | [] => []
  | (k, v) :: rest => (Text.quoted k ++ ": " ++ v.shown) :: shownEntries rest

/-- The texts of the attributes of an instance. -/
def shownAttributes : List (String × Value) → List String
  | [] => []
  | (k, v) :: rest => (k ++ "=" ++ v.shown) :: shownAttributes rest

end

/-- The text that a value has on its own. -/
def display : Value → String
  | text s => s
  | path s => s
  | caselessPath s _ => s
  | flags n => toString n
  | duration d => d.clock
  | choice c => match c.value with
    | .number n => toString n
    | .text _ => c.fullName
  | ratio w h => w.display ++ ":" ++ h.display
  | size w h => w.display ++ "x" ++ h.display
  | record _ attributes => " ".intercalate (shownAttributes attributes)
  | v => v.shown

-- ---------------------------------------------------------------------------
-- Integers that are too long to show
-- ---------------------------------------------------------------------------

mutual

/-- Whether a value holds an integer of too many digits to be written. -/
def isOversize : Value → Bool
  | int n => !Integer.fits n
  | flags n => !Integer.fits n
  | list xs | tuple xs | set xs => anyOversize xs
  | mapping entries | record _ entries => anyOversizeEntry entries
  | color r g b a => r.isOversize || g.isOversize || b.isOversize || a.isOversize
  | ratio w h | size w h => w.isOversize || h.isOversize
  | null | bool _ | real _ | text _ | bytes _ | duration _ => false
  | choice _ | path _ | caselessPath .. | pathLike .. | object _ => false

/-- `isOversize` for the items of a collection. -/
def anyOversize : List Value → Bool
  | [] => false
  | x :: xs => x.isOversize || anyOversize xs

/-- `isOversize` for the entries of a mapping. -/
def anyOversizeEntry : List (String × Value) → Bool
  | [] => false
  | (_, v) :: rest => v.isOversize || anyOversizeEntry rest

end

/-- The unambiguous text of a value, unless an integer in it is too long. -/
def show? (v : Value) : Except Fault String :=
  if v.isOversize then .error .digitLimit else .ok v.shown

/-- The text of a value on its own, unless an integer in it is too long. -/
def display? (v : Value) : Except Fault String :=
  if v.isOversize then .error .digitLimit else .ok v.display

end SceneSource.Value
