-- SUMMARY: The four style flags of a font, with their names and bits.

/-!
# Font flags by name
-/

namespace SceneSource

/-- A style flag of a font. -/
inductive FontFlag where
  | bold
  | italic
  | underline
  | strikeout
deriving DecidableEq, Repr

namespace FontFlag

/-- All flags, lowest bit first. -/
def all : List FontFlag := [bold, italic, underline, strikeout]

/-- The name of a flag. -/
def name : FontFlag → String
  | bold => "BOLD"
  | italic => "ITALIC"
  | underline => "UNDERLINE"
  | strikeout => "STRIKEOUT"

/-- The bit of a flag. -/
def bit : FontFlag → Nat
  | bold => 1
  | italic => 2
  | underline => 4
  | strikeout => 8

/-- The flag with a name. -/
def ofName? (s : String) : Option FontFlag := all.find? (·.name == s)

@[simp] theorem ofName?_name (f : FontFlag) : ofName? f.name = some f := by
  cases f <;> rfl

end FontFlag

end SceneSource
