-- SUMMARY: Texts and byte strings in quotes, as messages show them.
import SceneSource.Text.Hex
import SceneSource.Text.Printable

/-!
# Quoted texts

A message shows a text between single quotes, or between double quotes when it holds
a single quote and no double one. Inside, the backslash, the quote itself, the line
and tab characters and whatever does not print are escaped; bytes outside printable
ASCII are written by their hexadecimal value.
-/

namespace SceneSource.Text

/-- The quote around a text: double only where that saves escaping. -/
def quoteFor (cs : List Char) : Char :=
  if cs.contains '\'' && !cs.contains '"' then '"' else '\''

/-- The letter that stands for a control character behind a backslash. -/
def controlLetter? : Char → Option Char
  | '\t' => some 't'
  | '\n' => some 'n'
  | '\r' => some 'r'
  | _ => none

/-- One character of a quoted text. -/
def quoteChar (quote c : Char) : List Char :=
  if c = quote ∨ c = '\\' then ['\\', c]
  else match controlLetter? c with
    | some letter => ['\\', letter]
    | none =>
      if isPrintable c then [c]
      else if c.toNat < 0x100 then ['\\', 'x'] ++ hexDigits 2 c.toNat
      else if c.toNat < 0x10000 then ['\\', 'u'] ++ hexDigits 4 c.toNat
      else ['\\', 'U'] ++ hexDigits 8 c.toNat

/-- A text in quotes. -/
def quoted (s : String) : String :=
  let q := quoteFor s.toList
  String.ofList (q :: s.toList.flatMap (quoteChar q) ++ [q])

/-- One byte of a quoted byte string: as the character of its value within printable
    ASCII, and by its value elsewhere. -/
def quoteByte (quote : Char) (b : UInt8) : List Char :=
  if b < 0x7F then quoteChar quote (Char.ofNat b.toNat) else ['\\', 'x'] ++ hexDigits 2 b.toNat

/-- A byte string in quotes, marked with a leading `b`. -/
def quotedBytes (bs : List UInt8) : String :=
  let q := quoteFor (bs.map fun b => Char.ofNat b.toNat)
  String.ofList ('b' :: q :: bs.flatMap (quoteByte q) ++ [q])

end SceneSource.Text
