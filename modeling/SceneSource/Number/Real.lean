-- SUMMARY: Doubles read from text.
import SceneSource.Number.Double
import SceneSource.Number.Integer

/-!
# Reals in text

A real is one sign, then a word for an infinity or for NaN in any case, or ASCII digits
with an optional point and exponent. The text of a real field has white space around one,
or else single underscores anywhere inside.
-/

namespace SceneSource.Real

open SceneSource.Text SceneSource.Integer

/-- The words that are no digits: `some true` for infinity, `some false` for NaN. -/
def word? (cs : List Char) : Option Bool :=
  let low := cs.map Char.toLower
  if low = "inf".toList ∨ low = "infinity".toList then some true
  else if low = "nan".toList then some false
  else none

/-- The digits at the front and what follows them. -/
def digits (cs : List Char) : List Nat × List Char :=
  let ds := cs.takeWhile fun c => (asciiDigit? c).isSome
  (ds.filterMap asciiDigit?, cs.drop ds.length)

/-- The digits behind a point, if there is a point. -/
def fractionPart : List Char → List Nat × List Char
  | '.' :: cs => digits cs
  | cs => ([], cs)

/-- The exponent at the end of a text; a text without one has exponent zero. -/
def exponentPart? : List Char → Option Int
  | [] => some 0
  | c :: cs =>
    if c = 'e' ∨ c = 'E' then
      let (negative, body) := sign cs
      match digits body with
      | (d :: ds, []) => some (signed negative (ofDigits (d :: ds)))
      | _ => none
    else none

/-- Reads an unsigned decimal as its digits and a power of ten. -/
def decimal? (cs : List Char) : Option (Nat × Int) :=
  let (whole, rest) := digits cs
  let (back, rest) := fractionPart rest
  if whole.isEmpty && back.isEmpty then none
  else (exponentPart? rest).map fun e => (ofDigits (whole ++ back), e - back.length)

/-- Reads a real without anything around it. -/
def readPlain? (cs : List Char) : Option Double :=
  let (negative, body) := sign cs
  match word? body with
  | some true => some (.infinity negative)
  | some false => some .nan
  | none => (decimal? body).map fun (n, e) => .ofDecimal negative n e

/-- Reads the text of a real field. -/
def read? (cs : List Char) : Option Double :=
  readPlain? (trim isWhite cs) <|> (withoutUnderscores? cs).bind readPlain?

end SceneSource.Real
