-- SUMMARY: The blank characters of Unicode and trimming by a class of characters.

/-!
# Blanks

Two classes of blank characters. `isBlank` is the class that a flag name and a bounding
size may be surrounded by; `isWhite` is Unicode's property `White_Space`, the narrower
class that the text of a number may be surrounded by. They differ in the four
information separators only. Bytes that spell a number may have `isAsciiWhite` around
them.
-/

namespace SceneSource.Text

/-- The blank characters: the ASCII blanks, the four information separators and
    the space characters of Unicode. -/
def isBlank (c : Char) : Bool :=
  let n := c.toNat
  (9 ≤ n && n ≤ 13) || (28 ≤ n && n ≤ 32) || n == 0x85 || n == 0xA0 || n == 0x1680 ||
    (0x2000 ≤ n && n ≤ 0x200A) || n == 0x2028 || n == 0x2029 || n == 0x202F || n == 0x205F ||
    n == 0x3000

/-- The blanks that have Unicode's property `White_Space`: all but the information
    separators. -/
def isWhite (c : Char) : Bool :=
  isBlank c && !(28 ≤ c.toNat && c.toNat ≤ 31)

/-- The white space of ASCII. -/
def isAsciiWhite (c : Char) : Bool :=
  isWhite c && c.toNat < 0x80

/-- Drops the characters of a class at both ends. -/
def trim (p : Char → Bool) (cs : List Char) : List Char :=
  ((cs.dropWhile p).reverse.dropWhile p).reverse

@[simp] theorem trim_nil (p : Char → Bool) : trim p [] = [] := rfl

end SceneSource.Text
