-- SUMMARY: Upper case, as far as it yields letters of ASCII.

/-!
# Upper case

The upper case of every character whose upper case is made of ASCII letters: the letters
of ASCII themselves and the few letters and ligatures elsewhere that Unicode maps there.
Every other character stays as it is, so it never turns into an ASCII letter.
-/

namespace SceneSource.Text

/-- The upper case of one character. -/
def upper (c : Char) : List Char :=
  if 'a' ≤ c ∧ c ≤ 'z' then [c.toUpper]
  else match c.toNat with
    | 0xDF => ['S', 'S']
    | 0x131 => ['I']
    | 0x17F => ['S']
    | 0xFB00 => ['F', 'F']
    | 0xFB01 => ['F', 'I']
    | 0xFB02 => ['F', 'L']
    | 0xFB03 => ['F', 'F', 'I']
    | 0xFB04 => ['F', 'F', 'L']
    | 0xFB05 => ['S', 'T']
    | 0xFB06 => ['S', 'T']
    | _ => [c]

end SceneSource.Text
