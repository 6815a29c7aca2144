-- SUMMARY: UTF-8 read strictly, with the place and length of the first ill-formed sequence.

/-!
# UTF-8

`decode` reads bytes as UTF-8 (RFC 3629: shortest form, no surrogates, nothing past
U+10FFFF). Where it fails it says how many bytes were well formed and how many bytes
the first ill-formed sequence has; a sequence that the end of the input cuts off has
no length. `symbols` reads on past ill-formed bytes and keeps them as strays.
-/

namespace SceneSource.Text

/-- Where a byte string stops being UTF-8. -/
structure Utf8Error where
  /-- The number of well-formed bytes before the failure. -/
  validUpTo : Nat
  /-- The length of the ill-formed sequence, or nothing if the input ends inside it. -/
  length? : Option Nat
deriving DecidableEq, Repr

namespace Utf8

/-- Whether a byte continues a sequence. -/
def isTail (b : UInt8) : Bool := 0x80 ≤ b && b ≤ 0xBF

/-- Whether `b` may follow the first byte `a` of a sequence of three or four bytes. -/
def isSecond (a b : UInt8) : Bool :=
  if a == 0xE0 then 0xA0 ≤ b && b ≤ 0xBF
  else if a == 0xED then 0x80 ≤ b && b ≤ 0x9F
  else if a == 0xF0 then 0x90 ≤ b && b ≤ 0xBF
  else if a == 0xF4 then 0x80 ≤ b && b ≤ 0x8F
  else isTail b

/-- The bits that a continuation byte adds. -/
def tailBits (b : UInt8) : Nat := b.toNat % 0x40

/-- The character that starts with the byte `a`, and how many of the bytes after it
    belong to it; or the length of the ill-formed sequence. -/
def front (a : UInt8) (rest : List UInt8) : Except (Option Nat) (Char × Nat) :=
  if a < 0x80 then .ok (Char.ofNat a.toNat, 0)
  else if a < 0xC2 || 0xF4 < a then .error (some 1)
  else match rest with
    | [] => .error none
    | b :: rest =>
      if a < 0xE0 then
        if isTail b then .ok (Char.ofNat (a.toNat % 0x20 * 0x40 + tailBits b), 1)
        else .error (some 1)
      else if !isSecond a b then .error (some 1)
      else match rest with
        | [] => .error none
        | c :: rest =>
          if !isTail c then .error (some 2)
          else if a < 0xF0 then
            .ok (Char.ofNat (a.toNat % 0x10 * 0x1000 + tailBits b * 0x40 + tailBits c), 2)
          else match rest with
            | [] => .error none
            | d :: _ =>
              if !isTail d then .error (some 3)
              else .ok (Char.ofNat (a.toNat % 0x08 * 0x40000 + tailBits b * 0x1000 +
                tailBits c * 0x40 + tailBits d), 3)

end Utf8

/-- Reads a byte string that has to be UTF-8 throughout; `before` bytes precede it. -/
def decodeFrom (before : Nat) : List UInt8 → Except Utf8Error (List Char)
  | [] => .ok []
  | b :: rest =>
    match Utf8.front b rest with
    | .error length? => .error ⟨before, length?⟩
    | .ok (c, n) => (decodeFrom (before + n + 1) (rest.drop n)).map (c :: ·)
termination_by bs => bs.length

/-- The text that a byte string encodes. -/
def decode (bs : List UInt8) : Except Utf8Error String :=
  (decodeFrom 0 bs).map String.ofList

/-- The UTF-8 bytes of a text. -/
def encode (s : String) : List UInt8 := s.toList.flatMap String.utf8EncodeChar

/-- A character of a byte string, or a byte that belongs to no well-formed sequence. -/
inductive Symbol where
  | char (c : Char)
  | stray (b : UInt8)
deriving DecidableEq, Repr

/-- The number of bytes that a symbol stands for. -/
def Symbol.width : Symbol → Nat
  | .char c => c.utf8Size
  | .stray _ => 1

/-- The number of bytes of some symbols. -/
def byteCount (s : List Symbol) : Nat := s.foldr (fun x n => x.width + n) 0

/-- The symbols for the bytes of a symbol. -/
def Symbol.split : Symbol → List Symbol
  | .char c => (String.utf8EncodeChar c).map .stray
  | .stray b => [.stray b]

/-- The symbols within the given number of bytes; a character that they cut is split. -/
def takeBytes : Nat → List Symbol → List Symbol
  | _, [] => []
  | n, x :: s => if x.width ≤ n then x :: takeBytes (n - x.width) s else x.split.take n

/-- What follows the given number of bytes; a character that they cut is split. -/
def dropBytes : Nat → List Symbol → List Symbol
  | _, [] => []
  | n, x :: s =>
    if n = 0 then x :: s
    else if x.width ≤ n then dropBytes (n - x.width) s
    else x.split.drop n ++ s

/-- The symbols of a byte string: its characters, and as strays the bytes at which no
    well-formed sequence starts. -/
def symbols : List UInt8 → List Symbol
  | [] => []
  | b :: rest =>
    match Utf8.front b rest with
    | .error _ => .stray b :: symbols rest
    | .ok (c, n) => .char c :: symbols (rest.drop n)
termination_by bs => bs.length

end SceneSource.Text
