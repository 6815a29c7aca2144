-- SUMMARY: Reading JSON documents from text.
import SceneSource.Json.Basic
import SceneSource.Json.Error
import SceneSource.Number.Integer

/-!
# Reading JSON

The grammar of RFC 8259, and besides the words `NaN`, `Infinity` and `-Infinity`. Of
entries with one key the last counts, in the place of the first. Arrays and objects nest
at most `maxDepth` deep.

A reader takes the symbols in front of it and gives a result with what is left. The loops
over items, entries and characters are bounded by the number of symbols, of which each
step takes at least one. Nesting is bounded by the depth that is left: `element` of one
depth reads what an array or an object of the next depth holds.
-/

namespace SceneSource.Json

open SceneSource.Text

/-- The number of containers that may be open around a value. -/
def maxDepth : Nat := 200

/-- A reader of what starts at the front of the input. -/
abbrev Reader (α : Type) := List Symbol → Except ReadError (α × List Symbol)

-- ---------------------------------------------------------------------------
-- White space and words
-- ---------------------------------------------------------------------------

/-- The white space of JSON. -/
def isSpace : Symbol → Bool
  | .char c => c = ' ' || c = '\t' || c = '\n' || c = '\r'
  | .stray _ => false

/-- What follows the white space at the front. -/
def skipSpace (s : List Symbol) : List Symbol := s.dropWhile isSpace

/-- Passes over the given characters. -/
def expectWord : List Char → List Symbol → Except ReadError (List Symbol)
  | [], s => .ok s
  | _ :: _, [] => .error ⟨.endOfValue, []⟩
  | c :: cs, x :: s => if x = .char c then expectWord cs s else .error ⟨.word, x :: s⟩

/-- Reads the rest of a word, and gives what the word stands for. -/
def word (rest : String) (j : Json) : Reader Json := fun s => do
  return (j, ← expectWord rest.toList s)

-- ---------------------------------------------------------------------------
-- Numbers
-- ---------------------------------------------------------------------------

/-- The value of a digit. -/
def digit? : Symbol → Option Nat
  | .char c => asciiDigit? c
  | .stray _ => none

/-- The digits at the front and what follows them. -/
def digits : List Symbol → List Nat × List Symbol
  | [] => ([], [])
  | x :: s =>
    match digit? x with
    | some d => let (ds, rest) := digits s; (d :: ds, rest)
    | none => ([], x :: s)

/-- At least one digit. -/
def someDigits : Reader (List Nat) := fun s =>
  match digits s with
  | ([], []) => .error ⟨.endOfValue, []⟩
  | ([], x :: rest) => .error ⟨.number, x :: rest⟩
  | (ds, rest) => .ok (ds, rest)

/-- The sign of an exponent; whether it is a minus, and what follows. -/
def exponentSign : List Symbol → Bool × List Symbol
  | .char '-' :: s => (true, s)
  | .char '+' :: s => (false, s)
  | s => (false, s)

/-- The exponent of a number, if the letter for it is at the front. -/
def exponent? : Reader (Option Int) := fun s =>
  match s with
  | .char 'e' :: rest | .char 'E' :: rest => do
    let (negative, body) := exponentSign rest
    let (ds, rest) ← someDigits body
    return (some (Integer.signed negative (Integer.ofDigits ds)), rest)
  | s => .ok (none, s)

/-- The digits behind the point of a number, if the point is at the front. -/
def fraction? : Reader (Option (List Nat)) := fun s =>
  match s with
  | .char '.' :: rest => do
    let (ds, rest) ← someDigits rest
    return (some ds, rest)
  | s => .ok (none, s)

/-- The number of an integer part and whatever follows it. -/
def numberTail (negative : Bool) (whole : List Nat) : Reader Json := fun s => do
  let (back, s) ← fraction? s
  let (power, s) ← exponent? s
  match back, power with
  | none, none => return (.int (Integer.signed negative (Integer.ofDigits whole)), s)
  | back, power =>
    let back := back.getD []
    let scale := power.getD 0 - back.length
    return (.real (.ofDecimal negative (Integer.ofDigits (whole ++ back)) scale), s)

/-- Reads a number without its minus. The integer part may not have more digits than an
    integer has. -/
def unsigned (negative : Bool) : Reader Json := fun s =>
  match s with
  | [] => .error ⟨.endOfValue, []⟩
  | .char 'I' :: rest => do
    let rest ← expectWord "nfinity".toList rest
    return (.real (.infinity negative), rest)
  | .char '0' :: x :: rest =>
    if (digit? x).isSome then .error ⟨.number, x :: rest⟩
    else numberTail negative [0] (x :: rest)
  | s =>
    match digits s with
    | ([], rest) => .error ⟨.number, rest⟩
    | (ds, rest) =>
      if Integer.maxDigits < ds.length then
        .error ⟨.numberRange, s.drop (Integer.maxDigits + 1)⟩
      else numberTail negative ds rest

/-- Reads a number. -/
def number : Reader Json := fun s =>
  match s with
  | .char '-' :: rest => unsigned true rest
  | s => unsigned false s

-- ---------------------------------------------------------------------------
-- Texts
-- ---------------------------------------------------------------------------

/-- The value of a hexadecimal digit. -/
def hexDigit? : Symbol → Option Nat
  | .char c => hexValue? c
  | .stray _ => none

/-- Reads hexadecimal digits, the last of which stays in front of what is left. -/
def hexRun : (count n : Nat) → Reader Nat
  | _, _, [] => .error ⟨.endOfText, []⟩
  | count, n, x :: s =>
    match hexDigit? x with
    | none => .error ⟨.escape, x :: s⟩
    | some d =>
      match count with
      | 0 | 1 => .ok (16 * n + d, x :: s)
      | count + 2 => hexRun (count + 1) (16 * n + d) s

/-- Reads the four digits of a hexadecimal escape, the last of which stays in front of
    what is left. -/
def fourHex : Reader Nat := fun s =>
  if byteCount s < 4 then .error ⟨.endOfText, []⟩ else hexRun 4 0 s

/-- Reads the second half of a character beyond U+FFFF; `high` is the first half, whose
    last digit is at the front. -/
def lowSurrogate (high : Nat) : Reader Char := fun s =>
  match s with
  | _ :: .char '\\' :: .char 'u' :: rest => do
    let (low, rest) ← fourHex rest
    if 0xDC00 ≤ low ∧ low ≤ 0xDFFF then
      return (Char.ofNat (0x10000 + (high - 0xD800) * 0x400 + (low - 0xDC00)), rest)
    else .error ⟨.loneSurrogate, rest⟩
  | _ :: .char '\\' :: x :: rest => .error ⟨.hexEscape, x :: rest⟩
  | [_, .char '\\'] | [_] | [] => .error ⟨.endOfText, []⟩
  | _ :: rest => .error ⟨.hexEscape, rest⟩

/-- Reads the character of a hexadecimal escape whose digits are at the front; the last
    digit stays in front of what is left. -/
def hexEscape : Reader Char := fun s => do
  let (n, rest) ← fourHex s
  if 0xDC00 ≤ n ∧ n ≤ 0xDFFF then .error ⟨.loneSurrogate, rest⟩
  else if 0xD800 ≤ n ∧ n ≤ 0xDBFF then lowSurrogate n rest
  else return (Char.ofNat n, rest)

/-- The character that a letter behind a backslash stands for. -/
def unescapeLetter? : Char → Option Char
  | '"' => some '"'
  | '\\' => some '\\'
  | '/' => some '/'
  | 'b' => some '\x08'
  | 'f' => some '\x0c'
  | 'n' => some '\n'
  | 'r' => some '\r'
  | 't' => some '\t'
  | _ => none

/-- Reads what follows a backslash. -/
def escape : Reader Char := fun s =>
  match s with
  | [] => .error ⟨.endOfText, []⟩
  | .char 'u' :: rest => do
    let (c, rest) ← hexEscape rest
    return (c, rest.drop 1)
  | .char c :: rest =>
    match unescapeLetter? c with
    | some d => .ok (d, rest)
    | none => .error ⟨.escape, .char c :: rest⟩
  | .stray b :: rest => .error ⟨.escape, .stray b :: rest⟩

/-- Reads the symbols of a text up to its closing quote, escapes resolved. The input gets
    shorter with every symbol; `fuel` is its length. -/
def textSymbols : (fuel : Nat) → Reader (List Symbol)
  | _, [] => .error ⟨.endOfText, []⟩
  | 0, s => .error ⟨.endOfText, s⟩
  | fuel + 1, x :: s =>
    match x with
    | .char '"' => .ok ([], s)
    | .char '\\' => do
      let (c, rest) ← escape s
      let (more, rest) ← textSymbols fuel rest
      return (.char c :: more, rest)
    | .char c =>
      if c.toNat < 0x20 then .error ⟨.control, x :: s⟩
      else do
        let (more, rest) ← textSymbols fuel s
        return (x :: more, rest)
    | .stray _ => do
      let (more, rest) ← textSymbols fuel s
      return (x :: more, rest)

/-- The character that a symbol is. -/
def char? : Symbol → Option Char
  | .char c => some c
  | .stray _ => none

/-- Reads a text behind its opening quote. Bytes that are no UTF-8 are an error that
    counts, from the start, the bytes that the text, escapes resolved, has in front of
    them. -/
def quotedText : Reader String := fun s => do
  let (symbols, rest) ← textSymbols s.length s
  match symbols.mapM char? with
  | some cs => return (String.ofList cs, rest)
  | none =>
    let sound := symbols.takeWhile fun x => (char? x).isSome
    .error ⟨.codePoint, dropBytes (byteCount sound) s⟩

-- ---------------------------------------------------------------------------
-- Containers
-- ---------------------------------------------------------------------------

/-- Reads on behind an item of an array. -/
def moreItems (element : Reader Json) : (fuel : Nat) → Reader (List Json)
  | 0, s => .error ⟨.endOfArray, s⟩
  | fuel + 1, s =>
    match skipSpace s with
    | [] => .error ⟨.endOfArray, []⟩
    | .char ']' :: rest => .ok ([], rest)
    | .char ',' :: rest =>
      match skipSpace rest with
      | [] => .error ⟨.endOfValue, []⟩
      | .char ']' :: rest => .error ⟨.trailingComma, .char ']' :: rest⟩
      | rest => do
        let (item, rest) ← element rest
        let (more, rest) ← moreItems element fuel rest
        return (item :: more, rest)
    | rest => .error ⟨.arrayStep, rest⟩

/-- Reads an array behind its opening bracket. -/
def items (element : Reader Json) : Reader (List Json) := fun s =>
  match skipSpace s with
  | [] => .error ⟨.endOfArray, []⟩
  | .char ']' :: rest => .ok ([], rest)
  | rest => do
    let (item, rest) ← element rest
    let (more, rest) ← moreItems element rest.length rest
    return (item :: more, rest)

/-- Reads an entry of an object behind the opening quote of its key. -/
def entry (element : Reader Json) : Reader (String × Json) := fun s => do
  let (key, rest) ← quotedText s
  match skipSpace rest with
  | [] => .error ⟨.endOfObject, []⟩
  | .char ':' :: rest =>
    match skipSpace rest with
    | [] => .error ⟨.endOfValue, []⟩
    | rest => do
      let (value, rest) ← element rest
      return ((key, value), rest)
  | rest => .error ⟨.colon, rest⟩

/-- Reads on behind an entry of an object. -/
def moreEntries (element : Reader Json) : (fuel : Nat) → Reader (List (String × Json))
  | 0, s => .error ⟨.endOfObject, s⟩
  | fuel + 1, s =>
    match skipSpace s with
    | [] => .error ⟨.endOfObject, []⟩
    | .char '}' :: rest => .ok ([], rest)
    | .char ',' :: rest =>
      match skipSpace rest with
      | [] => .error ⟨.endOfValue, []⟩
      | .char '"' :: rest => do
        let (first, rest) ← entry element rest
        let (more, rest) ← moreEntries element fuel rest
        return (first :: more, rest)
      | .char '}' :: rest => .error ⟨.trailingComma, .char '}' :: rest⟩
      | rest => .error ⟨.key, rest⟩
    | rest => .error ⟨.objectStep, rest⟩

/-- Reads an object behind its opening brace. -/
def entries (element : Reader Json) : Reader (List (String × Json)) := fun s =>
  match skipSpace s with
  | [] => .error ⟨.endOfObject, []⟩
  | .char '}' :: rest => .ok ([], rest)
  | .char '"' :: rest => do
    let (first, rest) ← entry element rest
    let (more, rest) ← moreEntries element rest.length rest
    return (first :: more, rest)
  | rest => .error ⟨.key, rest⟩

/-- Puts an entry in front of others, unless one of them has its key: its place is then
    taken with the value of the last of them. -/
def insertEntry (key : String) (j : Json) (rest : List (String × Json)) : List (String × Json) :=
  match rest.lookup key with
  | some last => (key, last) :: rest.filter fun e => e.1 ≠ key
  | none => (key, j) :: rest

/-- Entries with distinct keys: each key in its first place, with its last value. -/
def distinctKeys (entries : List (String × Json)) : List (String × Json) :=
  entries.foldr (fun e rest => insertEntry e.1 e.2 rest) []

-- ---------------------------------------------------------------------------
-- Documents
-- ---------------------------------------------------------------------------

/-- Reads a value whose first symbol is at the front; `element` reads what it holds. -/
def valueWith (element : Reader Json) : Reader Json := fun s =>
  match s with
  | [] => .error ⟨.endOfValue, []⟩
  | .char 'n' :: rest => word "ull" .null rest
  | .char 't' :: rest => word "rue" (.bool true) rest
  | .char 'f' :: rest => word "alse" (.bool false) rest
  | .char 'N' :: rest => word "aN" (.real .nan) rest
  | .char '"' :: rest => do
    let (s, rest) ← quotedText rest
    return (.text s, rest)
  | .char '[' :: rest => do
    let (items, rest) ← items element rest
    return (.array items, rest)
  | .char '{' :: rest => do
    let (found, rest) ← entries element rest
    return (.object (distinctKeys found), rest)
  | x :: rest =>
    if (digit? x).isSome ∨ x = .char '-' ∨ x = .char 'I' then number (x :: rest)
    else .error ⟨.value, x :: rest⟩

/-- Reads a value inside of containers, when `depth` more of them may be opened; at the
    limit there is nothing to read any more. -/
def element : (depth : Nat) → Reader Json
  | 0, s => .error ⟨.depth, s⟩
  | depth + 1, s => valueWith (element depth) s

/-- Reads a whole document. -/
def document (s : List Symbol) : Except ReadError Json := do
  let (j, rest) ← valueWith (element maxDepth) (skipSpace s)
  match skipSpace rest with
  | [] => return j
  | rest => .error ⟨.trailing, rest⟩

/-- The document of some symbols. -/
def ofSymbols (s : List Symbol) : Except Fault Json :=
  match document s with
  | .ok j => .ok j
  | .error e => .error (e.fault s)

/-- The document of a text. -/
def ofText (s : String) : Except Fault Json := ofSymbols (s.toList.map .char)

/-- The document of a byte string. -/
def ofBytes (bs : List UInt8) : Except Fault Json := ofSymbols (symbols bs)

end SceneSource.Json
