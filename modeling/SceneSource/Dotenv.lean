-- SUMMARY: Files of environment variables: bindings, quotes, comments and references.
import SceneSource.Text.Blank

/-!
# Files of environment variables

A file binds one name per line, `NAME=value`, with an optional `export` in front and
blanks around each piece. A value in quotes may hold escapes and reach over several
lines; any other value ends with its line or before a comment. A line that does not parse
binds nothing. In values, `$` and a name in braces refer to what is bound so far; text
behind `:-` stands for a name without a binding.
-/

namespace SceneSource.Dotenv

open SceneSource.Text

/-- A name, with a value unless the line has no equals sign. -/
abbrev Binding := String × Option String

/-- A reader of what starts at the front: it gives a piece and the characters behind it,
    or fails with the characters at which it could not go on. -/
abbrev Reader (α : Type) := List Char → Except (List Char) (α × List Char)

/-- Whether a character is a blank within a line. -/
def isInlineBlank (c : Char) : Bool := isBlank c && c != '\n' && c != '\r'

/-- Whether a character ends a line. -/
def isBreak (c : Char) : Bool := c == '\n' || c == '\r'

/-- A text with every kind of line break as `\n`. -/
def unixLines : List Char → List Char
  | [] => []
  | '\r' :: '\n' :: cs => '\n' :: unixLines cs
  | '\r' :: cs => '\n' :: unixLines cs
  | c :: cs => c :: unixLines cs

/-- A text without the byte order mark at its front. -/
def withoutMark : List Char → List Char
  | '\uFEFF' :: cs => cs
  | cs => cs

/-- Passes over the blanks of a line. -/
def skipBlanks (cs : List Char) : List Char := cs.dropWhile isInlineBlank

/-- Passes over what is left of a line, and its break. -/
def skipLine (cs : List Char) : List Char := (cs.dropWhile fun c => !isBreak c).drop 1

-- ---------------------------------------------------------------------------
-- Names
-- ---------------------------------------------------------------------------

/-- Passes over the word `export` and the blanks behind it. -/
def skipExport (cs : List Char) : List Char :=
  let rest := cs.drop 6
  if cs.take 6 = "export".toList ∧ (rest.head?.map isInlineBlank).getD false then skipBlanks rest
  else cs

/-- Reads the name of a binding; a comment has none. -/
def name? : Reader (Option String) := fun cs =>
  match cs with
  | '#' :: _ => .ok (none, cs)
  | '\'' :: rest =>
    let word := rest.takeWhile (· != '\'')
    match word, rest.drop word.length with
    | _ :: _, _ :: after => .ok (some (String.ofList word), after)
    | _, _ => .error cs
  | cs =>
    let word := cs.takeWhile fun c => c != '=' && c != '#' && !isBlank c
    if word.isEmpty then .error cs else .ok (some (String.ofList word), cs.drop word.length)

-- ---------------------------------------------------------------------------
-- Values
-- ---------------------------------------------------------------------------

/-- The length of the text up to its closing quote, which is the first quote without a
    backslash in front. A backslash takes the character behind it along, which has to stand
    on the same line. -/
def quotedLength? (quote : Char) : List Char → Option Nat
  | [] => none
  | '\\' :: cs => match cs with
    | [] => none
    | c :: cs => if c = '\n' then none else (quotedLength? quote cs).map (· + 2)
  | c :: cs => if c = quote then some 0 else (quotedLength? quote cs).map (· + 1)

/-- The characters that a backslash and a letter stand for between single quotes. -/
def singleEscape? : Char → Option Char
  | '\\' => some '\\'
  | '\'' => some '\''
  | _ => none

/-- The characters that a backslash and a letter stand for between double quotes. -/
def doubleEscape? : Char → Option Char
  | '"' => some '"'
  | 'a' => some '\x07'
  | 'b' => some '\x08'
  | 'f' => some '\x0c'
  | 'n' => some '\n'
  | 'r' => some '\r'
  | 't' => some '\t'
  | 'v' => some '\x0b'
  | c => singleEscape? c

/-- Resolves escapes; a backslash in front of any other letter stays. -/
def unescape (escape? : Char → Option Char) : List Char → List Char
  | '\\' :: c :: cs => match escape? c with
    | some d => d :: unescape escape? cs
    | none => '\\' :: unescape escape? (c :: cs)
  | c :: cs => c :: unescape escape? cs
  | [] => []

/-- Reads a value behind its opening quote; `whole` starts with the quote. -/
def quotedValue (quote : Char) (escape? : Char → Option Char) (whole : List Char) :
    Reader String := fun rest =>
  match quotedLength? quote rest with
  | some n => .ok (String.ofList (unescape escape? (rest.take n)), rest.drop (n + 1))
  | none => .error whole

/-- Cuts a line before the first blank that a comment follows. -/
def beforeComment : List Char → List Char
  | [] => []
  | c :: cs =>
    if isBlank c && (cs.dropWhile isBlank).head? == some '#' then [] else c :: beforeComment cs

/-- A text without the blanks at its end. -/
def trimEnd (cs : List Char) : List Char := (cs.reverse.dropWhile isBlank).reverse

/-- Reads the value of a binding. -/
def value : Reader String := fun cs =>
  match cs with
  | '\'' :: rest => quotedValue '\'' singleEscape? cs rest
  | '"' :: rest => quotedValue '"' doubleEscape? cs rest
  | cs =>
    let line := cs.takeWhile fun c => !isBreak c
    .ok (String.ofList (trimEnd (beforeComment line)), cs.drop line.length)

-- ---------------------------------------------------------------------------
-- Lines
-- ---------------------------------------------------------------------------

/-- Passes over a comment and the end of a line; anything else there is an error. -/
def lineEnd (cs : List Char) : Except (List Char) (List Char) :=
  let rest := match skipBlanks cs with
    | '#' :: comment => comment.dropWhile fun c => !isBreak c
    | _ => cs
  match skipBlanks rest with
  | [] => .ok []
  | c :: after => if isBreak c then .ok after else .error rest

/-- Reads what may follow a name: an equals sign and a value. Behind a blank, a comment can
    take the place of the value. -/
def assigned : Reader (Option String) := fun cs =>
  match skipBlanks cs with
  | '=' :: rest => do
    let body := skipBlanks rest
    if body.head? = some '#' ∧ body.length < rest.length then return (some "", body)
    let (v, rest) ← value body
    return (some v, rest)
  | rest => .ok (none, rest)

/-- Reads one line. -/
def line : Reader (Option Binding) := fun cs => do
  let (name, rest) ← name? (skipExport cs)
  let (v, rest) ← assigned rest
  let rest ← lineEnd rest
  return (name.map fun n => (n, v), rest)

/-- Reads the lines of a file, at most `fuel` of them. -/
def lines : (fuel : Nat) → List Char → List Binding
  | 0, _ => []
  | fuel + 1, cs => match cs.dropWhile isBlank with
    | [] => []
    | cs => match line cs with
      | .ok (some binding, rest) => binding :: lines fuel rest
      | .ok (none, rest) => lines fuel rest
      | .error rest => lines fuel (skipLine rest)

/-- The bindings of a file, in order and with references unresolved. -/
def parse (text : String) : List Binding :=
  let cs := unixLines (withoutMark text.toList)
  lines cs.length cs

-- ---------------------------------------------------------------------------
-- References
-- ---------------------------------------------------------------------------

/-- A reference behind its opening brace: the name, what stands for it otherwise, and what
    follows the closing brace. -/
def reference? (cs : List Char) : Option (String × String × List Char) :=
  let name := cs.takeWhile fun c => c != '}' && c != ':'
  match cs.drop name.length with
  | '}' :: rest => some (String.ofList name, "", rest)
  | ':' :: '-' :: rest =>
    let otherwise := rest.takeWhile (· != '}')
    match rest.drop otherwise.length with
    | _ :: rest => some (String.ofList name, String.ofList otherwise, rest)
    | [] => none
  | _ => none

/-- Resolves the references in a value of at most `fuel` characters. -/
def resolve (find? : String → Option (Option String)) : (fuel : Nat) → List Char → List Char
  | 0, _ => []
  | _, [] => []
  | fuel + 1, c :: cs => match c, cs with
    | '$', '{' :: body => match reference? body with
      | some (name, otherwise, rest) =>
        let found := (find? name).getD (some otherwise)
        (found.getD "").toList ++ resolve find? fuel rest
      | none => c :: resolve find? fuel cs
    | _, _ => c :: resolve find? fuel cs

/-- Gives a name its value: in its old place, or at the end. -/
def put (name : String) (v : α) : List (String × α) → List (String × α)
  | [] => [(name, v)]
  | e :: rest => if e.1 = name then (name, v) :: rest else e :: put name v rest

/-- Resolves a file line by line: a reference means what is bound above, and otherwise a
    variable of the environment. -/
def resolveAll (environment : List (String × String)) (bindings : List Binding) : List Binding :=
  bindings.foldl (fun bound (name, v) =>
    let find? (n : String) : Option (Option String) :=
      bound.lookup n <|> (environment.lookup n).map some
    put name (v.map fun s => String.ofList (resolve find? s.length s.toList)) bound) []

/-- What a file binds, given the environment. -/
def read (environment : List (String × String)) (text : String) : List Binding :=
  resolveAll environment (parse text)

end SceneSource.Dotenv
