-- SUMMARY: Why a text is no JSON document, and where reading it stopped.
import SceneSource.Fault
import SceneSource.Text.Utf8

/-!
# Errors of reading JSON

An error keeps what was left of the text when reading stopped; its line and column follow
from that. Lines count from one, and so do columns, in bytes; the end of the text is at
the column of the last byte, and a line break counts as column zero of the next line.
-/

namespace SceneSource.Json

open SceneSource.Text

/-- Why reading stopped. -/
inductive Reason where
  | endOfArray
  | endOfObject
  | endOfText
  | endOfValue
  | colon
  | arrayStep
  | objectStep
  | word
  | value
  | escape
  | number
  | numberRange
  | codePoint
  | control
  | key
  | loneSurrogate
  | trailingComma
  | trailing
  | hexEscape
  | depth
deriving DecidableEq, Repr

/-- The wording of a reason. -/
def Reason.message : Reason → String
  | endOfArray => "EOF while parsing a list"
  | endOfObject => "EOF while parsing an object"
  | endOfText => "EOF while parsing a string"
  | endOfValue => "EOF while parsing a value"
  | colon => "expected `:`"
  | arrayStep => "expected `,` or `]`"
  | objectStep => "expected `,` or `\x7d`"
  | word => "expected ident"
  | value => "expected value"
  | escape => "invalid escape"
  | number => "invalid number"
  | numberRange => "number out of range"
  | codePoint => "invalid unicode code point"
  | control => "control character (\\u0000-\\u001F) found while parsing a string"
  | key => "key must be a string"
  | loneSurrogate => "lone leading surrogate in hex escape"
  | trailingComma => "trailing comma"
  | trailing => "trailing characters"
  | hexEscape => "unexpected end of hex escape"
  | depth => "recursion limit exceeded"

/-- An error of reading: the reason, and what was left of the text. -/
structure ReadError where
  reason : Reason
  rest : List Symbol
deriving DecidableEq, Repr

namespace ReadError

/-- The part of a text in front of what was left of it. -/
def before (input : List Symbol) (e : ReadError) : List Symbol :=
  takeBytes (byteCount input - byteCount e.rest) input

/-- The line of an error. -/
def line (input : List Symbol) (e : ReadError) : Nat :=
  1 + (e.before input).count (.char '\n') + if e.rest.head? = some (.char '\n') then 1 else 0

/-- The column of an error. -/
def column (input : List Symbol) (e : ReadError) : Nat :=
  let sinceBreak := (e.before input).reverse.takeWhile (· ≠ .char '\n')
  let bytes := byteCount sinceBreak
  match e.rest with
  | [] => bytes
  | .char '\n' :: _ => 0
  | _ => bytes + 1

/-- The fault of a text that is no document. -/
def fault (input : List Symbol) (e : ReadError) : Fault :=
  .json e.reason.message (e.line input) (e.column input)

end ReadError

end SceneSource.Json
