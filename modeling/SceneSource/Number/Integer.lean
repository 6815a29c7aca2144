-- SUMMARY: Integers read from text under two grammars, with the bound on their digits.
import SceneSource.Text.Blank
import SceneSource.Text.Digit

/-!
# Integers in text

A *numeral* is what the free-form places accept (flag collections and color channels):
white space around it, one sign, digits of any script with single underscores between
them; bounding sizes are made of its digits. A *plain* integer is an optional minus and
ASCII digits without a zero in front. A *field text*, which an integer field accepts, is
another spelling of a plain integer: with white space around it, a plus, zeros in front,
single underscores, a fraction of zeros. None of them reads more than `maxDigits` digits,
and no integer with more is written out.
-/

namespace SceneSource.Integer

open SceneSource.Text

/-- The largest number of decimal digits that is read or written. -/
def maxDigits : Nat := 4300

/-- Whether an integer has few enough digits to be written. -/
def fits (n : Int) : Bool := n.natAbs < Nat.pow 10 maxDigits

/-- Why a text is no integer. -/
inductive ReadError where
  | malformed
  /-- Well-formed so far, but with this many digits. -/
  | tooLong (digits : Nat)
deriving DecidableEq, Repr

/-- The number that a list of digits denotes, highest first. -/
def ofDigits (ds : List Nat) : Nat := ds.foldl (fun n d => 10 * n + d) 0

/-- Splits off one sign; the first component says whether it was a minus. -/
def sign : List Char → Bool × List Char
  | '-' :: cs => (true, cs)
  | '+' :: cs => (false, cs)
  | cs => (false, cs)

/-- The integer with a sign and a magnitude. -/
def signed (negative : Bool) (n : Nat) : Int := if negative then -(n : Int) else n

-- ---------------------------------------------------------------------------
-- Runs of digits
-- ---------------------------------------------------------------------------

/-- The digits that go on after a digit, each after at most one underscore, and the
    characters behind them. -/
def moreDigits (digit? : Char → Option Nat) : List Char → List Nat × List Char
  | [] => ([], [])
  | '_' :: [] => ([], ['_'])
  | '_' :: c :: cs =>
    match digit? c with
    | some d => let (ds, rest) := moreDigits digit? cs; (d :: ds, rest)
    | none => ([], '_' :: c :: cs)
  | c :: cs =>
    match digit? c with
    | some d => let (ds, rest) := moreDigits digit? cs; (d :: ds, rest)
    | none => ([], c :: cs)

/-- The digits at the front, with single underscores between them, and what follows. -/
def digitRun (digit? : Char → Option Nat) : List Char → List Nat × List Char
  | [] => ([], [])
  | c :: cs =>
    match digit? c with
    | some d => let (ds, rest) := moreDigits digit? cs; (d :: ds, rest)
    | none => ([], c :: cs)

-- ---------------------------------------------------------------------------
-- Numerals
-- ---------------------------------------------------------------------------

/-- Reads digits of any script that reach to the end. The count is checked before what
    follows the digits, a stray underscore before the count. -/
def readDigits (cs : List Char) : Except ReadError Nat :=
  let (ds, rest) := digitRun digitValue? cs
  if ds.isEmpty || rest.head? == some '_' then .error .malformed
  else if maxDigits < ds.length then .error (.tooLong ds.length)
  else if rest.isEmpty then .ok (ofDigits ds)
  else .error .malformed

/-- Reads a numeral with some class of white space around it. -/
def readNumeral (white : Char → Bool) (cs : List Char) : Except ReadError Int :=
  let (negative, body) := sign (trim white cs)
  (readDigits body).map (signed negative)

-- ---------------------------------------------------------------------------
-- Plain integers
-- ---------------------------------------------------------------------------

/-- The number of digits of the plain integer at the very front: an optional minus and
    ASCII digits of which the first is not zero. -/
def plainDigits (cs : List Char) : Nat :=
  let body := match cs with
    | '-' :: body => body
    | body => body
  match body.takeWhile fun c => (asciiDigit? c).isSome with
  | '0' :: _ => 0
  | ds => ds.length

/-- The digits of a plain integer without its minus: zero alone, or not too many digits
    of which the first is not zero. -/
def plainMagnitude? (cs : List Char) : Option Nat :=
  match cs.mapM asciiDigit? with
  | some [0] => some 0
  | some [] | some (0 :: _) | none => none
  | some ds => if ds.length ≤ maxDigits then some (ofDigits ds) else none

/-- Reads a plain integer. -/
def readPlain? : List Char → Option Int
  | '-' :: body => (plainMagnitude? body).map (signed true)
  | body => (plainMagnitude? body).map (signed false)

-- ---------------------------------------------------------------------------
-- Field texts
-- ---------------------------------------------------------------------------

/-- A text without its underscores, if it has any: none of them at an end and no two in a
    row. -/
def withoutUnderscores? (cs : List Char) : Option (List Char) :=
  let doubled := (cs.zip (cs.drop 1)).contains ('_', '_')
  if cs.contains '_' && cs.head? != some '_' && cs.getLast? != some '_' && !doubled then
    some (cs.filter (· != '_'))
  else none

/-- What follows the zeros and underscores behind a leading zero. The last of them stays
    in front of a point, and at the end. -/
def behindZeros (last : Char) : List Char → List Char
  | [] => [last]
  | c :: cs =>
    if c = '0' ∨ c = '_' then behindZeros c cs
    else if c = '.' then last :: c :: cs
    else c :: cs

/-- A text that starts with a digit or a minus, without the zeros in front. Zeros behind a
    minus stay. -/
def significant? : List Char → Option (List Char)
  | [] => none
  | c :: cs =>
    if c = '0' then some (behindZeros c cs)
    else if c = '-' ∨ (asciiDigit? c).isSome then some (c :: cs)
    else none

/-- A text without the fraction at its end, if that is a point and zeros. -/
def withoutFraction (cs : List Char) : List Char :=
  match cs.dropWhile (· != '.') with
  | '.' :: '0' :: zeros => if zeros.all (· == '0') then cs.takeWhile (· != '.') else cs
  | _ => cs

/-- The plain integer that a text without a plus in front is another spelling of. -/
def plainSpelling? (cs : List Char) : Option (List Char) :=
  (significant? cs).map fun cs =>
    let cs := withoutFraction cs
    (withoutUnderscores? cs).getD cs

/-- Reads what is left of a field text when the blanks around it are gone. A minus behind
    zeros counts as one in front of them. -/
def readSpelling? : List Char → Option Int
  | '+' :: '-' :: _ => none
  | '+' :: body => (plainSpelling? body).bind readPlain?
  | body => (plainSpelling? body).bind readPlain?

/-- Reads the text of an integer field. Too many digits are reported only where they are
    at the very front; behind anything else they make the text malformed. -/
def readField (cs : List Char) : Except ReadError Int :=
  if maxDigits < plainDigits cs then .error (.tooLong (plainDigits cs))
  else match readSpelling? (trim isWhite cs) with
    | some n => .ok n
    | none => .error .malformed

end SceneSource.Integer
