-- SUMMARY: JSON documents, and the compact text in which they are embedded.
import SceneSource.Number.Shortest
import SceneSource.Text.Hex
import SceneSource.Value.Basic

/-!
# JSON documents

What a settings document consists of. An object keeps its entries in order. `render` is
the compact text: no white space, and in texts an escape for the quote, the backslash and
the controls below 0x20 only. Doubles that are not finite have words of their own.
-/

namespace SceneSource

/-- A JSON document. -/
inductive Json where
  | null
  | bool (b : Bool)
  | int (n : Int)
  | real (d : Double)
  | text (s : String)
  | array (items : List Json)
  | object (entries : List (String × Json))
deriving Repr

namespace Json

instance : Inhabited Json := ⟨null⟩

-- ---------------------------------------------------------------------------
-- Text
-- ---------------------------------------------------------------------------

/-- The letter that stands for a character behind a backslash. -/
def escapeLetter? : Char → Option Char
  | '"' => some '"'
  | '\\' => some '\\'
  | '\x08' => some 'b'
  | '\x09' => some 't'
  | '\x0a' => some 'n'
  | '\x0c' => some 'f'
  | '\x0d' => some 'r'
  | _ => none

/-- A character within quotes. -/
def escapeChar (c : Char) : List Char :=
  match escapeLetter? c with
  | some letter => ['\\', letter]
  | none => if 0x20 ≤ c.toNat then [c] else '\\' :: 'u' :: Text.hexDigits 4 c.toNat

/-- A text in quotes. -/
def textChars (s : String) : List Char :=
  '"' :: s.toList.flatMap escapeChar ++ ['"']

/-- An integer. -/
def intChars (n : Int) : List Char :=
  (if n < 0 then ['-'] else []) ++ Nat.toDigits 10 n.natAbs

mutual

/-- The compact text of a document, as characters. -/
def chars : Json → List Char
  | null => "null".toList
  | bool true => "true".toList
  | bool false => "false".toList
  | int n => intChars n
  | real d => Layout.json.write d
  | text s => textChars s
  | array items => '[' :: itemChars items
  | object entries => '{' :: entryChars entries

/-- The items of an array and the bracket behind them. -/
def itemChars : List Json → List Char
  | [] => [']']
  | j :: rest => j.chars ++ moreItemChars rest

/-- The items that follow the first one, each behind a comma. -/
def moreItemChars : List Json → List Char
  | [] => [']']
  | j :: rest => ',' :: j.chars ++ moreItemChars rest

/-- The entries of an object and the brace behind them. -/
def entryChars : List (String × Json) → List Char
  | [] => ['}']
  | (key, j) :: rest => textChars key ++ ':' :: j.chars ++ moreEntryChars rest

/-- The entries that follow the first one, each behind a comma. -/
def moreEntryChars : List (String × Json) → List Char
  | [] => ['}']
  | (key, j) :: rest => ',' :: textChars key ++ ':' :: j.chars ++ moreEntryChars rest

end

mutual

/-- The number of documents on the longest way from a document down to one without parts,
    both counted. -/
def depth : Json → Nat
  | array items => depthOfItems items + 1
  | object entries => depthOfEntries entries + 1
  | null | bool _ | int _ | real _ | text _ => 1

/-- The depth of the deepest item of an array. -/
def depthOfItems : List Json → Nat
  | [] => 0
  | j :: rest => max j.depth (depthOfItems rest)

/-- The depth of the deepest entry of an object. -/
def depthOfEntries : List (String × Json) → Nat
  | [] => 0
  | (_, j) :: rest => max j.depth (depthOfEntries rest)

end

mutual

/-- A document with nothing in place of every double that is not finite. -/
def finite : Json → Json
  | real d => if d.isFinite then real d else null
  | array items => array (finiteItems items)
  | object entries => object (finiteEntries entries)
  | j => j

/-- `finite` for the items of an array. -/
def finiteItems : List Json → List Json
  | [] => []
  | j :: rest => j.finite :: finiteItems rest

/-- `finite` for the entries of an object. -/
def finiteEntries : List (String × Json) → List (String × Json)
  | [] => []
  | (key, j) :: rest => (key, j.finite) :: finiteEntries rest

end

/-- The compact text of a document. -/
def render (j : Json) : String := String.ofList j.chars

-- ---------------------------------------------------------------------------
-- Values
-- ---------------------------------------------------------------------------

mutual

/-- A document as a value. -/
def toValue : Json → Value
  | null => .null
  | bool b => .bool b
  | int n => .int n
  | real d => .real d
  | text s => .text s
  | array items => .list (itemValues items)
  | object entries => .mapping (entryValues entries)

/-- The items of an array as values. -/
def itemValues : List Json → List Value
  | [] => []
  | j :: rest => j.toValue :: itemValues rest

/-- The entries of an object as values. -/
def entryValues : List (String × Json) → List (String × Value)
  | [] => []
  | (key, j) :: rest => (key, j.toValue) :: entryValues rest

end

end Json

end SceneSource
