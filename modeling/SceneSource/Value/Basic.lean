-- SUMMARY: The values that settings are given as and stored as.
import SceneSource.Choice
import SceneSource.Duration
import SceneSource.FontFlag
import SceneSource.Kind
import SceneSource.Number.Basic

/-!
# Values

What a setting can be given as, before validation: plain data, the library's own kinds
of data, and instances of models with their attributes. Validation maps a value to a
value of the shape that a field stores; a field of an instance that was put together
without validation can hold any value at all. What equals nothing but itself is told
apart: objects by a number, a NaN by its payload.

A text and a member of a textual enumeration are both *textual*; an integer, a truth
value, font flags and a member of a numeric enumeration are all *integral*. The views
`text?`, `int?` and `number?` are how the rest of the library asks for either.

A path has one of two notations. In the first it is its normal text. In the other capitals
do not matter, so it has its text and, apart from that, the parts that it is compared by.

The keys of a mapping are texts, as those of settings are; a mapping with other keys has no
place here. Font flags are the only setting that is read from keys whatever they are, and
there the list of the keys gives the same.
-/

namespace SceneSource

/-- A value of a setting. -/
inductive Value where
  | null
  | bool (b : Bool)
  | int (n : Int)
  | real (d : Double)
  | text (s : String)
  | bytes (bs : List UInt8)
  | list (xs : List Value)
  | tuple (xs : List Value)
  /-- A collection without order or repetition; `Value.ofSet` fixes an order. -/
  | set (xs : List Value)
  | mapping (entries : List (String × Value))
  | duration (d : Duration)
  /-- A color with its channels, which need not be integers. -/
  | color (r g b a : Value)
  | flags (n : Nat)
  | choice (c : Choice)
  /-- A file-system path by its normal text. -/
  | path (s : String)
  /-- A path in the notation of a system that takes no notice of capitals: its text, and the
      parts that it is compared by. -/
  | caselessPath (text : String) (folded : List String)
  /-- Some other object that stands for a path, with its answer. Such objects are told
      apart by a number. -/
  | pathLike (identity : Nat) (answer : Value)
  /-- A free aspect ratio. -/
  | ratio (width height : Value)
  /-- A bounding size in pixels. -/
  | size (width height : Value)
  /-- An instance of a model with its attributes. -/
  | record (model : Model) (attributes : List (String × Value))
  /-- An object without any content. Such objects are told apart by a number. -/
  | object (identity : Nat)
deriving Repr

namespace Value

instance : Inhabited Value := ⟨null⟩

-- ---------------------------------------------------------------------------
-- Views
-- ---------------------------------------------------------------------------

/-- The text of a textual value. -/
def text? : Value → Option String
  | text s => some s
  | choice c => match c.value with
    | .text s => some s
    | .number _ => none
  | _ => none

/-- The integer of an integral value. -/
def int? : Value → Option Int
  | bool b => some (if b then 1 else 0)
  | int n => some n
  | flags n => some n
  | choice c => match c.value with
    | .number n => some n
    | .text _ => none
  | _ => none

/-- The number of a numeric value. -/
def number? : Value → Option Number
  | real d => some (.real d)
  | v => v.int?.map .int

/-- Font flags one by one; bits without a name are left out. -/
def eachFlag (n : Nat) : List Value :=
  (FontFlag.all.filter fun f => n &&& f.bit ≠ 0).map fun f => flags f.bit

/-- The elements of a value that can be iterated over: the keys of a mapping, the
    characters of a text, the bytes of a byte string, the named attributes of an
    instance. -/
def elements? : Value → Option (List Value)
  | list xs | tuple xs | set xs => some xs
  | color r g b a => some [r, g, b, a]
  | mapping entries => some (entries.map fun e => text e.1)
  | bytes bs => some (bs.map fun b => int b.toNat)
  | flags n => some (eachFlag n)
  | record _ attributes => some (attributes.map fun e => tuple [text e.1, e.2])
  | v => v.text?.map fun s => s.toList.map fun c => text (String.ofList [c])

/-- The name of the type of a value. -/
def typeName : Value → String
  | null => "NoneType"
  | bool _ => "bool"
  | int _ => "int"
  | real _ => "float"
  | text _ => "str"
  | bytes _ => "bytes"
  | list _ => "list"
  | tuple _ => "tuple"
  | set _ => "set"
  | mapping _ => "dict"
  | duration _ => "timedelta"
  | color .. => "Rgba8"
  | flags _ => "FontFlags"
  | choice c => c.enumeration.name
  | path _ => "PosixPath"
  | caselessPath .. => "PureWindowsPath"
  | pathLike .. => "PathLike"
  | ratio .. => "CustomRatio"
  | size .. => "CustomSize"
  | record m _ => m.name
  | object _ => "object"

/-- The name of the type of a value with the module that a message gives with it. -/
def fullTypeName : Value → String
  | duration _ => "datetime.timedelta"
  | v => v.typeName

/-- Whether a condition on the value holds: false for nothing, zero and what is empty. -/
def isTrue : Value → Bool
  | null => false
  | real d => !(Double.equal d .zero)
  | bytes bs => !bs.isEmpty
  | list xs | tuple xs | set xs => !xs.isEmpty
  | mapping entries => !entries.isEmpty
  | duration d => d.micros != 0
  | v => match v.int?, v.text? with
    | some n, _ => n != 0
    | none, some s => !s.isEmpty
    | none, none => true

/-- The attribute of an instance, or nothing. -/
def attribute? (name : String) : Value → Option Value
  | record _ attributes => attributes.lookup name
  | _ => none

-- ---------------------------------------------------------------------------
-- Font flags
-- ---------------------------------------------------------------------------

/-- The font flags of an integer. Flags are never negative: a negative integer is read
    within the fewest bits, four at least, that hold its complement. -/
def ofFlags (n : Int) : Value :=
  if 0 ≤ n then flags n.toNat
  else if -16 ≤ n then flags (16 + n).toNat
  else flags ((Nat.pow 2 (n.natAbs.log2 + 1) : Nat) + n).toNat

-- ---------------------------------------------------------------------------
-- Hashing
-- ---------------------------------------------------------------------------

mutual

/-- The type of the first value inside that can be no member of a set, if there is one. -/
def unhashable? : Value → Option String
  | list _ => some "list"
  | set _ => some "set"
  | mapping _ => some "dict"
  | tuple xs => unhashableItem? xs
  | color r g b a =>
      r.unhashable? <|> g.unhashable? <|> b.unhashable? <|> a.unhashable?
  | ratio w h | size w h => w.unhashable? <|> h.unhashable?
  | record _ attributes => unhashableEntry? attributes
  | null | bool _ | int _ | real _ | text _ | bytes _ | duration _ => none
  | flags _ | choice _ | path _ | caselessPath .. | pathLike .. | object _ => none

/-- `unhashable?` for the items of a tuple. -/
def unhashableItem? : List Value → Option String
  | [] => none
  | x :: xs => x.unhashable? <|> unhashableItem? xs

/-- `unhashable?` for the attributes of an instance. -/
def unhashableEntry? : List (String × Value) → Option String
  | [] => none
  | (_, v) :: rest => v.unhashable? <|> unhashableEntry? rest

end

end Value

end SceneSource
