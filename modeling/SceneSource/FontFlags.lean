-- SUMMARY: Font flags of any shape, and the byte in which they travel.
import SceneSource.Text.Blank
import SceneSource.Text.Upper
import SceneSource.Value.Integer

/-!
# Font flags

Flags travel as one byte, the bitwise OR of the lowest bytes of what was given. A flags
field accepts flags, integers, names and collections of these nested to any depth: it
stores the OR of all leaves.
-/

namespace SceneSource.FontFlags

/-- The OR of the lowest bytes of some integers. -/
def pack (ns : List Int) : Int :=
  (ns.foldl (fun bits n => bits ||| BitVec.ofInt 8 n) 0#8).toNat

/-- Packs an integral value, or a collection of values that denote integers. -/
def encode (v : Value) : Except Fault Int :=
  match v.int?, v.elements? with
  | some n, _ => .ok (pack [n])
  | none, some xs => (xs.mapM Value.toInteger).map pack
  | none, none => .error (.notIterable v.fullTypeName)

-- ---------------------------------------------------------------------------
-- Flags fields
-- ---------------------------------------------------------------------------

/-- The flag that a text names, in any case and with blanks around it. -/
def named? (s : String) : Option FontFlag :=
  FontFlag.ofName? (String.ofList ((Text.trim Text.isBlank s.toList).flatMap Text.upper))

/-- The bits of the flag that a text names; `shown` is what the text was given as. -/
def ofName (shown : Value) (s : String) : Except Fault Nat :=
  match named? s with
  | some flag => .ok flag.bit
  | none => do .error (.flagUnknown (← shown.show?))

/-- The lowest byte of an integer. -/
def lowByte (n : Int) : Nat := (n % 256).toNat

/-- The OR of the bits of some names. -/
def ofNames : List String → Except Fault Nat
  | [] => .ok 0
  | s :: rest => do
    let bits ← ofName (.text s) s
    let more ← ofNames rest
    return bits ||| more

mutual

/-- The bits that a flags field stores for a value. -/
def ofValue (v : Value) : Except Fault Nat :=
  match v with
  | .flags n => .ok n
  | .int n => .ok (lowByte n)
  | .text s => ofName (.text s) s
  | .choice c => match c.value with
    | .number n => .ok (lowByte n)
    | .text s => ofName (.choice c) s
  | .list xs | .tuple xs | .set xs => ofItems xs
  | .bytes bs => .ok (bs.foldl (fun bits b => bits ||| b.toNat) 0)
  | .mapping entries => ofNames (entries.map (·.1))
  | .color r g b a => do
    let r ← ofValue r
    let g ← ofValue g
    let b ← ofValue b
    let a ← ofValue a
    return r ||| g ||| b ||| a
  | .record _ attributes => ofEntries attributes
  | .null | .bool _ | .real _ | .duration _ | .path _ | .caselessPath .. | .pathLike .. |
      .ratio .. | .size .. | .object _ => .error .flagsShape

/-- The OR of the bits of the items of a collection. -/
def ofItems : List Value → Except Fault Nat
  | [] => .ok 0
  | x :: xs => do
    let bits ← ofValue x
    let more ← ofItems xs
    return bits ||| more

/-- The OR of the bits of attributes, each of which is a pair of its name and its value. -/
def ofEntries : List (String × Value) → Except Fault Nat
  | [] => .ok 0
  | (k, v) :: rest => do
    let name ← ofName (.text k) k
    let bits ← ofValue v
    let more ← ofEntries rest
    return name ||| bits ||| more

end

end SceneSource.FontFlags
