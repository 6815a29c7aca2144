-- SUMMARY: Values and instances as JSON documents and as embedded JSON text.
import SceneSource.Document.Encoder

/-!
# Documents

`dump` turns a value into a document. A field of an instance is written as its shape says;
a value that its field never stores, and any value outside of an instance, is written by
what it is: members by their value, durations in ISO 8601, paths by their text, every
collection as an array. A path that takes no notice of capitals is written in a field for paths
only. A document has nothing in place of a double that is not finite, except in a crop rectangle
on its own; JSON text has nothing there within an instance.

Values nest at most `depthLimit` deep. A value counts unless it is of the type that the
place where it stands has.
-/

namespace SceneSource

/-- What a document is made for. -/
inductive Style where
  /-- A settings document. -/
  | settings
  /-- JSON text. -/
  | text
  /-- The part of JSON text that belongs to an instance. -/
  | textOfInstance
deriving DecidableEq, Repr

namespace Style

/-- The style inside of an instance. -/
def inside : Style → Style
  | text => textOfInstance
  | s => s

/-- A double outside of a real field. -/
def real (s : Style) (d : Double) : Json :=
  if d.isFinite then .real d
  else match s with
    | settings | textOfInstance => .null
    | text => .real d

/-- A double in a real field. -/
def realField (s : Style) (d : Double) : Json :=
  if d.isFinite then .real d
  else match s with
    | settings | text => .real d
    | textOfInstance => .null

/-- A byte string, which has to be UTF-8. -/
def bytes (s : Style) (bs : List UInt8) : Except Fault Json :=
  match Text.decode bs with
  | .ok t => .ok (.text t)
  | .error e => match s with
    | settings =>
        let stop := (e.length?.map (e.validUpTo + ·)).getD bs.length
        .error (.undecodable (bs.getD e.validUpTo 0) e.validUpTo stop)
    | text | textOfInstance => .error (.undecodableText e.validUpTo e.length?)

/-- A fault as the whole reports it. -/
def report (s : Style) (f : Fault) : Fault :=
  match s with
  | settings => f
  | text | textOfInstance => .inText f

/-- The fault of an encoder. -/
def fault (s : Style) (encoder : String) (f : Fault) : Fault := s.report (f.inEncoder encoder)

end Style

/-- The wire value of a member. -/
def Scalar.toJson : Scalar → Json
  | .text s => .text s
  | .number n => .int n

-- ---------------------------------------------------------------------------
-- Places
-- ---------------------------------------------------------------------------

/-- Whether a value is of the type of a leaf, encoders aside. -/
def Leaf.fits : Leaf → Value → Bool
  | boolean, v => (v matches .bool _)
  | integer, v | tag _, v => v.int?.isSome
  | real, v => v.number?.isSome
  | text, v | name, v => v.text?.isSome
  | optionalText, v => (v matches .null) || v.text?.isSome
  | mapping, v => (v matches .mapping _)
  | choice e, v => match v with
    | .choice c => c.enumeration = e
    | _ => false
  | color, _ | duration, _ | flags, _ | path, _ | boundingSize, _ => false

/-- Where a value stands: anywhere, as the whole, or where a leaf, a part, a number of parts
    or a crop belongs. -/
inductive Slot where
  | any
  | whole
  | leaf (l : Leaf)
  | part (p : Part)
  | parts (p : Part)
  | crop
deriving DecidableEq, Repr

namespace Slot

/-- The place that the items of a tuple have. -/
def item : Slot → Slot
  | parts p => part p
  | any | whole | leaf _ | part _ | crop => any

/-- Whether a value is of the type of its place. Where a part belongs, everything that can
    have attributes passes for one. -/
def fits : Slot → Value → Bool
  | any, _ => false
  | whole, v => (v matches .record ..)
  | leaf l, v => l.fits v
  | part _, v => (v matches
      .record .. | .ratio .. | .size .. | .flags _ | .choice _ | .pathLike ..)
  | parts _, v => (v matches .tuple _ | .color ..)
  | crop, v => (v matches .record (.part (.crop _)) _)

/-- The level of a value, given the level around it. -/
def level (slot : Slot) (outer : Nat) (v : Value) : Nat :=
  if slot.fits v then outer else outer + 1

/-- What an object without fields of its place is written as. -/
def bare (s : Slot) (otherwise : Except Fault Json) : Except Fault Json :=
  match s with
  | part _ => .ok (.object [])
  | any | whole | leaf _ | parts _ | crop => otherwise

end Slot

/-- The number of levels that values may have. -/
def depthLimit : Nat := 255

namespace Shape

/-- The place that a shape gives to a value. -/
def slot : Shape → Slot
  | leaf l => .leaf l
  | part p => .part p
  | parts p => .parts p
  | embedded _ => .any
  | crop => .crop

/-- The style in which the value of a field is written. -/
def style : Shape → Style → Style
  | embedded _, _ => .text
  | _, s => s

/-- The level around the value of a field: embedded text starts anew. -/
def outer : Shape → Nat → Nat
  | embedded _, _ => 0
  | _, level => level

/-- A value without parts that are values. -/
def atom (s : Style) : Value → Except Fault Json
  | .bool b => .ok (.bool b)
  | .int n => .ok (.int n)
  | .real d => .ok (s.real d)
  | .text t => .ok (.text t)
  | .bytes bs => s.bytes bs
  | .flags n => .ok (.int n)
  | .choice c => .ok c.value.toJson
  | v => .error (.unserializable v.typeName)

/-- A number in a real field. -/
def realNumber (s : Style) (n : Number) : Except Fault Json :=
  match n.toDouble with
  | .ok d => .ok (s.realField d)
  | .error () => .error (s.report .realRange)

/-- What a field with a value is written as, given what the value is written as. -/
def close (shape : Shape) (s : Style) (v : Value) (written : Except Fault Json) :
    Except Fault Json :=
  match shape with
  | leaf .integer => match v with
    | .bool b => .ok (.int (if b then 1 else 0))
    | _ => written
  | leaf .real => match v.number? with
    | some n => realNumber s n
    | none => written
  | leaf l => match l.encode? v with
    | some (encoder, code) => do atom s (← code.mapError (s.fault encoder))
    | none => written
  | embedded _ => (written.map fun j => .text j.render).mapError (s.fault embeddedEncoder)
  | part _ | parts _ | crop => written

end Shape

/-- Entries that an encoder gives for a whole instance at some level. They are written as
    any others are. -/
def Style.entries (s : Style) (level : Nat) (entries : List (String × Json)) :
    Except Fault Json :=
  if depthLimit < level + Json.depthOfEntries entries then .error (s.report .tooDeep)
  else .ok (.object (Json.finiteEntries entries))

mutual

/-- The document of a value; `outer` is the level around it. -/
def dump (s : Style) (slot : Slot) (outer : Nat) (v : Value) : Except Fault Json :=
  let level := slot.level outer v
  if depthLimit < level then .error (s.report .tooDeep)
  else match v with
  | .null => .ok .null
  | .bool b => .ok (.bool b)
  | .int n => .ok (.int n)
  | .real d => .ok (s.real d)
  | .text t => .ok (.text t)
  | .bytes bs => s.bytes bs
  | .list xs => (dumpItems s .any level xs).map .array
  | .tuple xs => (dumpItems s slot.item level xs).map .array
  | .set xs => (dumpItems s .any level xs).map .array
  | .mapping entries => (dumpEntries s level entries).map .object
  | .duration d => .ok (.text d.iso)
  | .color r g b a => do
    return .array [← dump s slot.item level r, ← dump s slot.item level g,
      ← dump s slot.item level b, ← dump s slot.item level a]
  | .flags n => slot.bare (.ok (.int n))
  | .choice c => slot.bare (.ok c.value.toJson)
  | .path t => .ok (.text t)
  | .caselessPath .. => .error (.unserializable "pathlib.PureWindowsPath")
  | .pathLike .. => slot.bare (.error (.unserializable "__main__.PathLike"))
  | .ratio w h | .size w h => slot.bare do
      return .object [("width", ← dump s .any level w), ("height", ← dump s .any level h)]
  | .record m attributes => match slot, m with
    | .part p, _ => (dumpFields s.inside level (Model.part p).fields attributes).map .object
    | _, .payload .displayCapture =>
        match dumpFields .settings level Kind.displayCapture.fields attributes,
            dumpCrop level attributes with
        | .ok entries, .ok crop =>
            s.entries level (entries.filter (·.1 != "crop_mode") ++ crop)
        | .error f, _ | .ok _, .error f => .error (s.fault cropEncoder f)
    | _, m => (dumpFields s.inside level m.fields attributes).map .object
  | .object _ => .error (.unserializable "object")

/-- The documents of some values. -/
def dumpItems (s : Style) (slot : Slot) (outer : Nat) : List Value → Except Fault (List Json)
  | [] => .ok []
  | x :: xs => do
    let first ← dump s slot outer x
    let more ← dumpItems s slot outer xs
    return first :: more

/-- The documents of the values of some entries. -/
def dumpEntries (s : Style) (outer : Nat) :
    List (String × Value) → Except Fault (List (String × Json))
  | [] => .ok []
  | (key, v) :: rest => do
    let first ← dump s .any outer v
    let more ← dumpEntries s outer rest
    return (key, first) :: more

/-- The attributes of an instance by their fields; an attribute without a field is left
    out. -/
def dumpFields (s : Style) (outer : Nat) (fields : List (Field Shape)) :
    List (String × Value) → Except Fault (List (String × Json))
  | [] => .ok []
  | (name, v) :: rest => match Field.find? fields name with
    | none => dumpFields s outer fields rest
    | some f => do
      let first ← f.shape.close s v
        (dump (f.shape.style s) f.shape.slot (f.shape.outer outer) v)
      let more ← dumpFields s outer fields rest
      return (f.wire, first) :: more

/-- The entries of the crop among the attributes of a display capture. -/
def dumpCrop (outer : Nat) : List (String × Value) → Except Fault (List (String × Json))
  | [] => .ok []
  | (name, v) :: rest => if name = "crop_mode" then flatten outer v else dumpCrop outer rest

/-- The entries of a crop. -/
def flatten (outer : Nat) : Value → Except Fault (List (String × Json))
  | .record m attributes => match m with
    | .part (.crop variant) => (dumpEntries .settings outer attributes).map fun entries =>
        ("crop_mode", .int variant.tag) :: variant.arrange entries
    | m => .error (.cropRequired m.name)
  | v => .error (.cropRequired v.typeName)

end

/-- The settings document of an instance. -/
def document (v : Value) : Except Fault Json := dump .settings .whole 0 v

/-- The JSON text of a value. -/
def embed (v : Value) : Except Fault String := (dump .text .any 0 v).map Json.render

end SceneSource
