-- SUMMARY: Instances taken apart into plain mappings, with their leaves left as they are.
import SceneSource.Document.Dump
import SceneSource.Value.Equality

/-!
# Plain data

`plain` takes an instance apart without making a document of it: fields with an encoder
are encoded, instances and bounding sizes become mappings and colors become tuples, and
every other value stays what it is. So does a value that is nested too deeply. `Naming`
says which name a field goes by.
-/

namespace SceneSource

/-- The name that a field goes by. -/
inductive Naming where
  | own
  | wire
deriving DecidableEq, Repr

/-- The name of a field. -/
def Naming.of (n : Naming) (f : Field σ) : String :=
  match n with
  | own => f.name
  | wire => f.wire

/-- What an object without fields of its place is taken apart into. -/
def Slot.plainBare (s : Slot) (otherwise : Except Fault Value) : Except Fault Value :=
  match s with
  | part _ => .ok (.mapping [])
  | any | whole | leaf _ | parts _ | crop => otherwise

/-- What a field with a value is taken apart into, given what the value is, and given the
    document of the value for embedded text. -/
def Shape.closePlain (shape : Shape) (v : Value) (taken : Except Fault Value) :
    Except Fault Value :=
  match shape with
  | .leaf l => match l.encode? v with
    | some (encoder, code) => code.mapError (·.inEncoder encoder)
    | none => taken
  | .embedded _ => ((embed v).map .text).mapError (·.inEncoder embeddedEncoder)
  | .part _ | .parts _ | .crop => taken

mutual

/-- A value taken apart; `outer` is the level around it. -/
def plain (n : Naming) (slot : Slot) (outer : Nat) (v : Value) : Except Fault Value :=
  let level := slot.level outer v
  if depthLimit < level then .ok v
  else match v with
  | .list xs => (plainItems n .any level xs).map .list
  | .tuple xs => (plainItems n slot.item level xs).map .tuple
  | .set xs => do Value.ofSet (← plainItems n .any level xs)
  | .mapping entries => (plainEntries n level entries).map .mapping
  | .color r g b a => do
    return .tuple [← plain n slot.item level r, ← plain n slot.item level g,
      ← plain n slot.item level b, ← plain n slot.item level a]
  | .ratio w h | .size w h => slot.plainBare do
      return .mapping [("width", ← plain n .any level w), ("height", ← plain n .any level h)]
  | .record m attributes => match slot, m with
    | .part p, _ => (plainFields n level (Model.part p).fields attributes).map .mapping
    | _, .payload .displayCapture =>
        match plainFields n level Kind.displayCapture.fields attributes,
            plainCrop n level attributes with
        | .ok entries, .ok crop => .ok (.mapping (entries.filter (·.1 != "crop_mode") ++ crop))
        | .error f, _ | .ok _, .error f => .error (f.inEncoder cropEncoder)
    | _, m => (plainFields n level m.fields attributes).map .mapping
  | .flags bits => slot.plainBare (.ok (.flags bits))
  | .choice c => slot.plainBare (.ok (.choice c))
  | .pathLike i answer => slot.plainBare (.ok (.pathLike i answer))
  | .null => .ok .null
  | .bool b => .ok (.bool b)
  | .int i => .ok (.int i)
  | .real d => .ok (.real d)
  | .text t => .ok (.text t)
  | .bytes bs => .ok (.bytes bs)
  | .duration d => .ok (.duration d)
  | .path t => .ok (.path t)
  | .caselessPath t parts => .ok (.caselessPath t parts)
  | .object i => .ok (.object i)

/-- Some values taken apart. -/
def plainItems (n : Naming) (slot : Slot) (outer : Nat) :
    List Value → Except Fault (List Value)
  | [] => .ok []
  | x :: xs => do
    let first ← plain n slot outer x
    let more ← plainItems n slot outer xs
    return first :: more

/-- The values of some entries taken apart. -/
def plainEntries (n : Naming) (outer : Nat) :
    List (String × Value) → Except Fault (List (String × Value))
  | [] => .ok []
  | (key, v) :: rest => do
    let first ← plain n .any outer v
    let more ← plainEntries n outer rest
    return (key, first) :: more

/-- The attributes of an instance taken apart by their fields; an attribute without a
    field is left out. -/
def plainFields (n : Naming) (outer : Nat) (fields : List (Field Shape)) :
    List (String × Value) → Except Fault (List (String × Value))
  | [] => .ok []
  | (name, v) :: rest => match Field.find? fields name with
    | none => plainFields n outer fields rest
    | some f => do
      let first ← f.shape.closePlain v (plain n f.shape.slot outer v)
      let more ← plainFields n outer fields rest
      return (n.of f, first) :: more

/-- The entries of the crop among the attributes of a display capture. -/
def plainCrop (n : Naming) (outer : Nat) :
    List (String × Value) → Except Fault (List (String × Value))
  | [] => .ok []
  | (name, v) :: rest =>
    if name = "crop_mode" then plainFlatten n outer v else plainCrop n outer rest

/-- The entries of a crop. -/
def plainFlatten (n : Naming) (outer : Nat) :
    Value → Except Fault (List (String × Value))
  | .record m attributes => match m with
    | .part (.crop variant) => (plainEntries n outer attributes).map fun entries =>
        ("crop_mode", .int variant.tag) :: variant.arrange entries
    | m => .error (.cropRequired m.name)
  | v => .error (.cropRequired v.typeName)

end

/-- An instance taken apart. -/
def plainWhole (n : Naming) (v : Value) : Except Fault Value := plain n .whole 0 v

end SceneSource
