-- SUMMARY: Every model read from given entries, and the values below a documented minimum.
import SceneSource.Json.Reader
import SceneSource.Validation.Part

/-!
# Validation of models

The fields of a payload hold leaves and parts. A list of files is read item by item, an
embedded part also from JSON text. An instance of a model is what all its fields store.
-/

namespace SceneSource

namespace Shape

/-- The items of a value that is given for a number of parts. A text is none, and neither
    is a mapping. -/
def items? : Value → Option (List Value)
  | .text _ | .choice _ | .bytes _ | .mapping _ => none
  | v => v.elements?

/-- Reads each of some items, at its index. -/
def checkItems (p : Part) : (index : Nat) → List Value → List (Except Refusal Value)
  | _, [] => []
  | i, x :: xs => ((p.check x).mapError (·.under (.index i))) :: checkItems p (i + 1) xs

/-- What a field for a number of parts stores. -/
def checkParts (p : Part) (v : Value) : Except Refusal Value :=
  match items? v with
  | some xs => (Refusal.all (checkItems p 0 xs)).map .tuple
  | none => .error (.because .tupleType)

/-- The value that JSON text stands for; anything else stands for itself. -/
def unembedded (v : Value) : Except Fault Value :=
  match v with
  | .bytes bs => (Json.ofBytes bs).map Json.toValue
  | v => match v.text? with
    | some s => (Json.ofText s).map Json.toValue
    | none => .ok v

/-- What a field stores for a value. -/
def check : Shape → Value → Except Refusal Value
  | leaf l, v => l.check v
  | part p, v => p.check v
  | parts p, v => checkParts p v
  | embedded p, v => do p.check (← Leaf.converted (unembedded v))
  | crop, v => CropVariant.check v

end Shape

/-- Reads an instance of a model. -/
def Model.read (m : Model) (entries : List (String × Value)) : Except Refusal Value :=
  match m with
  | .payload k => (Field.readAll Shape.check m.isClosed k.fields entries).map (.record m)
  | .part p => p.read entries
  | .update => (Field.readAll Leaf.check m.isClosed updateFields entries).map (.record m)

/-- The instance of a model with given attributes, none of which is validated: a field is
    taken as it is given, takes its default or stays away. -/
def Model.assemble (m : Model) (entries : List (String × Value)) : Value :=
  .record m (m.fields.filterMap fun f =>
    (((f.given? entries).map (·.2)) <|> f.default?).map fun v => (f.name, v))

-- ---------------------------------------------------------------------------
-- Documented minimums
-- ---------------------------------------------------------------------------

/-- Whether a stored value lies below a minimum. -/
def Value.isBelow : Value → Value → Bool
  | .duration d, .duration least => d.micros < least.micros
  | .int n, .int least => n < least
  | _, _ => false

/-- A stored value below its documented minimum. -/
structure Shortfall where
  kind : Kind
  field : String
  value : Value
  least : Value

/-- The attributes of an instance that lie below a documented minimum, in the order of
    the minimums. -/
def Kind.shortfalls (k : Kind) (payload : Value) : List Shortfall :=
  k.minimums.filterMap fun (name, least) =>
    ((payload.attribute? name).filter (·.isBelow least)).map fun v => ⟨k, name, v, least⟩

/-- The wording of a warning. -/
def Shortfall.message (s : Shortfall) : String :=
  s!"{s.kind.modelName}.{s.field}={s.value.shown} is below the documented minimum {s.least.shown}"

end SceneSource
