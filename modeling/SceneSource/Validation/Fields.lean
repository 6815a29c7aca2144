-- SUMMARY: The fields of a model read from given entries, one by one.
import SceneSource.Schema
import SceneSource.Validation.Issue

/-!
# Validation field by field

No field looks at another one: each is read from the entries under the first of its keys
that is there, or takes its default. What is wrong is reported in the order of the
fields, and then key by key what no field asked for, if the model minds.
-/

namespace SceneSource

namespace Field

/-- The key and the value that a field is given. -/
def given? (field : Field σ) (entries : List (String × Value)) : Option (String × Value) :=
  field.keys.findSome? fun key => (entries.lookup key).map fun v => (key, v)

/-- Reads one field. -/
def read (check : σ → Value → Except Refusal Value) (entries : List (String × Value))
    (field : Field σ) : Except Refusal Value :=
  match field.given? entries with
  | some (key, v) => (check field.shape v).mapError (·.under (.key key))
  | none => match field.default? with
    | some v => .ok v
    | none => .error (.issues [⟨.missing, [.key field.name]⟩])

/-- Reads one field as an attribute. -/
def readAttribute (check : σ → Value → Except Refusal Value) (entries : List (String × Value))
    (field : Field σ) : Except Refusal (String × Value) :=
  (field.read check entries).map fun v => (field.name, v)

/-- The keys of the entries that fields were read from. -/
def usedKeys (fields : List (Field σ)) (entries : List (String × Value)) : List String :=
  fields.filterMap fun f => (f.given? entries).map (·.1)

/-- An issue for each entry that no field was read from. -/
def extraIssues (fields : List (Field σ)) (entries : List (String × Value)) : List Issue :=
  (entries.filter fun e => !(usedKeys fields entries).contains e.1).map fun e =>
    ⟨.extra, [.key e.1]⟩

/-- Refuses some issues, unless there are none. -/
def refuseAny : List Issue → Except Refusal Unit
  | [] => .ok ()
  | found => .error (.issues found)

/-- Reads all fields as the attributes of an instance. -/
def readAll (check : σ → Value → Except Refusal Value) (closed : Bool) (fields : List (Field σ))
    (entries : List (String × Value)) : Except Refusal (List (String × Value)) :=
  Refusal.join (fun attributes _ => attributes)
    (Refusal.all (fields.map (readAttribute check entries)))
    (refuseAny (if closed then extraIssues fields entries else []))

end Field

end SceneSource
