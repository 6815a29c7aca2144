-- SUMMARY: Every change to a finished value is refused, each type in its own words.
import SceneSource.Failure
import SceneSource.Schema

/-!
# Changes to finished values

Nothing can be changed once it is made. What belongs to a payload model as a whole is
refused as such, any other name on an instance as frozen, whether the field exists or not.
Only a name with an underscore in front, which no field has, can be given to an instance;
nothing ever shows it.
-/

namespace SceneSource

/-- The names that belong to a payload model as a whole. -/
def sharedNames : List String := ["source_kind", "documented_minimums"]

/-- The names of the channels of a color. -/
def channelNames : List String := ["r", "g", "b", "a"]

/-- The names of what a color can do and of what is known about it. -/
def colorNames : List String := [
  "count", "index", "_asdict", "_field_defaults", "_fields", "_make", "_replace", "__add__",
  "__annotations__", "__class_getitem__", "__contains__", "__delattr__", "__dir__", "__doc__",
  "__eq__", "__format__", "__ge__", "__getattribute__", "__getitem__", "__getnewargs__",
  "__getstate__", "__gt__", "__hash__", "__init__", "__init_subclass__", "__iter__", "__le__",
  "__len__", "__lt__", "__match_args__", "__module__", "__mul__", "__ne__", "__new__",
  "__orig_bases__", "__reduce__", "__reduce_ex__", "__repr__", "__rmul__", "__setattr__",
  "__sizeof__", "__slots__", "__str__", "__subclasshook__"]

/-- Why an attribute of an instance cannot be changed to a value. -/
def frozenChange (m : Model) (name : String) (v : Value) : Except Failure Unit :=
  if name = "__dict__" then
    match v with
    | .mapping _ => .ok ()
    | v => .error (.fault (.newAttributes v.fullTypeName))
  else if name.startsWith "_" then .ok ()
  else .error (.invalid m.name [⟨.frozen, [.key name]⟩])

/-- Changes an attribute of a value to another value, or says why it cannot be changed. -/
def change (target : Value) (name : String) (v : Value) : Except Failure Unit :=
  match target with
  | .ratio .. | .size .. => .error (.fault (.frozenField name))
  | target =>
    if name = "__class__" then .error (.fault (.newType v.fullTypeName))
    else match target with
    | .record (.payload k) _ =>
        if name ∈ sharedNames then .error (.fault (.modelAttribute k.modelName name))
        else frozenChange (.payload k) name v
    | .record m _ => frozenChange m name v
    | .color .. =>
        if name ∈ channelNames then .error (.fault .frozenEntry)
        else if name ∈ colorNames then .error (.fault (.readOnly target.fullTypeName name))
        else .error (.fault (.noAttribute target.fullTypeName name))
    | v => .error (.fault (.noAttribute v.fullTypeName name))

end SceneSource
