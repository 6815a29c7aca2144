-- SUMMARY: Updates: a settings document addressed to a named source, and the request for it.
import SceneSource.Catalog
import SceneSource.Document.Plain

/-!
# Updates

An update carries the document of a payload, the name of the source it is for and, if
wanted, the kind. The document is made before the name is looked at.
-/

namespace SceneSource

namespace Action

/-- The update of a source from a payload, with its kind unless that is left out. -/
def updateFrom (elapsed : Nat) (name payload : Value) (withKind : Bool := true) : Action Value := do
  match payloadKind? payload with
  | none => throw (.fault (.noAttribute payload.fullTypeName "source_kind"))
  | some k =>
    let kind := Value.text k.tag
    let settings ← serialize elapsed kind payload
    construct .update [
      ("source_name", name),
      ("source_settings", settings.toValue),
      ("source_type", if withKind then kind else .null)]

end Action

/-- The request that an update is sent as; a kind that is left out is not in it. -/
def request (update : Value) : Except Fault Value := do
  match update.attribute? "source_type", ← plainWhole .wire update with
  | some .null, .mapping entries => return .mapping (entries.filter (·.1 != "sourceType"))
  | _, v => return v

end SceneSource
