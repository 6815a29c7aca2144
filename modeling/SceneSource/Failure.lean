-- SUMMARY: How an operation of the library ends when it does not succeed.
import SceneSource.Validation.Issue
import SceneSource.Value.Shown

/-!
# Failures

A failure is a fault, a construction with issues, or one of the three failures of the
catalog: a kind that it does not have, a payload of another kind, and a payload that has no
document.
-/

namespace SceneSource

/-- Why an operation did not succeed. -/
inductive Failure where
  | fault (f : Fault)
  /-- A construction with issues; `title` names what was to be constructed. -/
  | invalid (title : String) (issues : List Issue)
  | unknownKind (kind : Value)
  /-- A payload whose type is not the one of its kind. -/
  | mismatch (kind : Value) (expected : Kind) (actual : String)
  | serialization (kind : Value) (cause : Fault)

namespace Failure

/-- The failure of a construction. -/
def ofRefusal (title : String) : Refusal → Failure
  | .issues found => invalid title found
  | .fault f => fault f

/-- The failure with issues as one of a construction that contains it. -/
def retitle (title : String) : Failure → Failure
  | invalid _ found => invalid title found
  | f => f

/-- The failure for a kind that the catalog does not have. -/
def noKind (kind : Value) : Failure :=
  match kind.show? with
  | .ok _ => unknownKind kind
  | .error f => fault f

/-- The message of a failure; of a construction with issues, its first line. -/
def message : Failure → String
  | fault f => f.message
  | invalid title issues =>
      s!"{issues.length} validation error" ++ (if issues.length = 1 then "" else "s") ++
        s!" for {title}"
  | unknownKind kind => s!"unknown source kind: {kind.shown}"
  | mismatch kind expected actual =>
      s!"source kind {kind.shown} expects {expected.modelName}, got {actual}"
  | serialization kind cause => s!"failed to serialize {kind.shown} settings: {cause.message}"

end Failure

end SceneSource
