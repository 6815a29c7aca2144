-- SUMMARY: The structured record of a document, for sinks that want more than a message.
import SceneSource.Host
import SceneSource.Value.Order

/-!
# Structured log payloads

What is said about a document besides that it was made: its kind, its keys in ascending
order, the build that made it, and the time it took if that is known.
-/

namespace SceneSource

/-- What a structured record says. -/
structure LogPayload where
  kind : Value
  keys : List Value
  buildVersion : String
  gitSha : String
  duration? : Option Value

namespace LogPayload

/-- The variable for the version of the build. -/
def versionVariable : String := "BUILD_VERSION"
/-- The variable for the revision that was built. -/
def revisionVariable : String := "GIT_SHA"

/-- The value of a variable that says which build is running. -/
def buildVariable (name : String) (h : Host) : String :=
  (h.environment.lookup name).getD "unknown"

/-- What is said about a document, or about any other collection. -/
def make (kind settings duration : Value) (h : Host) : Except Fault LogPayload :=
  match settings.elements? with
  | none => .error (.notIterable settings.fullTypeName)
  | some xs => do
    return {
      kind
      keys := ← Value.sorted xs
      buildVersion := buildVariable versionVariable h
      gitSha := buildVariable revisionVariable h
      duration? := match duration with
        | .null => none
        | d => some d }

end LogPayload

end SceneSource
