-- SUMMARY: Building payloads by kind and turning them into settings documents.
import SceneSource.Document.Dump
import SceneSource.LogPayload
import SceneSource.Validation.Model

/-!
# The catalog

A payload is built from overrides of its defaults and serialized under its kind. A built
payload whose values lie below documented minimums is logged and otherwise left as it is.
A serialization either gives the whole document or fails, and is recorded either way, unless
it fails because a number is too large for a double.
-/

namespace SceneSource

namespace Action

-- ---------------------------------------------------------------------------
-- Construction
-- ---------------------------------------------------------------------------

/-- The logger of what goes on in payloads. -/
def payloadLogger : String := "obs_settings.schemas.sources"

/-- Logs one warning. -/
def warn (s : Shortfall) : Action Unit :=
  log { level := .warning, logger := payloadLogger, message := s.message }

/-- Logs the values of a new payload below documented minimums, unless the configuration
    says not to. A configuration that cannot be read makes the construction fail. -/
def warnBelowMinimums (k : Kind) (payload : Value) : Action Unit := do
  if !k.minimums.isEmpty then
    if (← config.adapt (·.retitle k.modelName)).warnBelowMinimum then
      (k.shortfalls payload).forM warn

/-- Constructs an instance of a model from given entries. -/
def construct (m : Model) (entries : List (String × Value)) : Action Value :=
  match m.read entries with
  | .error r => throw (.ofRefusal m.name r)
  | .ok v => do
    if let .payload k := m then warnBelowMinimums k v
    return v

-- ---------------------------------------------------------------------------
-- Kinds
-- ---------------------------------------------------------------------------

/-- The kind that a value names. -/
def kindOf (kind : Value) : Except Failure Kind :=
  match kind.unhashable? with
  | some type => .error (.fault (.unhashable type))
  | none => match kind.text?.bind Kind.ofTag? with
    | some k => .ok k
    | none => .error (.noKind kind)

/-- Builds the payload of a kind from overrides of its defaults. -/
def build (kind : Value) (overrides : List (String × Value)) : Action Value := do
  if overrides.any (·.1 == "source_kind") then throw (.fault .repeatedKind)
  construct (.payload (← kindOf kind)) overrides

/-- Builds the payload of a kind from overrides that have to be a mapping. -/
def rebuild (kind overrides : Value) : Action Value :=
  match overrides with
  | .mapping entries => build kind entries
  | v => throw (.fault (.notMapping v.fullTypeName))

/-- The kind of a payload. -/
def payloadKind? : Value → Option Kind
  | .record (.payload k) _ => some k
  | _ => none

/-- The settings document of a value that has to be a payload. -/
def settings (payload : Value) : Except Fault Json :=
  match payloadKind? payload with
  | some _ => document payload
  | none => .error (.noAttribute payload.fullTypeName "to_settings")

-- ---------------------------------------------------------------------------
-- Serialization
-- ---------------------------------------------------------------------------

/-- The logger of serializations. -/
def catalogLogger : String := "obs_settings.catalog"

/-- The keys of a document. -/
def keys : Json → List String
  | .object entries => entries.map (·.1)
  | _ => []

/-- The record of a finished document. -/
def finished (kind : String) (settings : Json) (h : Host) : LogRecord where
  level := .debug
  logger := catalogLogger
  message := s!"serialized {kind} settings"
  details? := some {
    kind
    keys := (keys settings).mergeSort (· ≤ ·)
    buildVersion := LogPayload.buildVariable LogPayload.versionVariable h
    gitSha := LogPayload.buildVariable LogPayload.revisionVariable h }

/-- The record of a document that could not be made. -/
def failed (kind : String) (cause : Fault) : LogRecord where
  level := .error
  logger := catalogLogger
  message := s!"failed to serialize {kind} settings"
  exception? := some cause.category.name

/-- A time in nanoseconds as a latency in milliseconds. -/
def milliseconds (nanoseconds : Nat) : Value := .real (.ofRatio false nanoseconds 1000000)

/-- Serializes a payload under its kind; `elapsed` is the time that making the document
    takes, in nanoseconds. -/
def serialize (elapsed : Nat) (kind payload : Value) : Action Json := do
  let expected ← kindOf kind
  if payloadKind? payload ≠ some expected then
    throw (.mismatch kind expected payload.typeName)
  match document payload with
  | .ok settings =>
    record kind (.text "ok") (milliseconds elapsed)
    log (finished kind.display settings (← get))
    return settings
  | .error cause =>
    if cause.category = .overflow then throw (.fault cause)
    record kind (.text "error") (milliseconds elapsed)
    log (failed kind.display cause)
    throw (.serialization kind cause)

end Action

end SceneSource
