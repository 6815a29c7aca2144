-- SUMMARY: What operations share: environment, cached configuration, metrics and log.
import SceneSource.Config
import SceneSource.Failure
import SceneSource.Log
import SceneSource.Metrics

/-!
# The host

Operations run on one state: the environment and the file of variables, the configuration
once it has been read, the metrics and the log. The configuration is read when it is first
asked for and kept until a reset; a configuration that cannot be read is not kept. What an
operation changed stays changed if it fails afterwards.
-/

namespace SceneSource

/-- The state that operations run on. -/
structure Host where
  /-- The variables of the environment, in the order in which they were set. -/
  environment : List (String × String) := []
  /-- The text of the file of variables, if there is one. -/
  dotenv? : Option String := none
  /-- The configuration that is kept. -/
  config? : Option Config := none
  metrics : Metrics := {}
  /-- The least level of a record that is logged. -/
  threshold : Level := .warning
  /-- The log, the latest record last. -/
  log : List LogRecord := []

/-- An operation. -/
abbrev Action (α : Type) := ExceptT Failure (StateM Host) α

namespace Action

/-- An outcome that does not depend on the host. -/
def ofFault (r : Except Fault α) : Action α :=
  match r with
  | .ok a => pure a
  | .error f => throw (.fault f)

/-- Adds a record to the log, if it is grave enough. -/
def log (r : LogRecord) : Action Unit := modify fun h =>
  if r.level.passes h.threshold then { h with log := h.log ++ [r] } else h

-- ---------------------------------------------------------------------------
-- Environment and configuration
-- ---------------------------------------------------------------------------

/-- Sets a variable, or removes it. -/
def setVariable (name : String) (value? : Option String) : Action Unit := modify fun h =>
  { h with environment := match value? with
    | some v => Dotenv.put name v h.environment
    | none => h.environment.filter (·.1 != name) }

/-- The configuration in effect. -/
def config : Action Config := do
  let h ← get
  match h.config? with
  | some c => return c
  | none => match Config.read h.environment h.dotenv? with
    | .ok c =>
      set { h with config? := some c }
      return c
    | .error r => throw (.ofRefusal Config.title r)

/-- Forgets the configuration. -/
def resetConfig : Action Unit := modify fun h => { h with config? := none }

-- ---------------------------------------------------------------------------
-- Metrics
-- ---------------------------------------------------------------------------

/-- Changes the metrics. -/
def modifyMetrics (f : Metrics → Metrics) : Action Unit := modify fun h =>
  { h with metrics := f h.metrics }

/-- A latency as the double that goes into a sum. -/
def latency (v : Value) : Except Fault (Number × Double) :=
  match v.number? with
  | none => .error (.addend v.fullTypeName)
  | some n => match n.toDouble with
    | .ok d => .ok (n, d)
    | .error () => .error .realRange

/-- Records one serialization, unless metrics are off: the counter first, then the
    histogram, which comes into being even if the latency is then refused. -/
def record (kind status duration : Value) : Action Unit := do
  if (← config).metricsEnabled then
    let kind ← ofFault kind.display?
    let status ← ofFault status.display?
    modifyMetrics (·.count kind status)
    modifyMetrics (·.updateHistogram kind id)
    let (n, d) ← ofFault (latency duration)
    modifyMetrics (·.updateHistogram kind (·.observe n d))

end Action

end SceneSource
