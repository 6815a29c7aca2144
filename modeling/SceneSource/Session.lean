-- SUMMARY: Sessions: operations one after the other on one host, each with its own outcome.
import SceneSource.Frozen
import SceneSource.Update

/-!
# Sessions

A session is a sequence of calls on one host. A call that fails leaves the host as far as
it got, and the session goes on. Calls that make a document also say how long that took.
-/

namespace SceneSource

/-- An operation that depends on the host or changes it. -/
inductive Call where
  | construct (model : Model) (entries : List (String × Value))
  | build (kind : Value) (overrides : List (String × Value))
  | rebuild (kind overrides : Value)
  /-- `elapsed` counts nanoseconds, here and below. -/
  | serialize (elapsed : Nat) (kind payload : Value)
  | update (elapsed : Nat) (name payload : Value) (withKind : Bool)
  | record (kind status duration : Value)
  | logPayload (kind settings duration : Value)
  | config
  | setVariables (changes : List (String × Option String))
  | reset

/-- What a call gives. -/
inductive Reply where
  /-- The instance of a model. -/
  | made (v : Value)
  | document (settings : Json)
  | logPayload (payload : LogPayload)
  | config (c : Config)
  | done

namespace Call

/-- Runs a call. -/
def run : Call → Action Reply
  | construct m entries => .made <$> Action.construct m entries
  | build kind overrides => .made <$> Action.build kind overrides
  | rebuild kind overrides => .made <$> Action.rebuild kind overrides
  | serialize elapsed kind payload => .document <$> Action.serialize elapsed kind payload
  | update elapsed name payload withKind =>
      .made <$> Action.updateFrom elapsed name payload withKind
  | record kind status duration => do
      Action.record kind status duration
      return .done
  | logPayload kind settings duration => do
      return .logPayload (← Action.ofFault (LogPayload.make kind settings duration (← get)))
  | config => .config <$> Action.config
  | setVariables changes => do
      changes.forM fun (name, value?) => Action.setVariable name value?
      return .done
  | reset => do
      Action.resetConfig
      return .done

end Call

/-- The outcome of every call of a session, and the host in the end. -/
def runSession : List Call → Host → List (Except Failure Reply) × Host
  | [], h => ([], h)
  | c :: rest, h =>
    let (outcome, h) := c.run.run h
    let (outcomes, h) := runSession rest h
    (outcome :: outcomes, h)

end SceneSource
