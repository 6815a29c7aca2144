-- SUMMARY: The two switches of the library and how they are read from the environment.
import SceneSource.Dotenv
import SceneSource.Validation.Leaf

/-!
# Configuration

Two switches, both on unless a variable says otherwise. A variable counts in any case of
its name; the environment goes before the file of variables, and within either the last
binding counts. Both switches are checked before the configuration is refused.
-/

namespace SceneSource

/-- The configuration. -/
structure Config where
  /-- Whether a value below a documented minimum is logged. -/
  warnBelowMinimum : Bool := true
  /-- Whether serializations are counted. -/
  metricsEnabled : Bool := true
deriving DecidableEq, Repr

namespace Config

/-- The name under which a configuration that cannot be read is reported. -/
def title : String := "_Settings"

/-- The variable for the warnings. -/
def warnVariable : String := "OBS_SETTINGS_WARN_BELOW_MINIMUM"
/-- The variable for the metrics. -/
def metricsVariable : String := "OBS_SETTINGS_METRICS_ENABLED"

/-- A text in small ASCII letters. -/
def lower (s : String) : List Char := s.toList.map Char.toLower

/-- The last binding of a name in any case. -/
def lastOf? (name : String) (bindings : List (String × α)) : Option α :=
  (bindings.reverse.find? fun e => lower e.1 == lower name).map (·.2)

/-- The text of a variable: from the environment, else from the file. -/
def setting? (environment : List (String × String)) (file : List Dotenv.Binding)
    (name : String) : Option String :=
  lastOf? name environment <|> (lastOf? name file).join

/-- The value of a switch. -/
def switch (name : String) (text? : Option String) : Except Refusal Bool :=
  match text? with
  | none => .ok true
  | some s => match Leaf.boolWord? s with
    | some b => .ok b
    | none => .error (.issues [⟨.boolText, [.key name]⟩])

/-- Reads the configuration from the environment and the text of a file of variables. -/
def read (environment : List (String × String)) (dotenv? : Option String) :
    Except Refusal Config :=
  let file := (dotenv?.map (Dotenv.read environment)).getD []
  Refusal.join (fun warn metrics => ⟨warn, metrics⟩)
    (switch warnVariable (setting? environment file warnVariable))
    (switch metricsVariable (setting? environment file metricsVariable))

end Config

end SceneSource
