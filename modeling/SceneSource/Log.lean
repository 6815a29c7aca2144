-- SUMMARY: Log records, their levels, and what a threshold lets through.

/-!
# Log records
-/

namespace SceneSource

/-- How grave a log record is. -/
inductive Level where
  | debug
  | info
  | warning
  | error
  | critical
deriving DecidableEq, Repr

namespace Level

/-- All levels, the least grave first. -/
def all : List Level := [debug, info, warning, error, critical]

/-- The name of a level. -/
def name : Level → String
  | debug => "DEBUG"
  | info => "INFO"
  | warning => "WARNING"
  | error => "ERROR"
  | critical => "CRITICAL"

/-- The level with a name. -/
def ofName? (s : String) : Option Level := all.find? (·.name == s)

/-- How grave a level is. -/
def gravity : Level → Nat
  | debug => 10
  | info => 20
  | warning => 30
  | error => 40
  | critical => 50

/-- Whether a record of one level passes the threshold of another one. -/
def passes (level threshold : Level) : Bool := threshold.gravity ≤ level.gravity

end Level

/-- What a record about a finished document carries besides its text. -/
structure LogDetails where
  kind : String
  keys : List String
  buildVersion : String
  gitSha : String
deriving DecidableEq, Repr

/-- One log record. -/
structure LogRecord where
  level : Level
  logger : String
  message : String
  /-- The name of the category of the failure that the record is about. -/
  exception? : Option String := none
  details? : Option LogDetails := none
deriving DecidableEq, Repr

end SceneSource
