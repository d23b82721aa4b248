/-!
# Levels and formats of log output

A record has one of five levels, which are ordered by their number, and a log is written in one
of two formats. Both are chosen by name. The main statements say that the names are distinct:
looking up a name gives back what it is the name of.
-/

namespace FailurePrompt

/-- How much a record matters. -/
inductive Level
  | debug
  | info
  | warning
  | error
  | critical
  deriving Repr, DecidableEq

namespace Level

/-- All levels, the least first. -/
def all : List Level := [.debug, .info, .warning, .error, .critical]

/-- The name by which a level is chosen. -/
def name : Level → String
  | .debug => "DEBUG"
  | .info => "INFO"
  | .warning => "WARNING"
  | .error => "ERROR"
  | .critical => "CRITICAL"

/-- The word that stands for a level in a record. -/
def word : Level → String
  | .debug => "debug"
  | .info => "info"
  | .warning => "warning"
  | .error => "error"
  | .critical => "critical"

/-- The number by which levels are compared. -/
def number : Level → Nat
  | .debug => 10
  | .info => 20
  | .warning => 30
  | .error => 40
  | .critical => 50

/-- The level with a given name. -/
def ofName? (name : String) : Option Level := all.find? (·.name = name)

theorem ofName?_name (level : Level) : ofName? level.name = some level := by
  cases level <;> decide +kernel

end Level

/-- How records are written. -/
inductive LogFormat
  | json
  | console
  deriving Repr, DecidableEq

namespace LogFormat

/-- Both formats. -/
def all : List LogFormat := [.json, .console]

/-- The name by which a format is chosen. -/
def name : LogFormat → String
  | .json => "json"
  | .console => "console"

/-- The format with a given name. -/
def ofName? (name : String) : Option LogFormat := all.find? (·.name = name)

theorem ofName?_name (format : LogFormat) : ofName? format.name = some format := by
  cases format <;> decide +kernel

end LogFormat

end FailurePrompt
