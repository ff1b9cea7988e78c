/-!
# Log records

What is recorded for the operator. A record names the part of the program that it comes from.
-/

namespace AlbListener

/-- How urgent a record is. -/
inductive LogLevel
  | info
  | warning
  | error
  deriving DecidableEq, Repr

/-- The name of a level. -/
def LogLevel.name : LogLevel → String
  | .info => "INFO"
  | .warning => "WARNING"
  | .error => "ERROR"

/-- The part of the program that a record comes from. -/
inductive LogSource
  | validation
  | events
  | reconciler
  | provider
  deriving DecidableEq, Repr

/-- The name of a source. -/
def LogSource.name : LogSource → String
  | .validation => "validation"
  | .events => "events"
  | .reconciler => "listener.reconciler"
  | .provider => "cloud.elbv2"

/-- A record. -/
structure LogRecord where
  level : LogLevel
  source : LogSource
  message : String
  deriving DecidableEq, Repr

/-- A record as a line. -/
def LogRecord.text (r : LogRecord) : String :=
  r.level.name ++ " " ++ r.source.name ++ ": " ++ r.message

end AlbListener
