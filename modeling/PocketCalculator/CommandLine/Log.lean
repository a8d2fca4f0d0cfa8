import PocketCalculator.Calculator.Journal

/-!
# The log

A record has a level, the name of its source and a message. Records below the level in force are
left out.
-/

namespace PocketCalculator.CommandLine

/-- Levels from the least to the most severe; `all` is below every record. -/
inductive LogLevel where
  | all
  | debug
  | info
  | warning
  | error
  | critical
deriving DecidableEq, Repr

namespace LogLevel

def severity : LogLevel → Nat
  | .all => 0
  | .debug => 10
  | .info => 20
  | .warning => 30
  | .error => 40
  | .critical => 50

def name : LogLevel → String
  | .all => "NOTSET"
  | .debug => "DEBUG"
  | .info => "INFO"
  | .warning => "WARNING"
  | .error => "ERROR"
  | .critical => "CRITICAL"

/-- Two levels have a second name. -/
def ofName? (s : String) : Option LogLevel :=
  match s with
  | "NOTSET" => some .all
  | "DEBUG" => some .debug
  | "INFO" => some .info
  | "WARNING" | "WARN" => some .warning
  | "ERROR" => some .error
  | "CRITICAL" | "FATAL" => some .critical
  | _ => none

@[simp] theorem ofName?_name (l : LogLevel) : ofName? l.name = some l := by
  cases l <;> rfl

end LogLevel

structure LogRecord where
  level : LogLevel
  source : String
  message : String
deriving DecidableEq, Repr

namespace LogRecord

def line (r : LogRecord) : String := s!"{r.level.name} {r.source}: {r.message}"

def ofEvent (e : Event) : LogRecord where
  level := .debug
  source := match e with
    | .divisionByZero .. | .evaluationFailed .. => "keycalc.evaluator"
    | _ => "keycalc.engine"
  message := e.message

end LogRecord

/-- The lines of the records that a level lets through. -/
def logLines (threshold : LogLevel) (rs : List LogRecord) : List String :=
  (rs.filter (threshold.severity ≤ ·.level.severity)).map LogRecord.line

end PocketCalculator.CommandLine
