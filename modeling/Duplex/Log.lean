import Duplex.Text.Quoted

/-! # Log records

  What the library reports while it runs: a message with a severity, perhaps a target and
  the text of an error, and attributes. The shorthands for a severity leave the target out;
  those below `warn` carry no error, and the plain ones no attributes.
-/

namespace Duplex

/-- How grave a record is. -/
inductive Severity where
  | trace
  | debug
  | info
  | warn
  | error
  deriving DecidableEq, Repr

/-- The name of a severity. -/
def Severity.name : Severity → String
  | trace => "Trace"
  | debug => "Debug"
  | info => "Info"
  | warn => "Warn"
  | error => "Error"

/-- The level that an event at a severity is given. -/
def Severity.level : Severity → String
  | trace => "TRACE"
  | debug => "DEBUG"
  | info => "INFO"
  | warn => "WARN"
  | error => "ERROR"

/-- A record, its attributes shown as text. -/
structure LogRecord where
  /-- What happened. -/
  message : String
  /-- How grave it is. -/
  severity : Severity
  /-- The component that reports it. -/
  target : Option String := none
  /-- The text of the error that goes with it. -/
  error : Option String := none
  /-- Names and values. -/
  attributes : List (String × String) := []
  deriving DecidableEq, Repr

namespace LogRecord

/-- A record of severity `trace`. -/
def trace (message : String) (attributes : List (String × String)) : LogRecord :=
  { message, severity := .trace, attributes }

/-- A record of severity `debug`. -/
def debug (message : String) (attributes : List (String × String)) : LogRecord :=
  { message, severity := .debug, attributes }

/-- A record of severity `info`. -/
def info (message : String) (attributes : List (String × String)) : LogRecord :=
  { message, severity := .info, attributes }

/-- A record of severity `warn`. -/
def warn (message : String) (error : Option String) (attributes : List (String × String)) :
    LogRecord :=
  { message, severity := .warn, error, attributes }

/-- A record of severity `error`. -/
def failure (message : String) (error : Option String) (attributes : List (String × String)) :
    LogRecord :=
  { message, severity := .error, error, attributes }

/-- The attributes on one line. -/
def renderAttributes (r : LogRecord) : String :=
  " ".intercalate (r.attributes.map fun (name, value) => name ++ "=" ++ value)

/-- An optional text in a diagnostic. -/
def diagnoseOption : Option String → String
  | none => "None"
  | some text => "Some(" ++ Quoted.quote text ++ ")"

/-- The whole record as a diagnostic. -/
def diagnose (r : LogRecord) : String :=
  "LogRecord \x7b message: " ++ Quoted.quote r.message ++ ", severity: " ++ r.severity.name ++
    ", target: " ++ diagnoseOption r.target ++ ", error: " ++ diagnoseOption r.error ++
    ", attributes: " ++ Quoted.quote r.renderAttributes ++ " \x7d"

end LogRecord

/-- A record as an event of a tracing system, where every field is a text. -/
structure TraceEvent where
  level : String
  /-- The target of the record, or the library as a whole. -/
  component : String
  fields : String
  error : String
  message : String
  deriving DecidableEq, Repr

/-- The event for a record. -/
def LogRecord.toEvent (r : LogRecord) : TraceEvent where
  level := r.severity.level
  component := r.target.getD "spark_socket"
  fields := r.renderAttributes
  error := r.error.getD ""
  message := r.message

end Duplex
