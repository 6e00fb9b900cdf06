import Duplex.Duration

/-! # Faults

  The error type that all layers share. A fault has a stable code, a message, at
  most one cause and a category that tells the caller how to react. The cause is
  known by its text and, in turn, by its own source, so a fault ends a chain of texts.
-/

namespace Duplex

/-- The codes by which faults are told apart: those of the library, which are stable, and any that
    an application brings along. -/
inductive FaultCode where
  | invalidArgument
  | connectRefused
  | timeout
  | cancelled
  | remoteClosed
  | disposed
  | io
  | frameNoTermination
  | frameInvalidLength
  | frameIncomplete
  | frameTooLarge
  | frameTrailingBytes
  | custom (text : String)
  deriving DecidableEq, Repr

/-- The text of a code. -/
def FaultCode.text : FaultCode → String
  | invalidArgument => "spark.socket.invalid_argument"
  | connectRefused => "spark.socket.connect_refused"
  | timeout => "spark.socket.timeout"
  | cancelled => "spark.socket.cancelled"
  | remoteClosed => "spark.socket.remote_closed"
  | disposed => "spark.socket.disposed"
  | io => "spark.socket.io"
  | frameNoTermination => "spark.frame.no_termination"
  | frameInvalidLength => "spark.frame.invalid_length"
  | frameIncomplete => "spark.frame.incomplete"
  | frameTooLarge => "spark.frame.too_large"
  | frameTrailingBytes => "spark.frame.trailing_bytes"
  | custom text => text

/-- How a caller should react to a fault. -/
inductive Category where
  /-- Trying again after `wait` may succeed. -/
  | retryable (wait : Duration)
  | nonRetryable
  | protocolViolation
  | cancelled
  | timeout
  | peerClosed
  | disposed
  deriving DecidableEq, Repr

/-- What lies beneath an error: a text, and perhaps a further source. -/
inductive Cause where
  /-- An error with nothing beneath it. -/
  | plain (text : String)
  /-- An error that has a source of its own. -/
  | wrapping (text : String) (source : Cause)
  deriving DecidableEq, Repr

/-- A text stands for an error that says it and has nothing beneath it. -/
instance : Coe String Cause := ⟨.plain⟩

namespace Cause

/-- The text of the cause itself. -/
def text : Cause → String
  | plain t => t
  | wrapping t _ => t

/-- What lies beneath the cause. -/
def source : Cause → Option Cause
  | plain _ => none
  | wrapping _ s => some s

/-- The texts from the cause down to the last source. -/
def chain : Cause → List String
  | plain t => [t]
  | wrapping t s => t :: s.chain

/-- The error with text `t` on top of an optional source. -/
def ofText (t : String) : Option Cause → Cause
  | none => plain t
  | some s => wrapping t s

end Cause

/-- The error type that all layers share. -/
structure Fault where
  /-- The stable code. -/
  code : FaultCode
  /-- The message, without the code. -/
  message : String
  /-- What lies beneath. -/
  cause : Option Cause := none
  /-- The category, where one was given. -/
  category? : Option Category := none
  deriving DecidableEq, Repr

namespace Fault

/-- A fault without cause or category. -/
def ofCode (code : FaultCode) (message : String) : Fault := { code, message }

/-- The fault with another cause. -/
def withCause (f : Fault) (cause : Cause) : Fault := { f with cause := some cause }

/-- The fault with another category. -/
def withCategory (f : Fault) (category : Category) : Fault :=
  { f with category? := some category }

/-- The category, by default one that rules out a retry. -/
def category (f : Fault) : Category := f.category?.getD .nonRetryable

/-- The full text: code and message. -/
def display (f : Fault) : String := s!"[{f.code.text}] {f.message}"

/-- The texts of all that lies beneath, nearest first. -/
def chain (f : Fault) : List String := (f.cause.map Cause.chain).getD []

/-- A fault as the cause of another one. -/
def asCause (f : Fault) : Cause := Cause.ofText f.display f.cause

end Fault

end Duplex
