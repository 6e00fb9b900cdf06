import Duplex.Fault

/-! # Framing errors

  What can be wrong with a framed byte stream, with the wording, the stable code
  and the fault that it becomes in the common error type.
-/

namespace Duplex

/-- What is wrong with a framed byte stream. -/
inductive FrameError where
  /-- A text was begun and never terminated; `pending` octets of it arrived. -/
  | noTermination (pending : Nat)
  /-- A length prefix declares a length that no frame has. -/
  | invalidLength (declared : Int)
  /-- The stream ended inside a frame: of `expected` octets `received` arrived. -/
  | incomplete (expected received : Nat)
  /-- A frame is longer than the limit allows. -/
  | frameTooLarge (declared limit : Nat)
  /-- A single frame is followed by `extra` octets. -/
  | trailingBytes (extra : Nat)
  deriving DecidableEq, Repr

namespace FrameError

/-- The wording of the error. -/
def message : FrameError → String
  | noTermination pending =>
    s!"string started but never terminated ({pending} pending bytes)"
  | invalidLength declared => s!"invalid declared frame length {declared}"
  | incomplete expected received =>
    s!"stream ended inside a frame: expected {expected} bytes, received {received}"
  | frameTooLarge declared limit => s!"declared frame length {declared} exceeds limit {limit}"
  | trailingBytes extra => s!"{extra} trailing bytes after frame payload"

/-- The stable code of the error. -/
def code : FrameError → FaultCode
  | noTermination _ => .frameNoTermination
  | invalidLength _ => .frameInvalidLength
  | incomplete .. => .frameIncomplete
  | frameTooLarge .. => .frameTooLarge
  | trailingBytes _ => .frameTrailingBytes

/-- The error as a fault: the peer broke the protocol, and nothing lies beneath. -/
def toFault (e : FrameError) : Fault :=
  (Fault.ofCode e.code e.message).withCategory .protocolViolation

end FrameError

/-- Errors that a framing error is one of. -/
class FromFrame (ε : Type) where
  /-- The framing error as an error of the stream. -/
  ofFrame : FrameError → ε

end Duplex
