import Duplex.Codec.FrameError
import Duplex.Socket.IoError

/-! # Connection errors

  What can go wrong when a connection is made, used or listened for. Callers branch on the
  case: a refused connection may be tried again, a peer that has closed ends the session, a
  broken frame has to end the connection. Every error is also a fault, with itself as cause.
-/

namespace Duplex

/-- What can go wrong with a connection. -/
inductive ConnectionError where
  /-- An argument was refused before anything was done. -/
  | invalidArgument (reason : String)
  /-- Nobody listens at the address. -/
  | refused (source : IoError)
  /-- The operation was not complete at its deadline. -/
  | timedOut (operation : String)
  /-- The caller cancelled the operation. -/
  | cancelled (operation : String)
  /-- The peer has closed: in an orderly way, or by the reset that `source` reports. -/
  | remoteClosed (source : Option IoError)
  /-- The connection was disposed of locally. -/
  | disposed
  /-- The received octets could not be decoded. -/
  | frame (error : FrameError)
  /-- Any other failure of the operating system. -/
  | io (operation : String) (source : IoError)
  deriving DecidableEq, Repr

namespace ConnectionError

instance : FromFrame ConnectionError where
  ofFrame := .frame

/-- The wording of the error. -/
def message : ConnectionError → String
  | invalidArgument reason => s!"invalid argument: {reason}"
  | refused _ => "connection refused"
  | timedOut operation => s!"{operation} timed out"
  | cancelled operation => s!"{operation} cancelled"
  | remoteClosed _ => "connection closed by remote peer"
  | disposed => "connection already disposed"
  | frame e => e.message
  | io operation source => s!"{operation} failed: {source.text}"

/-- The stable code of the error. -/
def code : ConnectionError → FaultCode
  | invalidArgument _ => .invalidArgument
  | refused _ => .connectRefused
  | timedOut _ => .timeout
  | cancelled _ => .cancelled
  | remoteClosed _ => .remoteClosed
  | disposed => .disposed
  | frame e => e.code
  | io .. => .io

/-- How to react to an operating system error that has no case of its own. -/
def categoryOfKind : IoErrorKind → Category
  | .timedOut => .timeout
  | .wouldBlock | .interrupted => .retryable (.ofMillis 5)
  | .notConnected | .addrInUse | .addrNotAvailable => .retryable (.ofMillis 50)
  | .writeZero => .retryable (.ofMillis 10)
  | _ => .nonRetryable

/-- How to react to the error. -/
def category : ConnectionError → Category
  | invalidArgument _ => .nonRetryable
  | refused _ => .retryable (.ofMillis 50)
  | timedOut _ => .timeout
  | cancelled _ => .cancelled
  | remoteClosed _ => .peerClosed
  | disposed => .disposed
  | frame _ => .protocolViolation
  | io _ source => categoryOfKind source.kind

/-- Whether the peer has ended the connection. -/
def isRemoteClosed : ConnectionError → Bool
  | remoteClosed _ => true
  | _ => false

/-- What lies beneath the error: the report of the operating system, where there is one. A
    framing error is shown as itself, so nothing lies beneath it. -/
def source : ConnectionError → Option Cause
  | refused e | io _ e | remoteClosed (some e) => some e.asCause
  | invalidArgument _ | timedOut _ | cancelled _ | remoteClosed none | disposed | frame _ => none

/-- The texts of all that lies beneath, nearest first. -/
def chain (e : ConnectionError) : List String := (e.source.map Cause.chain).getD []

/-- The error as the cause of a fault. -/
def asCause (e : ConnectionError) : Cause := Cause.ofText e.message e.source

/-- The error as a fault that has the error itself as its cause. -/
def toFault (e : ConnectionError) : Fault :=
  ((Fault.ofCode e.code e.message).withCategory e.category).withCause e.asCause

/-- The case of an operating system error that an operation met. -/
def ofIo (operation : String) (e : IoError) : ConnectionError :=
  match e.kind with
  | .connectionRefused => .refused e
  | .timedOut => .timedOut operation
  | .connectionReset | .connectionAborted | .brokenPipe | .unexpectedEof => .remoteClosed (some e)
  | _ => .io operation e

end ConnectionError

/-- The names of the operations, as errors show them. -/
inductive Operation where
  | bind
  | listen
  | accept
  | connect
  | read
  | write
  | receive
  | configure
  deriving DecidableEq, Repr

/-- The name of an operation. -/
def Operation.name : Operation → String
  | bind => "tcp bind"
  | listen => "tcp listen"
  | accept => "tcp accept"
  | connect => "tcp connect"
  | read => "tcp read"
  | write => "tcp write"
  | receive => "tcp receive"
  | configure => "tcp configure"

end Duplex
