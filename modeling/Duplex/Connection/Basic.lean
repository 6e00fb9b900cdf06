import Duplex.Connection.Lock
import Duplex.Disposal.Coordinator
import Duplex.Log
import Duplex.Socket.Config
import Duplex.Socket.ConnectionError
import Duplex.Stream.Source
import Duplex.Text.Utf8
import Duplex.Timer
import Duplex.Cancellation.Registry

/-! # Connections

  A connection is a socket that any number of parties use at once. Its two halves stand
  behind locks: a send holds the writing half until its octets are written, a receive stream
  holds the reading half during one pull, and the teardown takes each half for good.

  Sends, receive streams and the teardown are futures: they move only when they are polled,
  and between polls they keep what they hold. A poll first asks whether the disposal token or
  the caller's token has fired, and then goes as far as the socket lets it. What the socket
  answers comes from outside, so every behaviour of the network is covered.
-/

namespace Duplex

/-- What the socket answers to a read. -/
inductive ReadAnswer where
  /-- Octets, at least one. -/
  | chunk (bytes : Bytes)
  /-- No octets: the peer has closed its direction. -/
  | closed
  /-- An error. -/
  | failed (error : IoError)
  /-- Nothing yet. -/
  | blocked
  deriving DecidableEq, Repr

/-- What the socket answers to a write. -/
inductive WriteAnswer where
  /-- So many octets were taken. -/
  | accepted (n : Nat)
  /-- An error. -/
  | failed (error : IoError)
  /-- Nothing can be taken yet. -/
  | blocked
  deriving DecidableEq, Repr

/-- Who uses a connection. -/
inductive Actor where
  | send (i : Nat)
  | receive (i : Nat)
  | teardown
  deriving DecidableEq, Repr

/-- How far a send has come. -/
inductive SendState where
  /-- It was never polled. -/
  | created
  /-- It waits for the writing half. -/
  | waiting
  /-- It holds the writing half and still has to write `rest`; `awake` while it is polled. -/
  | writing (rest : Bytes) (awake : Bool)
  /-- It has returned. -/
  | returned (result : Except ConnectionError Nat)
  /-- It was dropped. -/
  | dropped

/-- A send of a buffer. -/
structure Send where
  /-- The whole buffer. -/
  bytes : Bytes
  /-- Whether the caller's token has fired. -/
  cancelled : Bool := false
  /-- How far the send has come. -/
  state : SendState := .created

/-- How far the current pull of a receive stream has come. -/
inductive PullState where
  /-- No pull is under way. -/
  | idle
  /-- The pull waits for the reading half. -/
  | waiting
  /-- The pull holds the reading half; `awake` while it is polled. -/
  | reading (awake : Bool)
  /-- The stream has answered its end. -/
  | exhausted
  /-- The stream was dropped. -/
  | dropped
  deriving DecidableEq, Repr

/-- A receive stream. -/
structure Receive where
  /-- Whether the caller's token has fired. -/
  cancelled : Bool := false
  /-- Whether the stream has given its last chunk. -/
  finished : Bool := false
  /-- How far the current pull has come. -/
  state : PullState := .idle
  deriving DecidableEq, Repr

/-- The receive stream after its end, or after an error, which leaves only the end to come. -/
def Receive.conclude (r : Receive) (answer : Polled Bytes ConnectionError) : Receive :=
  { r with
    finished := true
    state := match answer with
      | .ended => .exhausted
      | _ => .idle }

/-- How far the teardown of a connection has come. -/
inductive TeardownState where
  /-- Nobody has asked for the disposal. -/
  | absent
  /-- The task was started and has not run yet. -/
  | requested
  /-- It waits for the writing half. -/
  | awaitingWriter (wasConnected : Bool)
  /-- It owns the writing half of a live connection and is about to close that direction. -/
  | halfClosing
  /-- It waits for the reading half until `deadline`. -/
  | awaitingReader (wasConnected : Bool) (outcome : DisposeOutcome) (deadline : Nat)
  /-- It owns the reading half and reads what still comes, until `deadline`. -/
  | draining (outcome : DisposeOutcome) (deadline : Nat)
  /-- The time is up, and both directions are about to be closed. -/
  | forcing (outcome : DisposeOutcome)
  /-- It is about to give up the writing half. -/
  | releasing (outcome : DisposeOutcome)
  /-- It is about to publish the outcome. -/
  | closing (outcome : DisposeOutcome)
  /-- The outcome is published. -/
  | finished
  deriving DecidableEq, Repr

/-- A connection and the futures that use it. -/
structure Connection where
  /-- How the connection behaves. -/
  config : SocketConfig := {}
  /-- The timer of the machine. -/
  timer : Timer := .ofTicks
  /-- The address on this side, as records show it. -/
  localAddress : String := ""
  /-- The address on the other side, as records show it. -/
  peerAddress : String := ""
  /-- Whether the connection is up, as far as is known. -/
  connected : Bool := true
  /-- The disposal of the connection. -/
  coordinator : Coordinator := {}
  /-- The lock on the writing half. -/
  writer : Lock Actor := {}
  /-- Whether the writing half is still behind its lock. -/
  writeHalf : Bool := true
  /-- The lock on the reading half. -/
  reader : Lock Actor := {}
  /-- Whether the reading half is still behind its lock. -/
  readHalf : Bool := true
  /-- The sends so far, by number. -/
  sends : List Send := []
  /-- The receive streams so far, by number. -/
  receives : List Receive := []
  /-- The teardown. -/
  teardown : TeardownState := .absent

/-- What a step of a connection brings about outside of it. -/
inductive Connection.Effect where
  /-- Octets were handed to the socket. -/
  | wrote (bytes : Bytes)
  /-- A send has returned. -/
  | sent (i : Nat) (result : Except ConnectionError Nat)
  /-- A poll of a receive stream has answered. -/
  | answered (i : Nat) (answer : Polled Bytes ConnectionError)
  /-- A poll of a receive stream has panicked. -/
  | panicked (i : Nat)
  /-- The teardown has given up the writing half. -/
  | writerDropped
  /-- The teardown has given up the reading half. -/
  | readerDropped
  /-- Something is reported. -/
  | recorded (record : LogRecord)

namespace Connection

/-- The outcome of a step: the connection after it, and its effects. -/
abbrev Stepped := Connection × List Effect

/-- Which side has fired for a future whose caller may have cancelled. -/
def fired (c : Connection) (cancelled : Bool) : Option CancelSource :=
  CancelSource.fired c.coordinator.token cancelled

/-- Whether disposal was asked for. -/
def isDisposed (c : Connection) : Bool := c.coordinator.isDisposed

/-- The connection as a diagnostic. -/
def diagnose (c : Connection) : String :=
  "Connection \x7b local_addr: " ++ c.localAddress ++ ", peer_addr: " ++ c.peerAddress ++
    ", connected: " ++ toString c.connected ++ ", disposal: " ++ c.coordinator.phase.name ++
    " \x7d"

/-- The connection with another state for send `i`. -/
def setSend (c : Connection) (i : Nat) (state : SendState) : Connection :=
  { c with sends := c.sends.modify i fun s => { s with state } }

/-- The connection with another state for receive stream `i`. -/
def setReceive (c : Connection) (i : Nat) (state : PullState) : Connection :=
  { c with receives := c.receives.modify i fun r => { r with state } }

/-- The connection after `a` has given back the writing half, or no longer waits for it. -/
def releaseWriter (c : Connection) (a : Actor) : Connection :=
  { c with writer := c.writer.release a }

/-- The connection after `a` has given back the reading half, or no longer waits for it. -/
def releaseReader (c : Connection) (a : Actor) : Connection :=
  { c with reader := c.reader.release a }

end Connection

end Duplex
