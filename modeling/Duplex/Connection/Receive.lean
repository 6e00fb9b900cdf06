import Duplex.Connection.Basic

/-! # Receiving

  A pull of a receive stream waits for the reading half, reads once, and gives the half back
  with its answer. A stream gives chunks and at most one error, and then ends. Local disposal
  ends it without an error, whatever the socket says meanwhile; the caller's cancellation is
  an error, and so is the peer's close unless the policy takes it for the end. It must not be
  polled again once it has ended: such a poll panics.
-/

namespace Duplex.Connection

/-- Receive stream `i` answers a poll and gives the reading half back. -/
def answerReceive (c : Connection) (i : Nat) (answer : Polled Bytes ConnectionError)
    (records : List LogRecord) : Stepped :=
  (c.releaseReader (.receive i), records.map .recorded ++ [.answered i answer])

/-- Receive stream `i` gives its last answer, which is the end or an error before it. -/
def concludeReceive (c : Connection) (i : Nat) (answer : Polled Bytes ConnectionError)
    (records : List LogRecord) : Stepped :=
  { c with receives := c.receives.modify i (·.conclude answer) }.answerReceive i answer records

/-- Receive stream `i` ends because a side has fired. -/
def interruptReceive (c : Connection) (i : Nat) (source : CancelSource) : Stepped :=
  c.concludeReceive i
    (match source with
      | .disposal => .ended
      | .external => .failed (.cancelled Operation.receive.name)) []

/-- Receive stream `i` goes on if the reading half was granted to it. -/
def enterReader (c : Connection) (i : Nat) : Stepped :=
  if !c.reader.heldBy (.receive i) then (c.setReceive i .waiting, [.answered i .pending])
  else if c.readHalf then (c.setReceive i (.reading true), [])
  else c.concludeReceive i .ended []

/-- Polls receive stream `i`. -/
def pollReceive (c : Connection) (i : Nat) (r : Receive) : Option Stepped :=
  match r.state with
  | .idle =>
    if r.finished then some (c.setReceive i .exhausted, [.answered i .ended])
    else
      match c.fired r.cancelled with
      | some source => some (c.interruptReceive i source)
      | none => some ({ c with reader := c.reader.request (.receive i) }.enterReader i)
  | .waiting =>
    match c.fired r.cancelled with
    | some source => some (c.interruptReceive i source)
    | none => some (c.enterReader i)
  | .reading false =>
    match c.fired r.cancelled with
    | some source => some (c.interruptReceive i source)
    | none => some (c.setReceive i (.reading true), [])
  | .exhausted => some (c, [.panicked i])
  | .reading true | .dropped => none

/-- The peer has closed its direction in an orderly way. -/
def peerClosed (c : Connection) (i : Nat) : Stepped :=
  let c := { c with connected := false }
  if c.coordinator.token then c.concludeReceive i .ended []
  else
    c.concludeReceive i
      (match c.config.peerClose with
        | .complete => .ended
        | .error => .failed (.remoteClosed none))
      [.debug "tcp peer closed the connection" []]

/-- The read has failed. What disposal does to the socket is no error. -/
def readFailed (c : Connection) (i : Nat) (e : IoError) : Stepped :=
  if c.coordinator.token then c.concludeReceive i .ended []
  else
    let error := ConnectionError.ofIo Operation.read.name e
    let c := if error.isRemoteClosed then { c with connected := false } else c
    c.concludeReceive i (.failed error) [.warn "tcp receive failed" (some error.message) []]

/-- Receive stream `i` takes the socket's answer to a read. The configured size is the room that a
    read has at least, so it bounds no chunk. An interrupted read is tried again unless a side has
    fired meanwhile. -/
def read (c : Connection) (i : Nat) (r : Receive) (answer : ReadAnswer) : Option Stepped :=
  match r.state, answer with
  | .reading true, .blocked => some (c.setReceive i (.reading false), [.answered i .pending])
  | .reading true, .chunk bytes =>
    if bytes.isEmpty then none
    else some ((c.setReceive i .idle).answerReceive i (.next bytes) [])
  | .reading true, .closed => some (c.peerClosed i)
  | .reading true, .failed e =>
    if e.kind = .interrupted then
      match c.fired r.cancelled with
      | some source => some (c.interruptReceive i source)
      | none => some (c, [])
    else some (c.readFailed i e)
  | _, _ => none

/-- Drops receive stream `i`. -/
def dropReceive (c : Connection) (i : Nat) (r : Receive) : Option Stepped :=
  match r.state with
  | .dropped => none
  | _ => some ((c.releaseReader (.receive i)).setReceive i .dropped, [])

end Duplex.Connection
