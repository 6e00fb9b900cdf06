import Duplex.Connection.Basic

/-! # Tearing down

  The teardown marks the connection as down and takes the writing half. If the connection was
  up it closes its own direction and then reads what still comes, so that the peer's close is
  seen: that is a graceful end. It waits for the reading half and for the peer no longer than
  the configured time, after which both directions are closed regardless. What goes wrong on
  the way is reported, lowers the outcome, and stops nothing.
-/

namespace Duplex.Connection

/-- The outcome after something went wrong: no longer graceful. -/
def lower : DisposeOutcome → DisposeOutcome
  | .graceful => .forced
  | o => o

/-- The name and value under which records show the peer. -/
def peerAttribute (c : Connection) : String × String := ("peer", c.peerAddress)

/-- Asks for the disposal; the first request starts the teardown. -/
def dispose (c : Connection) : Connection :=
  match c.coordinator.request with
  | (false, _) => c
  | (true, coordinator) => { c with coordinator, teardown := .requested }

/-- Starts the wait for the reading half, at the instant `now`. -/
def awaitReader (c : Connection) (wasConnected : Bool) (outcome : DisposeOutcome) (now : Nat) :
    Connection :=
  { c with
    reader := c.reader.request .teardown
    teardown := .awaitingReader wasConnected outcome
      (c.timer.expiry now c.config.disconnectTimeout) }

/-- The writing half was granted: the teardown takes it and gives the empty lock back. -/
def takeWriter (c : Connection) (wasConnected : Bool) (now : Nat) : Connection :=
  let c := c.releaseWriter .teardown
  if !c.writeHalf then { c with teardown := .closing .notConnected }
  else
    let c := { c with writeHalf := false }
    if wasConnected then { c with teardown := .halfClosing }
    else c.awaitReader false .notConnected now

/-- The reading half was granted: the teardown takes it, and reads from it if the connection
    was up. -/
def takeReader (c : Connection) (wasConnected : Bool) (outcome : DisposeOutcome)
    (deadline : Nat) : Stepped :=
  let hadHalf := c.readHalf
  let c := { c with readHalf := false }
  if wasConnected && hadHalf then ({ c with teardown := .draining outcome deadline }, [])
  else ({ c.releaseReader .teardown with teardown := .releasing outcome }, [.readerDropped])

/-- The teardown goes on by itself, at the instant `now`. -/
def runTeardown (c : Connection) (now : Nat) : Option Stepped :=
  match c.teardown with
  | .requested =>
    some ({ c with
      connected := false
      writer := c.writer.request .teardown
      teardown := .awaitingWriter c.connected }, [])
  | .awaitingWriter wasConnected =>
    if c.writer.heldBy .teardown then some (c.takeWriter wasConnected now, []) else none
  | .awaitingReader wasConnected outcome deadline =>
    if c.reader.heldBy .teardown then some (c.takeReader wasConnected outcome deadline) else none
  | .releasing outcome =>
    some ({ c with teardown := .closing outcome },
      [.writerDropped, .recorded (.debug "tcp connection disposed" [c.peerAttribute])])
  | .closing outcome =>
    some ({ c with coordinator := c.coordinator.publish outcome, teardown := .finished }, [])
  | .absent | .halfClosing | .draining .. | .forcing _ | .finished => none

/-- The teardown takes the system's answer to closing its own direction. -/
def halfClose (c : Connection) (answer : Except IoError Unit) (now : Nat) : Option Stepped :=
  match c.teardown, answer with
  | .halfClosing, .ok () => some (c.awaitReader true .graceful now, [])
  | .halfClosing, .error e =>
    some (c.awaitReader true .forced now,
      [.recorded (.debug "tcp half-close failed" [c.peerAttribute, ("error", e.text)])])
  | _, _ => none

/-- The teardown has done with the reading half. -/
def endDrain (c : Connection) (outcome : DisposeOutcome) (records : List LogRecord) : Stepped :=
  ({ c.releaseReader .teardown with teardown := .releasing outcome },
    records.map .recorded ++ [.readerDropped])

/-- The teardown takes the socket's answer to a read. -/
def drain (c : Connection) (answer : ReadAnswer) : Option Stepped :=
  match c.teardown, answer with
  | .draining .., .chunk _ | .draining .., .blocked => some (c, [])
  | .draining outcome _, .closed => some (c.endDrain outcome [])
  | .draining outcome _, .failed e =>
    if e.kind = .interrupted then some (c, [])
    else
      some (c.endDrain (lower outcome)
        [.debug "tcp graceful disconnect interrupted" [c.peerAttribute, ("error", e.text)]])
  | _, _ => none

/-- The time is up at the instant `now`. -/
def expire (c : Connection) (now : Nat) : Option Stepped :=
  match c.teardown with
  | .awaitingReader _ outcome deadline =>
    if deadline ≤ now then
      some ({ c.releaseReader .teardown with teardown := .forcing outcome }, [])
    else none
  | .draining outcome deadline =>
    if deadline ≤ now then
      some ({ c.releaseReader .teardown with teardown := .forcing outcome }, [.readerDropped])
    else none
  | _ => none

/-- The teardown takes the system's answer to closing both directions. -/
def force (c : Connection) (answer : Except IoError Unit) : Option Stepped :=
  match c.teardown with
  | .forcing outcome =>
    let failures :=
      match answer with
      | .ok () => []
      | .error e => [LogRecord.debug "tcp forced shutdown failed" [("error", e.text)]]
    let records :=
      failures ++ [.warn "tcp graceful disconnect timed out" none [c.peerAttribute]]
    some ({ c with teardown := .releasing (lower outcome) }, records.map .recorded)
  | _ => none

/-- The task of the teardown is cut short. -/
def abort (c : Connection) : Option Stepped :=
  match c.teardown with
  | .absent | .closing _ | .finished => none
  | _ =>
    some ({ (c.releaseReader .teardown).releaseWriter .teardown with
      teardown := .closing .aborted }, [])

end Duplex.Connection
