import Duplex.Log
import Duplex.Socket.Deadline
import Duplex.Socket.Endpoint

/-! # Connecting

  An attempt to connect checks its endpoint, then runs under a deadline. It reports when it
  starts and when it fails; an endpoint that is refused is not even reported.
-/

namespace Duplex

/-- An attempt to connect that is under way. -/
structure Connecting where
  /-- The address as records show it. -/
  endpoint : String
  /-- The attempt under its deadline. -/
  deadline : Deadline
  deriving DecidableEq, Repr

namespace Connecting

/-- An attempt at an address, with the record of its start. -/
def start (endpoint : String) (timeout : Option Duration) : Connecting × LogRecord :=
  ({ endpoint, deadline := { operation := Operation.connect.name, timeout } },
    .debug "tcp connecting" [("endpoint", endpoint)])

/-- Starts an attempt, unless its endpoint is refused. -/
def begin (e : Endpoint) (timeout : Option Duration) :
    Except ConnectionError (Connecting × LogRecord) := do
  e.validateRemote
  return start e.text timeout

/-- Polls the attempt; a failure is recorded. -/
def poll {α : Type} (c : Connecting) (timer : Timer) (cancelled : Bool) (now : Nat)
    (attempt : Option (Except IoError α)) :
    Deadline.Answer α × Connecting × List LogRecord :=
  let (answer, deadline) := c.deadline.poll timer cancelled now attempt
  let records :=
    match answer with
    | .ended (.error e) =>
      [.warn "tcp connect failed" (some e.message) [("endpoint", c.endpoint)]]
    | _ => []
  (answer, { c with deadline }, records)

end Connecting

/-- How far a call that connects has come. -/
inductive ConnectState where
  /-- It was never polled. -/
  | idle
  /-- Its endpoint was accepted, and the attempt is under way or has ended. -/
  | underWay (c : Connecting)
  /-- Its endpoint was refused. -/
  | refused
  deriving DecidableEq, Repr

/-- A call that connects to an endpoint. -/
structure ConnectCall where
  /-- The endpoint. -/
  endpoint : Endpoint
  /-- How much time the attempt has; none leaves it unlimited. -/
  timeout : Option Duration
  /-- How far the call has come. -/
  state : ConnectState := .idle
  deriving DecidableEq, Repr

namespace ConnectCall

variable {α : Type}

/-- Polls the attempt of a call. -/
def pollAttempt (call : ConnectCall) (c : Connecting) (timer : Timer) (cancelled : Bool)
    (now : Nat) (attempt : Option (Except IoError α)) :
    Deadline.Answer α × ConnectCall × List LogRecord :=
  let (answer, c, records) := c.poll timer cancelled now attempt
  (answer, { call with state := .underWay c }, records)

/-- Polls a call. The first poll checks the endpoint before it starts the attempt. -/
def poll (call : ConnectCall) (timer : Timer) (cancelled : Bool) (now : Nat)
    (attempt : Option (Except IoError α)) :
    Deadline.Answer α × ConnectCall × List LogRecord :=
  match call.state with
  | .refused => (.done, call, [])
  | .underWay c => call.pollAttempt c timer cancelled now attempt
  | .idle =>
    match Connecting.begin call.endpoint call.timeout with
    | .error error => (.ended (.error error), { call with state := .refused }, [])
    | .ok (c, started) =>
      let (answer, call, records) := call.pollAttempt c timer cancelled now attempt
      (answer, call, started :: records)

/-- Whether the attempt itself was ever started. -/
def attempted (call : ConnectCall) : Bool :=
  match call.state with
  | .underWay c => c.deadline.attempted
  | .idle | .refused => false

/-! ### Runs -/

/-- A call that connects, with all that can happen around it. -/
structure Run (α : Type) extends Deadline.Surroundings α where
  /-- The call. -/
  call : ConnectCall

/-- Lets an event happen. -/
def Run.step (r : Run α) : Deadline.Event α → Deadline.Reply α × Run α
  | .poll =>
    let (answer, call, _) := r.call.poll r.timer r.cancelled r.now r.attempt
    (.polled answer, { r with call })
  | event =>
    let (reply, surroundings) := r.toSurroundings.step event
    (reply, { r with toSurroundings := surroundings })

end ConnectCall

/-- The first poll of a call whose outcome is still open, with the records so far. -/
def Connecting.connect (e : Endpoint) (timeout : Option Duration) (cancelled : Bool) :
    Deadline.Answer Empty × List LogRecord :=
  let (answer, _, records) :=
    ({ endpoint := e, timeout } : ConnectCall).poll .ofTicks cancelled 0 none
  (answer, records)

end Duplex
