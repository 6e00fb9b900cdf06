import Duplex.Connection.Basic

/-! # Listeners

  A listener owns a listening socket and hands out the connections that arrive there, through
  any number of accept streams. It keeps track of the connections that it has handed out and
  that nobody disposes of yet, so that its own disposal can dispose of them too.

  Accept streams and the teardown are futures, as those of a connection are.
-/

namespace Duplex

/-- What the listening socket answers to an accept. -/
inductive AcceptAnswer where
  /-- A peer, and the connection to it is set up. -/
  | accepted (localAddress peerAddress : String)
  /-- A peer, but the connection to it could not be set up. -/
  | unusable (peerAddress : String) (error : IoError)
  /-- An error of the listening socket. -/
  | failed (error : IoError)
  /-- No peer yet. -/
  | blocked
  deriving DecidableEq, Repr

/-- How far the current pull of an accept stream has come. -/
inductive AcceptState where
  /-- No pull is under way. -/
  | idle
  /-- The pull waits for a peer; `awake` while it is polled. It keeps the listening socket
      open as long as it waits. -/
  | accepting (awake : Bool)
  /-- The pull has a connection and is about to have it tracked. -/
  | tracking (connection : Nat)
  /-- The connection came too late; the pull waits for its disposal. -/
  | refusing (connection : Nat)
  /-- The stream has answered its end. -/
  | exhausted
  /-- The stream was dropped. -/
  | dropped
  deriving DecidableEq, Repr

/-- An accept stream. -/
structure Accept where
  /-- Whether the caller's token has fired. -/
  cancelled : Bool := false
  /-- Whether the stream has given its last connection. -/
  finished : Bool := false
  /-- How far the current pull has come. -/
  state : AcceptState := .idle
  deriving DecidableEq, Repr

/-- The accept stream after its end, or after an error, which leaves only the end to come. -/
def Accept.conclude (a : Accept) (answer : Polled Nat ConnectionError) : Accept :=
  { a with
    finished := true
    state := match answer with
      | .ended => .exhausted
      | _ => .idle }

/-- How far the teardown of a listener has come. -/
inductive ListenerTeardown where
  /-- Nobody has asked for the disposal. -/
  | absent
  /-- The task was started and has not run yet. -/
  | requested
  /-- The listening socket was given up; the tracked connections are to be taken. -/
  | deaf
  /-- It disposes of the connections `rest`, and then waits for all of `taken`. -/
  | cascading (rest taken : List Nat)
  /-- It is about to publish the outcome. -/
  | closing (outcome : DisposeOutcome)
  /-- The outcome is published. -/
  | finished
  deriving DecidableEq, Repr

/-- A listener and the futures that use it. -/
structure Listener where
  /-- How accepted connections behave. -/
  config : SocketConfig := {}
  /-- The address on which it listens, as records show it. -/
  localAddress : String := ""
  /-- The disposal of the listener. -/
  coordinator : Coordinator := {}
  /-- Whether the listener still has its socket. -/
  listening : Bool := true
  /-- The tracked connections, by number. -/
  tracked : List Nat := []
  /-- The accept streams so far, by number. -/
  accepts : List Accept := []
  /-- The teardown. -/
  teardown : ListenerTeardown := .absent
  deriving DecidableEq, Repr

namespace Listener

/-- Which side has fired for a stream whose caller may have cancelled. -/
def fired (l : Listener) (cancelled : Bool) : Option CancelSource :=
  CancelSource.fired l.coordinator.token cancelled

/-- Whether disposal was asked for. -/
def isDisposed (l : Listener) : Bool := l.coordinator.isDisposed

/-- Whether the listening socket is open: a pull that waits for a peer keeps it open. -/
def holdsSocket (l : Listener) : Bool :=
  l.listening || l.accepts.any fun a => a.state matches .accepting _

/-- Asks for the disposal; the first request starts the teardown. -/
def dispose (l : Listener) : Listener :=
  match l.coordinator.request with
  | (false, _) => l
  | (true, coordinator) => { l with coordinator, teardown := .requested }

/-- The listener with another state for accept stream `i`. -/
def setAccept (l : Listener) (i : Nat) (state : AcceptState) : Listener :=
  { l with accepts := l.accepts.modify i fun a => { a with state } }

/-- The listener after accept stream `i` has given its last answer. -/
def concludeAccept (l : Listener) (i : Nat) (answer : Polled Nat ConnectionError) : Listener :=
  { l with accepts := l.accepts.modify i (·.conclude answer) }

/-- The listener as a diagnostic, with the number of connections that it tracks. -/
def diagnose (l : Listener) (tracked : Nat) : String :=
  "Listener \x7b local_addr: " ++ l.localAddress ++ ", tracked: " ++ toString tracked ++
    ", disposal: " ++ l.coordinator.phase.name ++ " \x7d"

end Listener

end Duplex
