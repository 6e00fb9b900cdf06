import Duplex.Connection.Step
import Duplex.Listener.Basic

/-! # Hosts

  A host is a set of listeners and connections. Connections belong to the host and are known
  by their numbers: an accept stream makes new ones, a listener tracks some of them, and its
  teardown disposes of those.
-/

namespace Duplex

/-- The listeners and connections of one program. -/
structure Host where
  /-- The timer of the machine. -/
  timer : Timer := .ofTicks
  /-- The connections so far, by number. -/
  connections : List Connection := []
  /-- The listeners so far, by number. -/
  listeners : List Listener := []

/-- What a step of a host brings about outside of it. -/
inductive Host.Effect where
  /-- A connection has an effect. -/
  | connection (c : Nat) (effect : Connection.Effect)
  /-- Listener `l` has accepted a peer, and the connection to it is set up. -/
  | accepted (l c : Nat)
  /-- Listener `l` tracks a connection from now on. -/
  | registered (l c : Nat)
  /-- Listener `l` refuses a connection, because its own disposal has begun. -/
  | refused (l c : Nat)
  /-- A poll of accept stream `i` of listener `l` has answered. -/
  | answered (l i : Nat) (answer : Polled Nat ConnectionError)
  /-- A poll of accept stream `i` of listener `l` has panicked. -/
  | panicked (l i : Nat)
  /-- A listener reports something. -/
  | recorded (l : Nat) (record : LogRecord)

namespace Host

/-- The outcome of a step: the host after it, and its effects. -/
abbrev Stepped := Host × List Effect

/-- The host after a change of connection `c`. -/
def modifyConnection (h : Host) (c : Nat) (f : Connection → Connection) : Host :=
  { h with connections := h.connections.modify c f }

/-- The host after a change of listener `l`. -/
def modifyListener (h : Host) (l : Nat) (f : Listener → Listener) : Host :=
  { h with listeners := h.listeners.modify l f }

/-- Whether the disposal of connection `c` was asked for. -/
def isDisposed (h : Host) (c : Nat) : Bool := (h.connections[c]?).any Connection.isDisposed

/-- The outcome of the disposal of connection `c`, once it is published. -/
def outcome (h : Host) (c : Nat) : Option DisposeOutcome :=
  (h.connections[c]?).bind (·.coordinator.outcome)

/-- How many connections listener `l` tracks that nobody disposes of yet. -/
def trackedLen (h : Host) (l : Listener) : Nat := l.tracked.countP fun c => !h.isDisposed c

end Host

end Duplex
