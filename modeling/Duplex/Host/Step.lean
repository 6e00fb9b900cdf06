import Duplex.Host.Accept
import Duplex.Host.Cascade

/-! # Steps of a host

  The host as a labelled transition system. Its labels are those of its connections and the
  moves around its listeners; what the sockets answer comes with the label. The steps of an
  accept stream, of the teardown and of the connections may come in any order.
-/

namespace Duplex.Host

/-- What can happen on a host. -/
inductive Label where
  /-- Something happens to a connection. -/
  | connection (c : Nat) (label : Connection.Label)
  /-- A connection that was made elsewhere is added. -/
  | adopt (connection : Connection)
  /-- A listener is added. -/
  | listen (config : SocketConfig) (localAddress : String)
  /-- An accept stream is created; its caller may have cancelled already. -/
  | acceptAll (l : Nat) (cancelled : Bool)
  /-- An accept stream is polled. -/
  | pollAccept (l i : Nat)
  /-- An accept stream gets the answer of the listening socket. -/
  | accept (l i : Nat) (answer : AcceptAnswer)
  /-- An accept stream has its connection tracked. -/
  | track (l i : Nat)
  /-- An accept stream is dropped. -/
  | dropAccept (l i : Nat)
  /-- The caller's token of an accept stream fires. -/
  | cancelAccept (l i : Nat)
  /-- The disposal of a listener is asked for. -/
  | dispose (l : Nat)
  /-- The teardown of a listener goes on by itself. -/
  | cascade (l : Nat)
  /-- The teardown of a listener is cut short. -/
  | abort (l : Nat)

/-- A step of accept stream `i` of listener `l`, if there is such a stream. -/
def withAccept (h : Host) (l i : Nat) (f : Listener → Accept → Option Stepped) :
    Option Stepped := do
  let listener ← h.listeners[l]?
  let a ← listener.accepts[i]?
  f listener a

/-- The host after a step and the effects of the step, where it is possible. -/
def step? (h : Host) : Label → Option Stepped
  | .connection c label => do
    let connection ← h.connections[c]?
    let (connection, effects) ← connection.step? label
    return (h.modifyConnection c fun _ => connection, effects.map (.connection c))
  | .adopt connection => some ({ h with connections := h.connections ++ [connection] }, [])
  | .listen config localAddress =>
    some ({ h with listeners := h.listeners ++ [{ config, localAddress }] }, [])
  | .acceptAll l cancelled =>
    some (h.modifyListener l fun l => { l with accepts := l.accepts ++ [{ cancelled }] }, [])
  | .pollAccept l i => h.withAccept l i (h.pollAccept l i)
  | .accept l i answer => h.withAccept l i (h.accept l i · · answer)
  | .track l i => h.withAccept l i (h.track l i)
  | .dropAccept l i => h.withAccept l i fun _ a => h.dropAccept l i a
  | .cancelAccept l i =>
    some (h.modifyListener l fun l =>
      { l with accepts := l.accepts.modify i fun a => { a with cancelled := true } }, [])
  | .dispose l => some (h.modifyListener l Listener.dispose, [])
  | .cascade l => (h.listeners[l]?).bind (h.runCascade l)
  | .abort l => (h.listeners[l]?).bind (h.abortCascade l)

/-- The host after a sequence of steps and all their effects, where they are possible. -/
def run? (h : Host) : List Label → Option Stepped
  | [] => some (h, [])
  | l :: rest => do
    let (h, effects) ← h.step? l
    let (h, more) ← h.run? rest
    return (h, effects ++ more)

end Duplex.Host
