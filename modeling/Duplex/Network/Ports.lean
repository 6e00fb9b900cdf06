import Duplex.Network.Basic

/-! # Ports

  Listening and connecting. A port keeps the connections that were made and not accepted
  yet; while too many of them wait, further ones are not made. While the loopback interface
  is down nothing can be reached, addresses of version 6 are not there, and no address of
  version 4 is known to belong to another host.
-/

namespace Duplex

/-- Where somebody wants to listen. -/
inductive BindSite where
  /-- At a free port of the loopback address of version 4. -/
  | loopback
  /-- At a free port of the loopback address of version 6. -/
  | loopbackV6
  /-- At a port that was used before. -/
  | port (p : Nat)
  /-- At an address of version 4 of another host. -/
  | foreign
  deriving DecidableEq, Repr

namespace Network

/-- Whether a site can be bound. -/
def canBind (n : Network) : BindSite → Except IoError Unit
  | .loopback => .ok ()
  | .loopbackV6 => if n.linkUp then .ok () else .error .addressNotAvailable
  | .port p => if (n.ports[p]?).any (·.isOpen) then .error .addressInUse else .ok ()
  | .foreign => if n.linkUp then .error .addressNotAvailable else .ok ()

/-- Listens under an address; the answer is the number of the port. -/
def listen (n : Network) (address : String) (backlog : Nat) : Nat × Network :=
  (n.ports.length, { n with ports := n.ports ++ [{ address, backlog }] })

/-- Connects from an address to a port. There is no answer while too many connections wait
    there; otherwise it is the number of the new end. -/
def connect (n : Network) (address : String) (p : Nat) :
    Option (Except IoError Nat) × Network :=
  if !n.linkUp then (some (.error .networkUnreachable), n)
  else
    match n.ports[p]? with
    | none => (some (.error .connectionRefused), n)
    | some port =>
      if !port.isOpen then (some (.error .connectionRefused), n)
      else if port.backlog < port.queue.length then (none, n)
      else
        let near := n.ends.length
        let far := near + 1
        let pair : List SocketEnd :=
          [{ address, other := far }, { address := port.address, other := near }]
        (some (.ok near),
          { n with ends := n.ends ++ pair }.modifyPort p fun port =>
            { port with queue := port.queue ++ [far] })

/-- Takes the first connection that waits at a port; the answer is the number of its end. -/
def accept (n : Network) (p : Nat) : Option Nat × Network :=
  match (n.ports[p]?).bind (·.queue.head?) with
  | none => (none, n)
  | some e => (some e, n.modifyPort p fun port => { port with queue := port.queue.tail })

/-- Stops listening at a port. The connections that wait there are torn down. -/
def closePort (n : Network) (p : Nat) : Network :=
  let waiting := ((n.ports[p]?).map (·.queue)).getD []
  (waiting.foldl reset n).modifyPort p ({ · with queue := [], isOpen := false })

end Network

end Duplex
