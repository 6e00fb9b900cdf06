import Duplex.Connection.Basic
import Duplex.Network.SystemError

/-! # The network

  Connections between sockets of one host. Each end of a connection has an inbox for the
  octets that are under way to it, and marks for what has become of the two directions. What
  one end does is seen at the other at once, and never before what it did earlier.

  A connection ends in an orderly way when both ends have closed their direction. It is torn
  down when an end gives up without having read its inbox, or sends to an end that is no longer
  there; then the other end meets an error.
-/

namespace Duplex

/-- One end of a connection. -/
structure SocketEnd where
  /-- The address of this end. -/
  address : String
  /-- The number of the other end. -/
  other : Nat
  /-- The octets that were sent to this end and not read yet. -/
  inbox : Bytes := []
  /-- Whether the other end has closed its direction. -/
  peerClosed : Bool := false
  /-- Whether this end has closed its direction. -/
  writeClosed : Bool := false
  /-- Whether this end takes no more octets. -/
  readClosed : Bool := false
  /-- Whether the connection was torn down. -/
  torn : Bool := false
  /-- The error that the next operation on this end reports. -/
  failure : Option IoError := none
  /-- Whether this end was given up. -/
  released : Bool := false
  deriving DecidableEq, Repr

namespace SocketEnd

/-- Whether nothing can happen on the connection any more, as seen from this end. -/
def isOver (e : SocketEnd) : Bool := e.torn || (e.writeClosed && e.peerClosed)

/-- The end after the connection was torn down from the other side. -/
def tear (e : SocketEnd) : SocketEnd :=
  if e.isOver || e.released then e
  else
    { e with
      torn := true
      failure := some (if e.peerClosed then .brokenPipe else .connectionReset) }

end SocketEnd

/-- A place where connections can be made. -/
structure Port where
  /-- Its address. -/
  address : String
  /-- How many connections may wait there behind the first one. -/
  backlog : Nat
  /-- The ends that wait to be accepted, by number, first come first. -/
  queue : List Nat := []
  /-- Whether somebody listens there. -/
  isOpen : Bool := true
  deriving DecidableEq, Repr

/-- The sockets of a host. -/
structure Network where
  /-- Whether the loopback interface is up. -/
  linkUp : Bool := true
  /-- How many octets fit into an inbox. -/
  capacity : Nat := 1048576
  /-- The ends of connections so far, by number. -/
  ends : List SocketEnd := []
  /-- The ports so far, by number. -/
  ports : List Port := []
  deriving DecidableEq, Repr

namespace Network

/-- The end with a number. -/
def endOf (n : Network) (e : Nat) : SocketEnd := n.ends.getD e { address := "", other := e }

/-- The network after a change of one end. -/
def modifyEnd (n : Network) (e : Nat) (f : SocketEnd → SocketEnd) : Network :=
  { n with ends := n.ends.modify e f }

/-- The network after a change of one port. -/
def modifyPort (n : Network) (p : Nat) (f : Port → Port) : Network :=
  { n with ports := n.ports.modify p f }

/-- Reads at most `size` octets at an end. What has arrived comes before everything else. -/
def read (n : Network) (e size : Nat) : ReadAnswer × Network :=
  let socket := n.endOf e
  if socket.inbox ≠ [] then
    (.chunk (socket.inbox.take size),
      n.modifyEnd e fun s => { s with inbox := s.inbox.drop size })
  else if socket.peerClosed then (.closed, n)
  else
    match socket.failure with
    | some error => (.failed error, n.modifyEnd e ({ · with failure := none }))
    | none => if socket.readClosed || socket.torn then (.closed, n) else (.blocked, n)

/-- Writes octets at an end, as many as fit. -/
def write (n : Network) (e : Nat) (bytes : Bytes) : WriteAnswer × Network :=
  let socket := n.endOf e
  match socket.failure with
  | some error => (.failed error, n.modifyEnd e ({ · with failure := none }))
  | none =>
    if socket.isOver || socket.writeClosed then (.failed .brokenPipe, n)
    else
      let other := n.endOf socket.other
      if other.released || other.readClosed then
        (.accepted bytes.length,
          (n.modifyEnd e SocketEnd.tear).modifyEnd socket.other SocketEnd.tear)
      else
        let room := n.capacity - other.inbox.length
        if room = 0 then (.blocked, n)
        else
          (.accepted (min room bytes.length),
            n.modifyEnd socket.other fun s => { s with inbox := s.inbox ++ bytes.take room })

/-- Closes the direction of an end. This is no error on a connection that is over. -/
def shutdownWrite (n : Network) (e : Nat) : Network :=
  if (n.endOf e).isOver then n
  else
    (n.modifyEnd e ({ · with writeClosed := true })).modifyEnd (n.endOf e).other
      ({ · with peerClosed := true })

/-- Closes both directions at an end. -/
def shutdownBoth (n : Network) (e : Nat) : Except IoError Unit × Network :=
  if (n.endOf e).isOver then (.error .notConnected, n)
  else (.ok (), (n.shutdownWrite e).modifyEnd e ({ · with readClosed := true }))

/-- Gives up an end and tears its connection down. -/
def reset (n : Network) (e : Nat) : Network :=
  let socket := n.endOf e
  let n := if socket.isOver then n else n.modifyEnd socket.other SocketEnd.tear
  n.modifyEnd e ({ · with torn := true, released := true })

/-- Gives up an end. If octets were not read, the connection is torn down. -/
def close (n : Network) (e : Nat) : Network :=
  let socket := n.endOf e
  if !socket.isOver && !socket.inbox.isEmpty then n.reset e
  else (n.shutdownWrite e).modifyEnd e ({ · with released := true })

end Network

end Duplex
