import Duplex.Cancellation.Registry
import Duplex.Codec.Framing
import Duplex.Host.Step
import Duplex.Network.Ports
import Duplex.Socket.Connect
import Duplex.Stream.Framed

/-! # The world of a loopback program

  A host, the network under it, a clock, and what a program calls by names: tokens,
  connections, plain sockets, and streams. Connections and listeners of the host have a socket
  each in the network; the records that they report are kept in a log.

  Instants are nanoseconds of the clock. An address is shown as the name of the party that
  has it, between `<` and `>`.
-/

namespace Duplex.Loopback

open Cancellation (Names)

/-- How a connection of the host holds its socket. -/
structure Wire where
  /-- The end of the socket in the network. -/
  socket : Nat
  /-- Whether the connection reports to the log. -/
  logged : Bool
  /-- Whether the writing half is still held. -/
  writerHeld : Bool := true
  /-- Whether the reading half is still held. -/
  readerHeld : Bool := true
  deriving DecidableEq, Repr

/-- A future that a token may cancel. -/
inductive Watch where
  /-- A send of a connection. -/
  | send (c i : Nat)
  /-- A receive stream of a connection. -/
  | receive (c i : Nat)
  /-- An accept stream of a listener. -/
  | accept (l i : Nat)
  deriving DecidableEq, Repr

/-- How a receive stream is looked at. -/
inductive View where
  /-- Chunk by chunk. -/
  | chunks
  /-- Octet by octet; `rest` was received already. -/
  | octets (rest : Bytes)
  /-- Message by message. -/
  | framed (parts : Reassembly FramingMode)

/-- A receive stream in the hands of the program. -/
structure Stream where
  /-- The connection. -/
  connection : Nat
  /-- The number of the receive stream there. -/
  receive : Nat
  /-- How it is looked at. -/
  view : View

/-- The world of a program. Ports of the network and listeners of the host have the same
    numbers. -/
structure World where
  /-- How connections and listeners behave. -/
  config : SocketConfig
  /-- The network. -/
  network : Network := {}
  /-- The host. -/
  host : Host := {}
  /-- The sockets of the connections, by their numbers. -/
  wires : List Wire := []
  /-- Which listeners report to the log, by their numbers. -/
  loggedListeners : List Bool := []
  /-- The clock. -/
  now : Nat := 0
  /-- How many octets were handed over to be sent. -/
  traffic : Nat := 0
  /-- The listener that the program speaks of. -/
  listener : Option Nat := none
  /-- The tokens. -/
  tokens : Names Nat := []
  /-- Which tokens have fired, by their numbers. -/
  fired : List Bool := []
  /-- The futures that each token may cancel. -/
  watches : List (Nat × Watch) := []
  /-- The connections. -/
  connections : Names Nat := []
  /-- The plain sockets, by their ends. -/
  rawSockets : Names Nat := []
  /-- The accept streams, by listener and number. -/
  accepts : Names (Nat × Nat) := []
  /-- The receive streams. -/
  streams : Names Stream := []
  /-- The records that the program has not asked for yet, latest first. -/
  log : List LogRecord := []

/-- How the address of a party is shown. -/
def addressOf (name : String) : String := "<" ++ name ++ ">"

namespace World

/-- The world in which a name stands for a connection. -/
def nameConnection (w : World) (name : String) (c : Nat) : World :=
  { w with connections := (name, c) :: w.connections }

/-- Adds the socket at end `e` for a new connection. -/
def addWire (w : World) (e : Nat) (logged : Bool) : World :=
  { w with wires := w.wires ++ [{ socket := e, logged }] }

/-- Writes a record into the log. -/
def report (w : World) (record : LogRecord) : World := { w with log := record :: w.log }

/-- The socket of connection `c`. -/
def wire (w : World) (c : Nat) : Wire :=
  w.wires.getD c { socket := w.network.ends.length, logged := false }

/-- The world after a change of one wire. -/
def modifyWire (w : World) (c : Nat) (f : Wire → Wire) : World :=
  { w with wires := w.wires.modify c f }

/-- Connection `c` has given up its writing half, and perhaps its socket with it. -/
def dropWriter (w : World) (c : Nat) : World :=
  let wire := w.wire c
  let network :=
    if wire.readerHeld then w.network.shutdownWrite wire.socket else w.network.close wire.socket
  { w with network }.modifyWire c ({ · with writerHeld := false })

/-- Connection `c` has given up its reading half, and perhaps its socket with it. -/
def dropReader (w : World) (c : Nat) : World :=
  let wire := w.wire c
  let network := if wire.writerHeld then w.network else w.network.close wire.socket
  { w with network }.modifyWire c ({ · with readerHeld := false })

/-- Lets an effect of the host come about. -/
def effect (w : World) : Host.Effect → World
  | .connection c (.recorded record) => if (w.wire c).logged then w.report record else w
  | .connection c .writerDropped => w.dropWriter c
  | .connection c .readerDropped => w.dropReader c
  | .recorded l record => if w.loggedListeners.getD l false then w.report record else w
  | _ => w

/-- Takes a step of the host, if it is possible, and gives its effects. -/
def take (w : World) (label : Host.Label) : List Host.Effect × World :=
  match w.host.step? label with
  | none => ([], w)
  | some (host, effects) => (effects, effects.foldl effect { w with host })

/-- Takes a step of the host, if it is possible. -/
def act (w : World) (label : Host.Label) : World := (w.take label).2

/-! ### Tokens -/

/-- Whether a token has fired. -/
def hasFired (w : World) (token : Option Nat) : Bool := token.any fun t => w.fired.getD t false

/-- Lets a token watch a future. -/
def watch (w : World) (token : Option Nat) (future : Watch) : World :=
  match token with
  | none => w
  | some t => { w with watches := (t, future) :: w.watches }

/-- Cancels a future. -/
def cancelFuture (w : World) : Watch → World
  | .send c i => w.act (.connection c (.cancelSend i))
  | .receive c i => w.act (.connection c (.cancelReceive i))
  | .accept l i => w.act (.cancelAccept l i)

/-- Fires token `t`, and says whether this was the first time. -/
def fire (w : World) (t : Nat) : Bool × World :=
  let first := !w.hasFired (some t)
  let futures := w.watches.filterMap fun (token, future) => if token = t then some future else none
  (first, futures.foldl cancelFuture { w with fired := w.fired.set t true })

/-! ### New futures -/

/-- Creates a send on connection `c`; the answer is its number. -/
def newSend (w : World) (c : Nat) (bytes : Bytes) (token : Option Nat) : Nat × World :=
  let i := ((w.host.connections[c]?).map (·.sends.length)).getD 0
  let w := w.act (.connection c (.send bytes (w.hasFired token)))
  (i, { w with traffic := w.traffic + bytes.length }.watch token (.send c i))

/-- Creates a receive stream on connection `c`; the answer is its number. -/
def newReceive (w : World) (c : Nat) (token : Option Nat) : Nat × World :=
  let i := ((w.host.connections[c]?).map (·.receives.length)).getD 0
  let w := w.act (.connection c (.receive (w.hasFired token)))
  (i, w.watch token (.receive c i))

/-- Creates an accept stream on listener `l`; the answer is its number. -/
def newAccept (w : World) (l : Nat) (token : Option Nat) : Nat × World :=
  let i := ((w.host.listeners[l]?).map (·.accepts.length)).getD 0
  let w := w.act (.acceptAll l (w.hasFired token))
  (i, w.watch token (.accept l i))

/-! ### Streams by name -/

/-- The world without the accept stream of a name; it is no longer to be found, but goes on. -/
def withoutAccept (w : World) (name : String) : World :=
  { w with accepts := w.accepts.filter (·.1 ≠ name) }

/-- The world in which a name stands for accept stream `i` of listener `l`. The one that it
    stood for is dropped. -/
def nameAccept (w : World) (name : String) (l i : Nat) : World :=
  let w :=
    match w.accepts.get? name with
    | some (l, i) => (w.withoutAccept name).act (.dropAccept l i)
    | none => w
  { w with accepts := (name, l, i) :: w.accepts }

/-- The world without the receive stream of a name; it is no longer to be found, but goes on. -/
def withoutStream (w : World) (name : String) : World :=
  { w with streams := w.streams.filter (·.1 ≠ name) }

/-- The world in which a name stands for a receive stream. The one that it stood for is
    dropped. -/
def nameStream (w : World) (name : String) (s : Stream) : World :=
  let w :=
    match w.streams.get? name with
    | some old =>
      (w.withoutStream name).act (.connection old.connection (.dropReceive old.receive))
    | none => w
  { w with streams := (name, s) :: w.streams }

end World

end Duplex.Loopback
