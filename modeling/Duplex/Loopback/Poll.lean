import Duplex.Loopback.World

/-! # Polling

  A future of the host is polled until it answers, which may be that it has to wait. On the
  way it asks the network whatever it has to know.
-/

namespace Duplex.Loopback

/-- One item of a receive stream, as it is looked at. -/
inductive Item where
  /-- A chunk or an octet. -/
  | octets (bytes : Bytes)
  /-- A message. -/
  | message (m : Message)

namespace World

/-- The answer of a receive stream among some effects. -/
def receiveAnswer? (effects : List Host.Effect) : Option (Polled Bytes ConnectionError) :=
  effects.findSome? fun
    | .connection _ (.answered _ answer) => some answer
    | _ => none

/-- The answer of an accept stream among some effects. -/
def acceptAnswer? (effects : List Host.Effect) : Option (Polled Nat ConnectionError) :=
  effects.findSome? fun
    | .answered _ _ answer => some answer
    | _ => none

/-- How many octets one read of connection `c` takes here, which is the room that it has at
    least. -/
def readSize (w : World) (c : Nat) : Nat :=
  ((w.host.connections[c]?).map (·.config.receiveBufferSize)).getD 0

/-- How far the current pull of receive stream `i` of connection `c` has come. -/
def pullState? (w : World) (c i : Nat) : Option PullState :=
  ((w.host.connections[c]?).bind (·.receives[i]?)).map (·.state)

/-- Polls receive stream `i` of connection `c`. A stream that has ended is not polled again: the
    program takes it to end once more. -/
def pollReceive (w : World) (c i : Nat) : Polled Bytes ConnectionError × World :=
  if w.pullState? c i = some .exhausted then (.ended, w)
  else
    let (effects, w) := w.take (.connection c (.pollReceive i))
    match receiveAnswer? effects with
    | some answer => (answer, w)
    | none =>
      let (answer, network) := w.network.read (w.wire c).socket (w.readSize c)
      let (effects, w) := { w with network }.take (.connection c (.read i answer))
      ((receiveAnswer? effects).getD .pending, w)

/-- How far send `i` of connection `c` has come. -/
def sendState? (w : World) (c i : Nat) : Option SendState :=
  ((w.host.connections[c]?).bind (·.sends[i]?)).map (·.state)

/-- Lets send `i` of connection `c` write once, if it is about to, and says whether anything
    was written. -/
def writeOnce (w : World) (c i : Nat) : Bool × World :=
  match w.sendState? c i with
  | some (.writing rest true) =>
    let (answer, network) := w.network.write (w.wire c).socket rest
    (answer ≠ .blocked, { w with network }.act (.connection c (.write i answer)))
  | _ => (false, w)

/-- Polls send `i` of connection `c`. A send that did not fit at once finds no more room. The
    answer is whether anything was written, and the result. -/
def pollSend (w : World) (c i : Nat) : Bool × Option (Except ConnectionError Nat) × World :=
  let (wrote, w) := (w.act (.connection c (.pollSend i))).writeOnce c i
  let (_, w) := w.writeOnce c i
  match w.sendState? c i with
  | some (.returned result) => (wrote, some result, w)
  | _ => (wrote, none, w)

/-- Accept stream `i` of listener `l` takes what waits at the port, at most `fuel` peers that
    cannot be used included. -/
def takePeers (w : World) (l i : Nat) : Nat → Polled Nat ConnectionError × World
  | 0 => (.pending, w)
  | fuel + 1 =>
    match w.network.accept l with
    | (none, _) =>
      let (effects, w) := w.take (.accept l i .blocked)
      ((acceptAnswer? effects).getD .pending, w)
    | (some e, network) =>
      let w := { w with network }
      let near := network.endOf e
      let peer := (network.endOf near.other).address
      if near.torn then
        let (effects, w) := w.take (.accept l i (.unusable peer .notConnected))
        match acceptAnswer? effects with
        | some answer => (answer, w)
        | none => w.takePeers l i fuel
      else
        let w := (w.act (.accept l i (.accepted near.address peer))).addWire e
          (w.loggedListeners.getD l false)
        let (effects, w) := w.take (.track l i)
        ((acceptAnswer? effects).getD .pending, w)

/-- How far the current pull of accept stream `i` of listener `l` has come. -/
def acceptState? (w : World) (l i : Nat) : Option AcceptState :=
  ((w.host.listeners[l]?).bind (·.accepts[i]?)).map (·.state)

/-- Polls accept stream `i` of listener `l`. A stream that has ended is not polled again: the
    program takes it to end once more. -/
def pollAccept (w : World) (l i : Nat) : Polled Nat ConnectionError × World :=
  if w.acceptState? l i = some .exhausted then (.ended, w)
  else
    let (effects, w) := w.take (.pollAccept l i)
    match acceptAnswer? effects with
    | some answer => (answer, w)
    | none => w.takePeers l i (((w.network.ports[l]?).map (·.queue.length)).getD 0 + 1)

/-- One move of the teardown of connection `c`, if it can make one now. -/
def teardownMove? (w : World) (c : Nat) : Option World := do
  let connection ← w.host.connections[c]?
  let socket := (w.wire c).socket
  let go (label : Connection.Label) : Option World := some (w.act (.connection c label))
  match connection.teardown with
  | .absent | .finished => none
  | .requested | .releasing _ | .closing _ => go (.teardown w.now)
  | .awaitingWriter _ => if connection.writer.heldBy .teardown then go (.teardown w.now) else none
  | .halfClosing =>
    some ({ w with network := w.network.shutdownWrite socket }.act
      (.connection c (.halfClose (.ok ()) w.now)))
  | .awaitingReader _ _ deadline =>
    if connection.reader.heldBy .teardown then go (.teardown w.now)
    else if deadline ≤ w.now then go (.expire w.now)
    else none
  | .draining _ deadline =>
    let (answer, network) := w.network.read socket 1024
    if answer ≠ .blocked then some ({ w with network }.act (.connection c (.drain answer)))
    else if deadline ≤ w.now then go (.expire w.now)
    else none
  | .forcing _ =>
    let (answer, network) := w.network.shutdownBoth socket
    some ({ w with network }.act (.connection c (.force answer)))

/-- One move of the teardown of listener `l`, if it can make one now. -/
def cascadeMove? (w : World) (l : Nat) : Option World :=
  (w.host.step? (.cascade l)).map fun (host, effects) => effects.foldl effect { w with host }

/-- Closes the ports that no listener holds open any more. -/
def closePorts (w : World) : World :=
  let held := w.host.listeners.map Listener.holdsSocket
  let network := (List.range held.length).foldl
    (fun network l =>
      if !held.getD l true && (network.ports[l]?).any (·.isOpen) then network.closePort l
      else network)
    w.network
  { w with network }

/-! ### Streams -/

/-- Polls a stream of octets: what was received before comes first. -/
def pollOctets (w : World) (s : Stream) : Polled Item ConnectionError × Stream × World :=
  match w.pollReceive s.connection s.receive with
  | (.next (b :: rest), w) => (.next (.octets [b]), { s with view := .octets rest }, w)
  | (.next [], w) | (.pending, w) => (.pending, s, w)
  | (.failed e, w) => (.failed e, s, w)
  | (.ended, w) => (.ended, s, w)

/-- An answer of a message stream as an item. -/
def messageItem : Polled Message ConnectionError → Polled Item ConnectionError
  | .pending => .pending
  | .next m => .next (.message m)
  | .failed e => .failed e
  | .ended => .ended

/-- Polls a stream of messages: it decodes what it has and then reads, at most `fuel` times. -/
def pollFramed (w : World) (s : Stream) (parts : Reassembly FramingMode) :
    Nat → Polled Item ConnectionError × Stream × World
  | 0 => (.pending, { s with view := .framed parts }, w)
  | fuel + 1 =>
    match (parts.drain : Option (Polled Message ConnectionError) × _) with
    | (some answer, parts) => (messageItem answer, { s with view := .framed parts }, w)
    | (none, parts) =>
      let (answer, w) := w.pollReceive s.connection s.receive
      match (parts.absorb answer : Option (Polled Message ConnectionError) × _) with
      | (some answer, parts) => (messageItem answer, { s with view := .framed parts }, w)
      | (none, parts) => w.pollFramed s parts fuel

/-- Polls a stream. -/
def pollStream (w : World) (s : Stream) : Polled Item ConnectionError × Stream × World :=
  match s.view with
  | .chunks =>
    match w.pollReceive s.connection s.receive with
    | (.next chunk, w) => (.next (.octets chunk), s, w)
    | (.pending, w) => (.pending, s, w)
    | (.failed e, w) => (.failed e, s, w)
    | (.ended, w) => (.ended, s, w)
  | .octets [] => w.pollOctets s
  | .octets (b :: rest) => (.next (.octets [b]), { s with view := .octets rest }, w)
  | .framed parts =>
    w.pollFramed s parts ((w.network.endOf (w.wire s.connection).socket).inbox.length + 2)

end World

end Duplex.Loopback
