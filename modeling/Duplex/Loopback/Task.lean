import Duplex.Loopback.Poll
import Duplex.Stream.Observer

/-! # Tasks

  What a program runs: a task polls futures of the host until it has an answer. One poll of a
  task takes it one item, one answer or one write further; it says whether it has moved
  anything that another task may wait for.
-/

namespace Duplex.Loopback

/-- What a stream has given. -/
inductive Harvest where
  /-- Octets in pieces, the latest piece first. -/
  | octets (pieces : List Bytes)
  /-- Messages, the latest first. -/
  | messages (ms : List Message)

namespace Harvest

/-- Nothing yet, from a stream that is looked at like this. -/
def ofView : View → Harvest
  | .chunks | .octets _ => octets []
  | .framed _ => messages []

/-- The harvest with one item more. -/
def add : Harvest → Item → Harvest
  | octets pieces, .octets bytes => octets (bytes :: pieces)
  | messages ms, .message m => messages (m :: ms)
  | h, _ => h

/-- How many items were given. -/
def count : Harvest → Nat
  | octets pieces => pieces.length
  | messages ms => ms.length

end Harvest

/-- Why a pull stops. -/
inductive Stop where
  /-- It has as many items as were wanted. -/
  | enough
  /-- The stream has failed. -/
  | failed (error : ConnectionError)
  /-- The stream has ended. -/
  | ended
  /-- Nothing more came. -/
  | pending

/-- How a subscription ends. -/
inductive Ending where
  /-- With an error. -/
  | failed (error : ConnectionError)
  /-- In an orderly way. -/
  | completed

/-- What a step or a task answers. -/
inductive Answer where
  /-- Done. -/
  | ok
  /-- Yes or no. -/
  | flag (b : Bool)
  /-- An error. -/
  | failed (error : ConnectionError)
  /-- A stream has ended. -/
  | ended
  /-- Nothing is there yet. -/
  | pending
  /-- Connected; the peer is the listener or not. -/
  | connected (toListener : Bool)
  /-- Accepted a connection from an address. -/
  | accepted (peer : String)
  /-- Sent so many octets. -/
  | sent (n : Nat)
  /-- What a pull has got, and why it stops. -/
  | pulled (items : Harvest) (stop : Stop)
  /-- What the observer of a subscription was told. -/
  | observed (items : Harvest) (endings : List Ending)
  /-- How a subscription to connections ended. -/
  | closed (endings : List Ending)
  /-- The outcome of one disposal. -/
  | outcome (o : DisposeOutcome)
  /-- The outcomes of disposals, in the order in which they were asked for. -/
  | outcomes (os : List DisposeOutcome)
  /-- The addresses of the peers. -/
  | peers (addresses : List String)
  /-- How a connection looks. -/
  | connection (connected disposed nodelay : Bool) (diagnostic : String)
  /-- How a listener looks. -/
  | listener (tracked : Nat) (disposed : Bool) (buffer : Nat) (diagnostic : String)
  /-- Records of the log, in order. -/
  | records (rs : List LogRecord)
  /-- What a plain socket has read, and why it stops. -/
  | read (bytes : Bytes) (stop : Stop)

/-- What is disposed of. -/
inductive Target where
  /-- A connection of the host. -/
  | connection (c : Nat)
  /-- A listener of the host. -/
  | listener (l : Nat)
  deriving DecidableEq, Repr

/-- An observer of a connection. -/
inductive Sink where
  /-- Collects octets. -/
  | octets (recorder : Recorder Bytes ConnectionError)
  /-- Collects messages behind a decoder. -/
  | framed (observer : FramedObserver FramingMode (Recorder Message ConnectionError))

namespace Sink

/-- Tells the observer of an answer. -/
def tell (s : Sink) (answer : Polled Bytes ConnectionError) : Sink :=
  match s with
  | octets recorder => octets (Observer.tell recorder answer)
  | framed observer => framed (Observer.tell observer answer)

/-- The endings among some notices. -/
def endings {α : Type} (notices : List (Notice α ConnectionError)) : List Ending :=
  notices.filterMap fun
    | .next _ => none
    | .failed e => some (.failed e)
    | .completed => some .completed

/-- The items among some notices, the latest first. -/
def items {α : Type} (notices : List (Notice α ConnectionError)) : List α :=
  (notices.filterMap fun
    | .next a => some a
    | .failed _ | .completed => none).reverse

/-- What the observer was told. -/
def answer : Sink → Answer
  | octets recorder =>
    let notices := recorder.notices.toList
    .observed (.octets (items notices)) (endings notices)
  | framed observer =>
    let notices := observer.downstream.notices.toList
    .observed (.messages (items notices)) (endings notices)

end Sink

/-- What a task does. -/
inductive Job where
  /-- Connects to the listener at a port, and gives the connection a name. -/
  | connect (name : String) (port : Nat) (timeout : Option Duration) (token : Option Nat)
      (attempt : Option Connecting)
  /-- Sends. -/
  | send (c i : Nat)
  /-- Pulls items from the stream of a name, as many as are wanted or as there are. -/
  | pull (stream : String) (s : Stream) (wanted : Option Nat) (got : Harvest)
  /-- Accepts a connection from the accept stream of a name, and gives it a name. -/
  | accept (stream name : String) (l i : Nat)
  /-- Disposes of targets at once; the answer is a list or a single outcome. -/
  | dispose (targets : List Target) (listed asked : Bool)
  /-- Tells an observer of all that a receive stream gives. -/
  | subscribe (c i : Nat) (sink : Sink)
  /-- Collects all that an accept stream gives. -/
  | collect (l i : Nat) (connections : List Nat)

/-- What one poll of a task came to. -/
structure Turn where
  /-- Whether it has moved anything that another task may wait for. -/
  moved : Bool
  /-- The task from now on. -/
  job : Job
  /-- Its answer, if it is done. -/
  answer : Option Answer
  /-- The world from now on. -/
  world : World

namespace World

/-- Makes a connection of the socket at end `e`, and reports it. -/
def adopt (w : World) (name : String) (e : Nat) : World :=
  let near := w.network.endOf e
  let peer := (w.network.endOf near.other).address
  let c := w.host.connections.length
  let w := w.act (.adopt {
    config := w.config, timer := w.host.timer, localAddress := near.address, peerAddress := peer })
  ((w.addWire e true).nameConnection name c).report
    (.debug "tcp connected" [("local", near.address), ("endpoint", peer)])

/-- Polls an attempt to connect. Nothing is left of an attempt that does not win. -/
def pollConnect (w : World) (name : String) (port : Nat) (timeout : Option Duration)
    (token : Option Nat) (attempt : Option Connecting) : Turn :=
  let address := ((w.network.ports[port]?).map (·.address)).getD ""
  let (attempt, w) :=
    match attempt with
    | some attempt => (attempt, w)
    | none =>
      let (attempt, record) := Connecting.start address timeout
      (attempt, w.report record)
  let (result, network) := w.network.connect (addressOf name) port
  let (answer, attempt, records) := attempt.poll w.host.timer (w.hasFired token) w.now result
  let w := records.foldl report w
  let job := .connect name port timeout token (some attempt)
  match answer with
  | .pending | .done => ⟨false, job, none, w⟩
  | .ended (.error e) => ⟨true, job, some (.failed e), w⟩
  | .ended (.ok e) =>
    let toListener := (network.endOf (network.endOf e).other).address = address
    ⟨true, job, some (.connected toListener), { w with network }.adopt name e⟩

/-- Asks for the disposal of a target. -/
def dispose (w : World) : Target → World
  | .connection c => w.act (.connection c .dispose)
  | .listener l => w.act (.dispose l)

/-- The outcome of the disposal of a target, once it is published. -/
def outcome? (w : World) : Target → Option DisposeOutcome
  | .connection c => w.host.outcome c
  | .listener l => (w.host.listeners[l]?).bind (·.coordinator.outcome)

/-- The address of the peer of connection `c`. -/
def peerAddress (w : World) (c : Nat) : String :=
  ((w.host.connections[c]?).map (·.peerAddress)).getD ""

/-- Polls a task that pulls from a stream. -/
def pollPull (w : World) (name : String) (s : Stream) (wanted : Option Nat) (got : Harvest) :
    Turn :=
  let stop (s : Stream) (why : Stop) (w : World) : Turn :=
    ⟨true, .pull name s wanted got, some (.pulled got why), w⟩
  if wanted.any (· ≤ got.count) then stop s .enough w
  else
    match w.pollStream s with
    | (.pending, s, w) => ⟨false, .pull name s wanted got, none, w⟩
    | (.next item, s, w) => ⟨true, .pull name s wanted (got.add item), none, w⟩
    | (.failed e, s, w) => stop s (.failed e) w
    | (.ended, s, w) => stop s .ended w

/-- Polls a task that accepts a connection. -/
def pollPeer (w : World) (stream name : String) (l i : Nat) : Turn :=
  let job := .accept stream name l i
  match w.pollAccept l i with
  | (.pending, w) => ⟨false, job, none, w⟩
  | (.next c, w) => ⟨true, job, some (.accepted (w.peerAddress c)), w.nameConnection name c⟩
  | (.failed e, w) => ⟨true, job, some (.failed e), w⟩
  | (.ended, w) => ⟨true, job, some .ended, w⟩

/-- Polls a task that disposes of targets. -/
def pollDispose (w : World) (targets : List Target) (listed asked : Bool) : Turn :=
  let w := if asked then w else targets.foldl dispose w
  let job := .dispose targets listed true
  match targets.mapM w.outcome? with
  | none => ⟨!asked, job, none, w⟩
  | some [o] => ⟨true, job, some (if listed then .outcomes [o] else .outcome o), w⟩
  | some os => ⟨true, job, some (.outcomes os), w⟩

/-- Polls a task. -/
def poll (w : World) : Job → Turn
  | .connect name port timeout token attempt => w.pollConnect name port timeout token attempt
  | .send c i =>
    match w.pollSend c i with
    | (_, some (.ok n), w) => ⟨true, .send c i, some (.sent n), w⟩
    | (_, some (.error e), w) => ⟨true, .send c i, some (.failed e), w⟩
    | (wrote, none, w) => ⟨wrote, .send c i, none, w⟩
  | .pull name s wanted got => w.pollPull name s wanted got
  | .accept stream name l i => w.pollPeer stream name l i
  | .dispose targets listed asked => w.pollDispose targets listed asked
  | .subscribe c i sink =>
    let (answer, w) := w.pollReceive c i
    let sink := sink.tell answer
    ⟨answer ≠ .pending, .subscribe c i sink,
      if answer.isFinal then some sink.answer else none, w⟩
  | .collect l i connections =>
    match w.pollAccept l i with
    | (.pending, w) => ⟨false, .collect l i connections, none, w⟩
    | (.next c, w) => ⟨true, .collect l i (connections ++ [c]), none, w⟩
    | (.failed e, w) => ⟨true, .collect l i connections, some (.closed [.failed e]), w⟩
    | (.ended, w) => ⟨true, .collect l i connections, some (.closed [.completed]), w⟩

end World

end Duplex.Loopback
