import Duplex.Loopback.Executor
import Duplex.Text.Quoted

/-! # Loopback programs

  A program that listens, connects, sends and receives on one host, step by step. After a step
  that starts or changes something, everybody runs until nobody can move; a step that asks for
  an answer waits for it, and the clock goes on meanwhile.
-/

namespace Duplex.Loopback

/-- Where a program listens. -/
inductive ListenMode where
  /-- At the loopback address. -/
  | loopback
  /-- At the loopback address, with the default configuration and without a log. -/
  | plain
  /-- At the loopback address of version 6. -/
  | loopbackV6
  /-- At the address of the current listener. -/
  | again
  /-- At an address of another host. -/
  | foreign
  deriving DecidableEq, Repr

/-- One step of a program. A step that starts a task names it. -/
inductive Step where
  /-- Listens; this is the current listener from now on. -/
  | listen (backlog : Nat) (mode : ListenMode)
  /-- Connects to the current listener. -/
  | connect (name : String) (timeout : Option Duration) (token : Option String)
  /-- Connects in a task. -/
  | startConnect (task : String) (token : Option String)
  /-- Creates an accept stream of the current listener. -/
  | accepts (name : String) (token : Option String)
  /-- Pulls one connection and gives it a name. -/
  | accept (stream name : String)
  /-- Pulls one connection in a task, and gives it the name of the task. -/
  | startAccept (task stream : String)
  /-- Collects connections in a task. -/
  | subscribeAccepts (task : String) (token : Option String)
  /-- Names the connections that were collected so far. -/
  | accepted (task : String)
  /-- Sends. -/
  | send (connection : String) (bytes : Bytes) (token : Option String)
  /-- Sends in a task. -/
  | startSend (task connection : String) (bytes : Bytes) (token : Option String)
  /-- Creates a receive stream. -/
  | stream (name connection : String) (view : View) (token : Option String)
  /-- Pulls items. -/
  | pull (stream : String) (wanted : Option Nat)
  /-- Pulls items in a task. -/
  | startPull (task stream : String) (wanted : Option Nat)
  /-- Goes on with another framing. -/
  | switch (stream : String) (decoder : FramingMode)
  /-- Tells an observer in a task of all that a connection receives. -/
  | subscribe (task connection : String) (decoder : Option FramingMode) (token : Option String)
  /-- Disposes of connections and of the current listener, all at once. -/
  | dispose (names : List String)
  /-- Disposes of one of them in a task. -/
  | startDispose (task name : String)
  /-- Waits for a task. -/
  | join (task : String)
  /-- Makes a token. -/
  | token (name : String)
  /-- Fires a token. -/
  | cancel (token : String)
  /-- Looks at a connection. -/
  | status (connection : String)
  /-- Looks at the current listener. -/
  | listener
  /-- Takes the records out of the log. -/
  | logs
  /-- Connects a plain socket to the current listener. -/
  | rawConnect (name : String)
  /-- Sends from a plain socket. -/
  | rawSend (name : String) (bytes : Bytes)
  /-- Closes the direction of a plain socket. -/
  | rawShutdown (name : String)
  /-- Gives up a plain socket. -/
  | rawClose (name : String)
  /-- Tears down the connection of a plain socket. -/
  | rawReset (name : String)
  /-- Reads at a plain socket. -/
  | rawRead (name : String) (wanted : Option Nat)

/-- Why a program cannot go on. -/
inductive ProgramError where
  /-- A name stands for nothing of its kind. -/
  | unknown (kind name : String)
  /-- Nobody has listened yet. -/
  | noListener
  /-- A plain socket failed. -/
  | rawSocket (error : IoError)
  /-- A step waits for something that never happens. -/
  | stuck
  deriving DecidableEq, Repr

/-- The wording of the error. -/
def ProgramError.message : ProgramError → String
  | unknown kind name => "no " ++ kind ++ " " ++ Quoted.json name
  | noListener => "no listener"
  | rawSocket error => error.text
  | stuck => "nothing more happens"

namespace Executor

/-- The outcome of a step of a program. -/
abbrev Outcome := Except ProgramError (Answer × Executor)

/-- What a name stands for. -/
def find {α : Type} (names : Cancellation.Names α) (kind name : String) :
    Except ProgramError α :=
  match names.get? name with
  | some a => .ok a
  | none => .error (.unknown kind name)

/-- The connection with a name. -/
def connection (x : Executor) (name : String) : Except ProgramError Nat :=
  find x.world.connections "connection" name

/-- The current listener. -/
def listener (x : Executor) : Except ProgramError Nat :=
  match x.world.listener with
  | some l => .ok l
  | none => .error .noListener

/-- The token with a name, if a name is given. -/
def token (x : Executor) : Option String → Except ProgramError (Option Nat)
  | none => .ok none
  | some name => (find x.world.tokens "token" name).map some

/-- The plain socket with a name. -/
def rawSocket (x : Executor) (name : String) : Except ProgramError Nat :=
  find x.world.rawSockets "peer" name

/-- The number of the task with a name. -/
def taskNamed (x : Executor) (name : String) : Except ProgramError Nat :=
  match x.tasks.findIdx? (·.name = some name) with
  | some i => .ok i
  | none => .error (.unknown "task" name)

/-- The execution in another world. -/
def inWorld (x : Executor) (world : World) : Executor := { x with world }

/-- Waits for a job. -/
def await (x : Executor) (job : Job) : Outcome :=
  match x.call job with
  | (some answer, x) => .ok (answer, x)
  | (none, _) => .error .stuck

/-- Starts a job as a task. -/
def start (x : Executor) (name : String) (job : Job) : Answer × Executor :=
  (.ok, (x.spawnNamed name job).settle)

/-- Names the stream again that a job had for itself. -/
def giveBack (x : Executor) : Job → Executor
  | .pull name s _ _ => x.inWorld (x.world.nameStream name s)
  | .accept name _ l i => x.inWorld (x.world.nameAccept name l i).closePorts
  | _ => x

/-! ### Listening -/

/-- Where a mode binds. -/
def bindSite (x : Executor) : ListenMode → Except ProgramError BindSite
  | .loopback | .plain => .ok .loopback
  | .loopbackV6 => .ok .loopbackV6
  | .foreign => .ok .foreign
  | .again => return .port (← x.listener)

/-- Listens. -/
def listen (x : Executor) (backlog : Nat) (mode : ListenMode) : Outcome := do
  let site ← x.bindSite mode
  if backlog = 0 then
    return (.failed (.invalidArgument "listen backlog must be positive"), x)
  let w := x.world
  match w.network.canBind site with
  | .error e => return (.failed (.ofIo Operation.bind.name e), x)
  | .ok () =>
    let address := addressOf "listener"
    let logged : Bool := decide (mode ≠ .plain)
    let (l, network) := w.network.listen address backlog
    let config := if logged then w.config else {}
    let w := { w with
      network
      listener := some l
      loggedListeners := w.loggedListeners ++ [logged] }.act (.listen config address)
    let record := LogRecord.info "tcp listener bound"
      [("local", address), ("backlog", toString backlog)]
    return (.ok, x.inWorld (if logged then w.report record else w))

/-- The current listener as it looks now. -/
def showListener (x : Executor) : Outcome := do
  let l ← x.listener
  let listener := x.world.host.listeners.getD l {}
  let tracked := x.world.host.trackedLen listener
  return (.listener tracked listener.isDisposed listener.config.receiveBufferSize
    (listener.diagnose tracked), x)

/-- Creates an accept stream of the current listener. -/
def accepts (x : Executor) (name : String) (token : Option String) : Outcome := do
  let l ← x.listener
  let (i, w) := x.world.newAccept l (← x.token token)
  return (.ok, x.inWorld (w.nameAccept name l i).closePorts)

/-- Pulls one connection from an accept stream, if one is there. -/
def accept (x : Executor) (stream name : String) : Outcome := do
  let (l, i) ← find x.world.accepts "accept stream" stream
  let (answer, _, x) := x.attempt (.accept stream name l i)
  return (answer.getD .pending, x)

/-- Pulls one connection in a task, which has the accept stream for itself. -/
def startAccept (x : Executor) (task stream : String) : Outcome := do
  let (l, i) ← find x.world.accepts "accept stream" stream
  return (x.inWorld (x.world.withoutAccept stream)).start task (.accept stream task l i)

/-- Collects connections in a task. -/
def subscribeAccepts (x : Executor) (task : String) (token : Option String) : Outcome := do
  let l ← x.listener
  let (i, w) := x.world.newAccept l (← x.token token)
  let x := { x.inWorld w with collectors := (task, x.tasks.length) :: x.collectors }
  return x.start task (.collect l i [])

/-- Names the connections that a task has collected so far. -/
def accepted (x : Executor) (task : String) : Outcome := do
  let x := x.settle
  let i ← find x.collectors "task" task
  match (x.tasks[i]?).map Task.job with
  | some (.collect _ _ connections) =>
    let world := (connections.zipIdx).foldl
      (fun w (c, n) => w.nameConnection (task ++ toString n) c) x.world
    return (.peers (connections.map world.peerAddress), x.inWorld world)
  | _ => .error (.unknown "task" task)

/-! ### Sending and receiving -/

/-- Pulls items from a stream, as many as are wanted and there. -/
def pull (x : Executor) (stream : String) (wanted : Option Nat) : Outcome := do
  let s ← find x.world.streams "stream" stream
  let x := x.inWorld (x.world.withoutStream stream)
  let (answer, job, x) := x.attempt (.pull stream s wanted (.ofView s.view))
  let x := x.giveBack job
  match answer, job with
  | some answer, _ => return (answer, x)
  | none, .pull _ _ _ got => return (.pulled got .pending, x)
  | none, _ => .error .stuck

/-- Pulls items in a task, which has the stream for itself. -/
def startPull (x : Executor) (task stream : String) (wanted : Option Nat) : Outcome := do
  let s ← find x.world.streams "stream" stream
  let x := x.inWorld (x.world.withoutStream stream)
  return x.start task (.pull stream s wanted (.ofView s.view))

/-- Creates a receive stream. -/
def stream (x : Executor) (name connection : String) (view : View) (token : Option String) :
    Outcome := do
  let c ← x.connection connection
  let token ← x.token token
  let (receive, w) := x.world.newReceive c token
  return (.ok, x.inWorld (w.nameStream name { connection := c, receive, view }))

/-- Goes on with another framing, from the first octet that was not taken. -/
def switch (x : Executor) (stream : String) (decoder : FramingMode) : Outcome := do
  let s ← find x.world.streams "stream" stream
  match s.view with
  | .framed parts =>
    let view := .framed { decoder, chunk := parts.chunk }
    return (.ok, x.inWorld ((x.world.withoutStream stream).nameStream stream { s with view }))
  | .chunks | .octets _ => .error (.unknown "framed stream" stream)

/-- The observer behind a decoder, or of plain octets. -/
def sink : Option FramingMode → Sink
  | none => .octets {}
  | some decoder => .framed { decoder, downstream := {} }

/-! ### Disposing -/

/-- What a name stands for that can be disposed of. -/
def target (x : Executor) (name : String) : Except ProgramError Target := do
  if name = "listener" then return .listener (← x.listener)
  else return .connection (← x.connection name)

/-- Waits for a task, which gives its name and its stream back. -/
def join (x : Executor) (task : String) : Outcome := do
  let i ← x.taskNamed task
  let x := (x.run i).clearName task
  match x.tasks[i]? with
  | some { job, answer := some answer, .. } => return (answer, x.giveBack job)
  | _ => .error .stuck

/-! ### Plain sockets -/

/-- Connects a plain socket to the current listener. -/
def rawConnect (x : Executor) (name : String) : Outcome := do
  let l ← x.listener
  match x.world.network.connect (addressOf name) l with
  | (none, _) => .error .stuck
  | (some (.error e), _) => .error (.rawSocket e)
  | (some (.ok e), network) =>
    let w := x.world
    return (.ok, x.inWorld { w with network, rawSockets := (name, e) :: w.rawSockets })

/-- Sends from a plain socket. -/
def rawSend (x : Executor) (name : String) (bytes : Bytes) : Outcome := do
  let e ← x.rawSocket name
  let w := x.world
  match w.network.write e bytes with
  | (.failed error, _) => .error (.rawSocket error)
  | (.accepted _, network) | (.blocked, network) =>
    return (.ok, (x.inWorld { w with network, traffic := w.traffic + bytes.length }).settle)

/-- Changes the network at a plain socket. -/
def rawChange (x : Executor) (name : String) (f : Network → Nat → Network) : Outcome := do
  let e ← x.rawSocket name
  let w := x.world
  return (.ok, (x.inWorld { w with network := f w.network e }).settle)

/-- Reads at a plain socket until it has what is wanted or nothing comes, in at most `fuel`
    reads. What is read stands in `got`, the latest piece first. -/
def readPieces (x : Executor) (e : Nat) (wanted : Option Nat) (got : List Bytes) (count : Nat) :
    Nat → Answer × Executor
  | 0 => (.read got.reverse.flatten .pending, x)
  | fuel + 1 =>
    if wanted.any (· ≤ count) then (.read got.reverse.flatten .enough, x)
    else
      let size := (wanted.map (· - count)).getD 65536
      match x.world.network.read e size with
      | (.chunk bytes, network) =>
        let x := (x.inWorld { x.world with network }).settle
        x.readPieces e wanted (bytes :: got) (count + bytes.length) fuel
      | (.closed, _) => (.read got.reverse.flatten .ended, x)
      | (.failed error, network) =>
        (.read got.reverse.flatten (.failed (.remoteClosed (some error))),
          x.inWorld { x.world with network })
      | (.blocked, _) => (.read got.reverse.flatten .pending, x)

/-- Reads at a plain socket. -/
def rawRead (x : Executor) (name : String) (wanted : Option Nat) : Outcome := do
  let e ← x.rawSocket name
  return x.settle.readPieces e wanted [] 0 (x.world.traffic + 2)

/-! ### Steps -/

/-- Takes a step of a program. -/
def step (x : Executor) : Step → Outcome
  | .listen backlog mode => x.listen backlog mode
  | .connect name timeout token => do
    let l ← x.listener
    x.await (.connect name l timeout (← x.token token) none)
  | .startConnect task token => do
    let l ← x.listener
    return x.start task (.connect task l none (← x.token token) none)
  | .accepts name token => x.accepts name token
  | .accept stream name => x.accept stream name
  | .startAccept task stream => x.startAccept task stream
  | .subscribeAccepts task token => x.subscribeAccepts task token
  | .accepted task => x.accepted task
  | .send connection bytes token => do
    let c ← x.connection connection
    let (i, w) := x.world.newSend c bytes (← x.token token)
    (x.inWorld w).await (.send c i)
  | .startSend task connection bytes token => do
    let c ← x.connection connection
    let (i, w) := x.world.newSend c bytes (← x.token token)
    return (x.inWorld w).start task (.send c i)
  | .stream name connection view token => x.stream name connection view token
  | .pull stream wanted => x.pull stream wanted
  | .startPull task stream wanted => x.startPull task stream wanted
  | .switch stream decoder => x.switch stream decoder
  | .subscribe task connection decoder token => do
    let c ← x.connection connection
    let (i, w) := x.world.newReceive c (← x.token token)
    return (x.inWorld w).start task (.subscribe c i (sink decoder))
  | .dispose names => do
    let targets ← names.mapM x.target
    x.await (.dispose targets true false)
  | .startDispose task name => do
    return x.start task (.dispose [← x.target name] false false)
  | .join task => x.join task
  | .token name =>
    let w := x.world
    return (.ok, x.inWorld { w with
      tokens := (name, w.fired.length) :: w.tokens, fired := w.fired ++ [false] })
  | .cancel name => do
    let t ← find x.world.tokens "token" name
    let (first, w) := x.world.fire t
    return (.flag first, (x.inWorld w).settle)
  | .status name => do
    let c ← x.connection name
    let connection := x.world.host.connections.getD c {}
    return (.connection connection.connected connection.isDisposed connection.config.nodelay
      connection.diagnose, x)
  | .listener => x.showListener
  | .logs => .ok (.records x.world.log.reverse, x.inWorld { x.world with log := [] })
  | .rawConnect name => x.rawConnect name
  | .rawSend name bytes => x.rawSend name bytes
  | .rawShutdown name => x.rawChange name Network.shutdownWrite
  | .rawClose name => x.rawChange name Network.close
  | .rawReset name => x.rawChange name Network.reset
  | .rawRead name wanted => x.rawRead name wanted

end Executor

end Duplex.Loopback
