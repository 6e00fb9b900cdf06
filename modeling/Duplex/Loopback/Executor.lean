import Duplex.Loopback.Task

/-! # Running tasks

  Tasks, and the teardowns that the host runs by itself, take turns until nobody can move.
  When a program waits for one task, the clock goes on to the next deadline whenever
  nobody can move before it.
-/

namespace Duplex.Loopback

/-- A task, and its answer once it is done. -/
structure Task where
  /-- Its name, unless another task has taken that over or the answer was asked for. -/
  name : Option String
  job : Job
  answer : Option Answer := none

/-- A world and the tasks in it. -/
structure Executor where
  world : World
  /-- The tasks so far, in the order of their creation. -/
  tasks : List Task := []
  /-- The tasks that collect connections, by number. -/
  collectors : Cancellation.Names Nat := []

namespace Executor

/-- Takes a name from the task that has it. -/
def clearName (x : Executor) (name : String) : Executor :=
  { x with tasks := x.tasks.map fun task =>
      if task.name = some name then { task with name := none } else task }

/-- Adds a task without a name; the answer is its number. -/
def spawn (x : Executor) (job : Job) : Nat × Executor :=
  (x.tasks.length, { x with tasks := x.tasks ++ [{ name := none, job }] })

/-- Adds a task under a name. -/
def spawnNamed (x : Executor) (name : String) (job : Job) : Executor :=
  let x := x.clearName name
  { x with tasks := x.tasks ++ [{ name := some name, job }] }

/-- The answer of task `i`, once it is done. -/
def answer? (x : Executor) (i : Nat) : Option Answer := (x.tasks[i]?).bind (·.answer)

/-- Polls task `i`, unless it is done, and says whether anything has moved. -/
def pollTask (x : Executor) (i : Nat) : Bool × Executor :=
  match x.tasks[i]? with
  | none => (false, x)
  | some task =>
    if task.answer.isSome then (false, x)
    else
      let turn := x.world.poll task.job
      (turn.moved,
        { x with
          world := turn.world
          tasks := x.tasks.set i { task with job := turn.job, answer := turn.answer } })

/-- Takes a move of the world, if it is possible, and says whether it was. -/
def tryMove (x : Executor) (move? : World → Option World) : Bool × Executor :=
  match move? x.world with
  | none => (false, x)
  | some world => (true, { x with world })

/-- Lets several parties move in turn, and says whether anything has moved. -/
def inTurn (x : Executor) (n : Nat) (move : Executor → Nat → Bool × Executor) :
    Bool × Executor :=
  (List.range n).foldl
    (fun (moved, x) i =>
      let (more, x) := move x i
      (moved || more, x))
    (false, x)

/-- One turn of everybody: the tasks, the teardowns of connections, those of listeners. -/
def turn (x : Executor) : Bool × Executor :=
  let (tasks, x) := x.inTurn x.tasks.length pollTask
  let (teardowns, x) := x.inTurn x.world.host.connections.length fun x c =>
    x.tryMove (·.teardownMove? c)
  let (cascades, x) := x.inTurn x.world.host.listeners.length fun x l =>
    x.tryMove (·.cascadeMove? l)
  (tasks || teardowns || cascades, { x with world := x.world.closePorts })

/-- A bound on the turns in which something moves: an octet is written, read and handed on
    once, and everything else makes a fixed number of moves. -/
def work (x : Executor) : Nat :=
  16 * (x.world.traffic + x.world.network.ends.length + x.world.host.connections.length +
    x.world.host.listeners.length + x.tasks.length + 1)

/-- Takes turns until nobody moves, but no more than `fuel`. -/
def settleWithin (x : Executor) : Nat → Executor
  | 0 => x
  | fuel + 1 =>
    match x.turn with
    | (true, x) => x.settleWithin fuel
    | (false, x) => x

/-- Takes turns until nobody moves. -/
def settle (x : Executor) : Executor := x.settleWithin x.work

/-! ### Deadlines -/

/-- The deadline of a task, with this timer. -/
def Task.deadline? (timer : Timer) (task : Task) : Option Nat :=
  match task.answer, task.job with
  | none, .connect _ _ (some limit) _ (some ⟨_, { state := .running since, .. }⟩) =>
    some (timer.expiry since limit)
  | _, _ => none

/-- The deadline of the teardown of a connection. -/
def teardownDeadline? (c : Connection) : Option Nat :=
  match c.teardown with
  | .awaitingReader _ _ deadline | .draining _ deadline => some deadline
  | _ => none

/-- The next deadline that somebody waits for. -/
def nextDeadline? (x : Executor) : Option Nat :=
  let deadlines :=
    x.tasks.filterMap (Task.deadline? x.world.host.timer) ++
      x.world.host.connections.filterMap teardownDeadline?
  (deadlines.filter (x.world.now < ·)).min?

/-- Runs until task `i` is done or nobody waits for a deadline, but past no more than `fuel`
    deadlines. -/
def runWithin (x : Executor) (i : Nat) : Nat → Executor
  | 0 => x.settle
  | fuel + 1 =>
    let x := x.settle
    if (x.answer? i).isSome then x
    else
      match x.nextDeadline? with
      | none => x
      | some deadline => { x with world := { x.world with now := deadline } }.runWithin i fuel

/-- Runs until task `i` is done or nobody waits for a deadline. Each task and each connection
    has one deadline at most. -/
def run (x : Executor) (i : Nat) : Executor :=
  x.runWithin i (x.tasks.length + x.world.network.ends.length + 1)

/-- Adds a task and runs until it is done, if it ever is. -/
def call (x : Executor) (job : Job) : Option Answer × Executor :=
  let (i, x) := x.spawn job
  let x := x.run i
  (x.answer? i, { x with tasks := x.tasks.eraseIdx i })

/-- Adds a task and runs until nobody moves. A task that is not done by then is dropped, and the
    answer is what it was doing. -/
def attempt (x : Executor) (job : Job) : Option Answer × Job × Executor :=
  let (i, x) := x.spawn job
  let x := x.settle
  (x.answer? i, ((x.tasks[i]?).map (·.job)).getD job, { x with tasks := x.tasks.eraseIdx i })

end Executor

end Duplex.Loopback
