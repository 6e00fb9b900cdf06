import Duplex.Cancellation.Registry

/-! # Races

  A race runs a task until it completes or one side of a link fires. What decides is the
  state at the moment of a poll and not the order of events: disposal goes before the
  caller's token, and either goes before a task that has completed.

  The first poll asks the flags of the link, so that a race that is lost from the start
  never polls its task; a race that is under way waits for the signals.
-/

namespace Duplex

/-- How a race ends. -/
inductive Raced (α : Type) where
  /-- The task has completed first. -/
  | completed (value : α)
  /-- A side of the link has fired first. -/
  | interrupted (source : CancelSource)
  deriving DecidableEq, Repr

/-- How far a race has come. -/
inductive RaceState where
  /-- It was never polled. -/
  | idle
  /-- It was polled, and goes on. -/
  | running
  /-- It has ended. -/
  | ended
  deriving DecidableEq, Repr

/-- A race of a task with values `α` against a link. -/
structure Race (α : Type) where
  /-- The tokens of the program. -/
  tokens : Cancellation.Registry
  /-- The link that may interrupt the task. -/
  link : Cancellation.Link
  /-- The value of the task, once it has completed and until it is taken. -/
  task : Option α := none
  /-- How far the race has come. -/
  state : RaceState := .idle

namespace Race

variable {α : Type}

/-- A race of the task against the link, from which side has fired and whether the task is
    complete. -/
def verdict (fired : Option CancelSource) (task : Option α) : Option (Raced α) :=
  match fired with
  | some source => some (.interrupted source)
  | none => task.map .completed

/-- Which side of the link has raised its signal. -/
def signalled (r : Race α) : Option CancelSource :=
  CancelSource.fired (r.tokens.cell r.link.disposal).signal (r.tokens.cell r.link.external).signal

/-- What polling a race answers. -/
inductive Answer (α : Type) where
  | pending
  | ended (result : Raced α)
  /-- The end was answered before. -/
  | done
  deriving DecidableEq, Repr

/-- Ends the race, or leaves it running. The value of the task is taken only if it wins. -/
def settle (r : Race α) : Option (Raced α) → Answer α × Race α
  | none => (.pending, { r with state := .running })
  | some (.completed value) =>
    (.ended (.completed value), { r with state := .ended, task := none })
  | some (.interrupted source) => (.ended (.interrupted source), { r with state := .ended })

/-- Polls the race. -/
def poll (r : Race α) : Answer α × Race α :=
  match r.state with
  | .ended => (.done, r)
  | .running => r.settle (verdict r.signalled r.task)
  | .idle =>
    match r.tokens.fired r.link with
    | some source => r.settle (some (.interrupted source))
    | none => r.settle (verdict r.signalled r.task)

/-- What happens to a race. -/
inductive Event (α : Type) where
  | poll
  | cancelDisposal
  | cancelExternal
  /-- The task completes. -/
  | complete (value : α)
  deriving DecidableEq, Repr

/-- What an event answers. -/
inductive Reply (α : Type) where
  | polled (answer : Answer α)
  /-- Whether the cancel was the first one. -/
  | cancelled (first : Bool)
  | completed
  deriving DecidableEq, Repr

/-- Cancels the token with cell `n`. -/
def cancel (r : Race α) (n : Nat) : Reply α × Race α :=
  let (first, tokens) := r.tokens.cancel n
  (.cancelled first, { r with tokens })

/-- Lets an event happen. -/
def step (r : Race α) : Event α → Reply α × Race α
  | .poll =>
    let (answer, r) := r.poll
    (.polled answer, r)
  | .cancelDisposal => r.cancel r.link.disposal
  | .cancelExternal => r.cancel r.link.external
  | .complete value => (.completed, { r with task := some value })

/-- A race against two tokens of its own. -/
def fresh : Race α := { tokens := { cells := [{}, {}] }, link := ⟨0, 1⟩ }

end Race

end Duplex
