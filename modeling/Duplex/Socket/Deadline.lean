import Duplex.Socket.ConnectionError
import Duplex.Timer

/-! # Deadlines

  An attempt under a deadline ends with its own result, with a timeout, or because the
  caller has cancelled. A cancellation from before the first poll, and a timeout of zero,
  end it without the attempt being started. Otherwise the first poll sets the timer and starts
  the attempt, and each poll asks in turn for the cancellation, the timer and the attempt.
-/

namespace Duplex

/-- How far an attempt under a deadline has come. -/
inductive DeadlineState where
  /-- It was never polled. -/
  | idle
  /-- It was first polled at the instant `since` and goes on. -/
  | running (since : Nat)
  /-- It has ended. -/
  | ended
  deriving DecidableEq, Repr

/-- An attempt under a deadline. Instants are nanoseconds of one clock. -/
structure Deadline where
  /-- The name of the operation, as errors show it. -/
  operation : String
  /-- How much time the attempt has; none leaves it unlimited. -/
  timeout : Option Duration
  /-- How far it has come. -/
  state : DeadlineState := .idle
  /-- Whether the attempt itself was ever started. -/
  attempted : Bool := false
  deriving DecidableEq, Repr

namespace Deadline

variable {α : Type}

/-- What polling answers. -/
inductive Answer (α : Type) where
  | pending
  | ended (result : Except ConnectionError α)
  /-- The end was answered before. -/
  | done

/-- Whether the time is up, with a timer that was set at `since`. -/
def isOver (d : Deadline) (timer : Timer) (since now : Nat) : Bool :=
  match d.timeout with
  | none => false
  | some limit => timer.expiry since limit ≤ now

/-- Polls what is under way: the cancellation, the timer and the attempt, in this order. -/
def pollRunning (d : Deadline) (timer : Timer) (cancelled : Bool) (since now : Nat)
    (attempt : Option (Except IoError α)) : Answer α × Deadline :=
  if cancelled then (.ended (.error (.cancelled d.operation)), { d with state := .ended })
  else if d.isOver timer since now then
    (.ended (.error (.timedOut d.operation)), { d with state := .ended })
  else
    match attempt with
    | some result =>
      (.ended (result.mapError (.ofIo d.operation)), { d with state := .ended, attempted := true })
    | none => (.pending, { d with state := .running since, attempted := true })

/-- Polls at the instant `now`, given whether the caller has cancelled and the result of the
    attempt, if it has one by then. -/
def poll (d : Deadline) (timer : Timer) (cancelled : Bool) (now : Nat)
    (attempt : Option (Except IoError α)) : Answer α × Deadline :=
  match d.state with
  | .ended => (.done, d)
  | .running since => d.pollRunning timer cancelled since now attempt
  | .idle =>
    if cancelled then (.ended (.error (.cancelled d.operation)), { d with state := .ended })
    else if d.timeout.any (·.toNanos = 0) then
      (.ended (.error (.timedOut d.operation)), { d with state := .ended })
    else d.pollRunning timer cancelled now now attempt

/-! ### Runs -/

/-- What happens around an attempt. -/
inductive Event (α : Type) where
  | poll
  | cancel
  /-- Time passes. -/
  | advance (time : Duration)
  /-- The attempt has a result. -/
  | complete (result : Except IoError α)

/-- What an event answers. -/
inductive Reply (α : Type) where
  | polled (answer : Answer α)
  /-- Whether the cancel was the first one. -/
  | cancelled (first : Bool)
  | accepted

/-- What an attempt goes by when it is polled. -/
structure Surroundings (α : Type) where
  /-- The timer of the machine. -/
  timer : Timer := .ofTicks
  /-- Whether the caller has cancelled. -/
  cancelled : Bool := false
  /-- The clock. -/
  now : Nat := 0
  /-- The result of the attempt, once it has one. -/
  attempt : Option (Except IoError α) := none

/-- Lets an event other than a poll happen. -/
def Surroundings.step (s : Surroundings α) : Event α → Reply α × Surroundings α
  | .poll => (.accepted, s)
  | .cancel => (.cancelled (!s.cancelled), { s with cancelled := true })
  | .advance time => (.accepted, { s with now := s.now + time.toNanos })
  | .complete result => (.accepted, { s with attempt := some result })

/-- An attempt under a deadline, with all that can happen around it. -/
structure Run (α : Type) extends Surroundings α where
  /-- The attempt under its deadline. -/
  deadline : Deadline

/-- Lets an event happen. -/
def Run.step (r : Run α) : Event α → Reply α × Run α
  | .poll =>
    let (answer, deadline) := r.deadline.poll r.timer r.cancelled r.now r.attempt
    (.polled answer, { r with deadline })
  | event =>
    let (reply, surroundings) := r.toSurroundings.step event
    (reply, { r with toSurroundings := surroundings })

end Deadline

end Duplex
