/-! # Disposal

  Many parties may ask for the disposal of one resource; it happens once, and all of them
  get the same outcome. The first request wins: it moves the coordinator out of `active`,
  fires the disposal token and starts the teardown. When the teardown ends, however it ends,
  the coordinator is closed and the outcome announced, in this order.
-/

namespace Duplex

/-- How far the disposal of a resource has come. -/
inductive DisposalPhase where
  /-- Nobody has asked for it. -/
  | active
  /-- The teardown is under way. -/
  | disposeRequested
  /-- The teardown has ended. -/
  | disposed
  deriving DecidableEq, Repr

/-- The name of a phase in a diagnostic. -/
def DisposalPhase.name : DisposalPhase → String
  | active => "Active"
  | disposeRequested => "DisposeRequested"
  | disposed => "Disposed"

/-- The outcome of a disposal. -/
inductive DisposeOutcome where
  /-- The peer has confirmed the close. -/
  | graceful
  /-- The peer has not confirmed the close in time, and the socket was closed regardless. -/
  | forced
  /-- The connection was down already. -/
  | notConnected
  /-- The teardown was cut short. -/
  | aborted
  deriving DecidableEq, Repr

/-- The state that all parties share. -/
structure Coordinator where
  /-- How far the disposal has come. -/
  phase : DisposalPhase := .active
  /-- Whether the disposal token has fired. -/
  token : Bool := false
  /-- The outcome, once it is announced. -/
  outcome : Option DisposeOutcome := none
  deriving DecidableEq, Repr

namespace Coordinator

/-- Whether the disposal was asked for. -/
def isDisposed (c : Coordinator) : Bool := c.phase ≠ .active

/-- Asks for the disposal, and says whether this request has won. -/
def claim (c : Coordinator) : Bool × Coordinator :=
  match c.phase with
  | .active => (true, { c with phase := .disposeRequested })
  | _ => (false, c)

theorem claim_of_active {c : Coordinator} (h : c.phase = .active) :
    c.claim = (true, { c with phase := .disposeRequested }) := by
  simp only [claim, h]

theorem claim_of_not_active {c : Coordinator} (h : c.phase ≠ .active) :
    c.claim = (false, c) := by
  unfold claim
  split
  · next hactive => exact absurd hactive h
  · rfl

/-- Fires the token alone, and says whether this was the first time. -/
def fireToken (c : Coordinator) : Bool × Coordinator := (!c.token, { c with token := true })

/-- Asks for the disposal, and says whether this request has won. The winner fires the token. -/
def request (c : Coordinator) : Bool × Coordinator :=
  match c.claim with
  | (true, c) => (true, c.fireToken.2)
  | (false, c) => (false, c)

theorem request_of_active {c : Coordinator} (h : c.phase = .active) :
    c.request = (true, { c with phase := .disposeRequested, token := true }) := by
  unfold request
  rw [claim_of_active h]
  rfl

theorem request_of_not_active {c : Coordinator} (h : c.phase ≠ .active) :
    c.request = (false, c) := by
  unfold request
  rw [claim_of_not_active h]

/-- The teardown has ended. -/
def close (c : Coordinator) : Coordinator := { c with phase := .disposed }

/-- Tells the outcome to all parties. -/
def announce (c : Coordinator) (outcome : DisposeOutcome) : Coordinator :=
  { c with outcome := some outcome }

/-- Closes the coordinator and tells the outcome. -/
def publish (c : Coordinator) (outcome : DisposeOutcome) : Coordinator :=
  c.close.announce outcome

/-- The coordinator as a diagnostic. -/
def diagnose (c : Coordinator) : String :=
  "DisposalCoordinator \x7b state: " ++ c.phase.name ++ " \x7d"

end Coordinator

end Duplex
