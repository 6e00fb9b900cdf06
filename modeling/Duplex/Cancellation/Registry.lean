/-! # Cancellation

  A token can be cancelled once and for all. Tokens are aliases: a child shares the
  *cell* of the token it was made from, so cancelling either cancels both. A link watches
  two tokens, one for local disposal and one that the caller holds, and says which of them
  has fired; disposal goes first.

  A cell keeps two things apart. The `flag` decides which cancel was the first one and
  answers whether the token is cancelled; the `signal` releases those who wait. The first
  cancel raises the flag and then the signal, and wakes every wait that was polled before.

  The registry below holds the cells and waits of one program, under the names that the
  program gives them.
-/

namespace Duplex

/-- Which side of a link has fired. -/
inductive CancelSource where
  /-- The connection is being disposed of locally. -/
  | disposal
  /-- The caller has cancelled. -/
  | external
  deriving DecidableEq, Repr

/-- Which side of a link has fired, from the two sides; disposal goes first. -/
def CancelSource.fired (disposal external : Bool) : Option CancelSource :=
  if disposal then some .disposal else if external then some .external else none

namespace Cancellation

/-- What all aliases of a token share. -/
structure Cell where
  /-- Whether the token is cancelled. -/
  flag : Bool := false
  /-- Whether waits on the token are released. -/
  signal : Bool := false
  deriving DecidableEq, Repr

/-- How far a wait has come. -/
inductive WaitState where
  /-- It was never polled, so nobody is to be woken. -/
  | idle
  /-- It was polled too early and left a waker behind. -/
  | parked
  /-- It has answered that the token is cancelled. -/
  | finished
  deriving DecidableEq, Repr

/-- A wait for the cancellation of the token with cell `cell`. -/
structure Wait where
  /-- The cell that is watched. -/
  cell : Nat
  /-- How far the wait has come. -/
  state : WaitState := .idle
  /-- Whether the waker that it left behind has been called. -/
  woken : Bool := false
  deriving DecidableEq, Repr

/-- The wait after the signal of cell `cell` was raised: a waker left behind is called. -/
def Wait.wake (cell : Nat) (w : Wait) : Wait :=
  if w.state = .parked ∧ w.cell = cell then { w with woken := true } else w

/-- A pair of watched tokens. -/
structure Link where
  /-- The cell of the disposal side. -/
  disposal : Nat
  /-- The cell of the caller's side. -/
  external : Nat
  deriving DecidableEq, Repr

/-- The names of a program and what they stand for, latest first. -/
abbrev Names (α : Type) := List (String × α)

/-- What a name stands for. -/
def Names.get? {α : Type} (names : Names α) (name : String) : Option α := names.lookup name

/-- The tokens, links and waits of one program. -/
structure Registry where
  /-- All cells, by number. -/
  cells : List Cell := []
  /-- The cell of each token. -/
  tokens : Names Nat := []
  /-- The links. -/
  links : Names Link := []
  /-- The waits. -/
  waits : Names Wait := []
  deriving DecidableEq, Repr

namespace Registry

/-- The cell with a number. -/
def cell (r : Registry) (n : Nat) : Cell := r.cells.getD n {}

/-- Whether the token with cell `n` is cancelled. -/
def isCancelled (r : Registry) (n : Nat) : Bool := (r.cell n).flag

/-- Which side of a link has fired. -/
def fired (r : Registry) (l : Link) : Option CancelSource :=
  CancelSource.fired (r.isCancelled l.disposal) (r.isCancelled l.external)

/-- Raises the signal of cell `n` and wakes those who are parked on it. -/
def signal (r : Registry) (n : Nat) : Registry :=
  { r with
    cells := r.cells.modify n fun c => { c with signal := true }
    waits := r.waits.map fun (name, w) => (name, w.wake n) }

/-- Cancels the token with cell `n`, and says whether this was the first time. -/
def cancel (r : Registry) (n : Nat) : Bool × Registry :=
  if r.isCancelled n then (false, r)
  else (true, { r with cells := r.cells.modify n fun c => { c with flag := true } }.signal n)

/-- A new token. -/
def newToken (r : Registry) (name : String) : Registry :=
  { r with cells := r.cells ++ [{}], tokens := (name, r.cells.length) :: r.tokens }

/-- What polling a wait answers. -/
inductive WaitPoll where
  /-- The token is not cancelled yet. -/
  | pending
  /-- The token is cancelled. -/
  | ready
  /-- This was answered before. -/
  | done
  deriving DecidableEq, Repr

/-- Polls a wait. -/
def pollWait (r : Registry) (w : Wait) : WaitPoll × Wait :=
  if w.state = .finished then (.done, w)
  else if (r.cell w.cell).signal then (.ready, { w with state := .finished })
  else (.pending, { w with state := .parked })

end Registry

/-! ### Programs -/

/-- One call of a program. -/
inductive Call where
  /-- Makes a token. -/
  | token (name : String)
  /-- Makes an alias of a token. -/
  | child (name parent : String)
  /-- Makes a link. -/
  | link (name disposal external : String)
  /-- Makes a wait. -/
  | wait (name token : String)
  /-- Cancels a token. -/
  | cancel (token : String)
  /-- Cancels the disposal side of a link. -/
  | cancelDisposal (link : String)
  /-- Cancels the caller's side of a link. -/
  | cancelExternal (link : String)
  /-- Asks whether a token is cancelled. -/
  | isCancelled (token : String)
  /-- Asks which side of a link has fired. -/
  | fired (link : String)
  /-- Polls a wait. -/
  | poll (wait : String)
  /-- Asks whether the waker of a wait has been called. -/
  | woken (wait : String)
  deriving DecidableEq, Repr

/-- What a call answers. -/
inductive Reply where
  | created
  | flag (b : Bool)
  | fired (source : Option CancelSource)
  | poll (answer : Registry.WaitPoll)
  /-- A name stands for nothing. -/
  | unknown
  deriving DecidableEq, Repr

namespace Registry

/-- Cancels the token with cell `n`, if there is one. -/
def cancelCell (r : Registry) : Option Nat → Reply × Registry
  | none => (.unknown, r)
  | some n =>
    let (first, r) := r.cancel n
    (.flag first, r)

/-- Makes one call. -/
def call (r : Registry) : Call → Reply × Registry
  | .token name => (.created, r.newToken name)
  | .child name parent =>
    match r.tokens.get? parent with
    | none => (.unknown, r)
    | some n => (.created, { r with tokens := (name, n) :: r.tokens })
  | .link name disposal external =>
    match r.tokens.get? disposal, r.tokens.get? external with
    | some d, some e => (.created, { r with links := (name, ⟨d, e⟩) :: r.links })
    | _, _ => (.unknown, r)
  | .wait name token =>
    match r.tokens.get? token with
    | none => (.unknown, r)
    | some n => (.created, { r with waits := (name, { cell := n }) :: r.waits })
  | .cancel token => r.cancelCell (r.tokens.get? token)
  | .cancelDisposal link => r.cancelCell ((r.links.get? link).map (·.disposal))
  | .cancelExternal link => r.cancelCell ((r.links.get? link).map (·.external))
  | .isCancelled token =>
    match r.tokens.get? token with
    | none => (.unknown, r)
    | some n => (.flag (r.isCancelled n), r)
  | .fired link =>
    match r.links.get? link with
    | none => (.unknown, r)
    | some l => (.fired (r.fired l), r)
  | .poll wait =>
    match r.waits.get? wait with
    | none => (.unknown, r)
    | some w =>
      let (answer, w) := r.pollWait w
      (.poll answer, { r with waits := (wait, w) :: r.waits.filter (·.1 ≠ wait) })
  | .woken wait =>
    match r.waits.get? wait with
    | none => (.unknown, r)
    | some w => (.flag w.woken, r)

/-- Makes the calls of a program, and collects the answers. -/
def run (r : Registry) : List Call → List Reply × Registry
  | [] => ([], r)
  | c :: rest =>
    let (reply, r) := r.call c
    let (replies, r) := r.run rest
    (reply :: replies, r)

end Registry

end Cancellation

end Duplex
