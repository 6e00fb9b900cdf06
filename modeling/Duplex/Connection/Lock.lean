/-! # Fair locks

  A lock that is granted in the order in which it was asked for. When it is released it goes
  to the next in the queue at once, whether or not that one is ever heard of again.
-/

namespace Duplex

/-- A lock that parties `κ` ask for. -/
structure Lock (κ : Type) where
  /-- Who holds the lock. -/
  holder : Option κ := none
  /-- Who waits for it, first come first. -/
  queue : List κ := []
  deriving DecidableEq, Repr

namespace Lock

variable {κ : Type} [DecidableEq κ]

/-- Asks for the lock: it is granted at once if it is free. -/
def request (l : Lock κ) (k : κ) : Lock κ :=
  match l.holder with
  | none => { l with holder := some k }
  | some _ => { l with queue := l.queue ++ [k] }

/-- Gives the lock back, or no longer waits for it. -/
def release (l : Lock κ) (k : κ) : Lock κ :=
  if l.holder = some k then { holder := l.queue.head?, queue := l.queue.tail }
  else { l with queue := l.queue.filter (· ≠ k) }

/-- Whether `k` holds the lock. -/
def heldBy (l : Lock κ) (k : κ) : Bool := l.holder = some k

end Lock

end Duplex
