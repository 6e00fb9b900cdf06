/-! # Sources

  A source is polled for its next item. A poll answers an item, a failure, the end,
  or that nothing is there yet. Nothing obliges a source to stay at its end: what
  follows a failure or an end can still be polled.

  A `Script` is the source whose answers are written down beforehand. The class
  `Source` asks for a bound on the polls that lead to a failure or an end, so that a
  loop which polls until then ends.
-/

namespace Duplex

/-- What a poll answers. -/
inductive Polled (α ε : Type) where
  /-- Nothing is there yet. -/
  | pending
  /-- The next item. -/
  | next (item : α)
  /-- The source has failed. -/
  | failed (error : ε)
  /-- The source has ended. -/
  | ended
  deriving DecidableEq, Repr

/-- Whether a subscription is over with this answer. -/
def Polled.isFinal {α ε : Type} : Polled α ε → Bool
  | .pending | .next _ => false
  | .failed _ | .ended => true

/-- A source of items `α` that fails with errors `ε`, and that gives at most `left` more
    answers before a failure or an end. -/
class Source (σ : Type) (α ε : outParam Type) where
  /-- Polls once. -/
  poll : σ → Polled α ε × σ
  /-- A bound on the answers before a failure or an end. -/
  left : σ → Nat
  /-- Each answer that is no failure and no end lowers the bound. -/
  poll_left : ∀ s, (poll s).1.isFinal = false → left (poll s).2 < left s

/-- A source that gives the answers of a list, and ends for good after them. -/
structure Script (α ε : Type) where
  /-- The answers still to be given. -/
  answers : List (Polled α ε)
  /-- How many polls were answered by something else than `pending`. -/
  pulled : Nat := 0

namespace Script

variable {α ε : Type}

/-- Polls once. -/
def poll : Script α ε → Polled α ε × Script α ε
  | ⟨[], n⟩ => (.ended, ⟨[], n + 1⟩)
  | ⟨.pending :: rest, n⟩ => (.pending, ⟨rest, n⟩)
  | ⟨answer :: rest, n⟩ => (answer, ⟨rest, n + 1⟩)

theorem poll_length (s : Script α ε) (h : s.answers ≠ []) :
    s.poll.2.answers.length + 1 = s.answers.length := by
  match s with
  | ⟨[], _⟩ => exact absurd rfl h
  | ⟨answer :: rest, _⟩ => cases answer <;> rfl

theorem answers_ne_nil_of_poll {s : Script α ε} (h : s.poll.1.isFinal = false) :
    s.answers ≠ [] := by
  match s with
  | ⟨[], _⟩ => cases h
  | ⟨_ :: _, _⟩ => exact List.cons_ne_nil _ _

instance : Source (Script α ε) α ε where
  poll := poll
  left s := s.answers.length
  poll_left s h := by
    have := poll_length s (answers_ne_nil_of_poll h)
    omega

end Script

end Duplex
