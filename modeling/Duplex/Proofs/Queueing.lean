import Duplex.Connection.Lock
import Mathlib.Data.List.Nodup

/-! # Fair locks as lines

  A fair lock is a line of parties, and the first one in the line holds the lock. Asking for the
  lock means to step to the end of the line, and giving it back or giving up means to leave the
  line, wherever one stands in it. Nobody is overtaken, and nobody stands in the line twice as
  long as nobody asks who stands in it already.
-/

namespace Duplex.Lock

variable {κ : Type}

/-- Those who have asked for the lock and have not left: the holder, and behind it the queue. -/
def line (l : Lock κ) : List κ := l.holder.toList ++ l.queue

/-- Nobody stands in the line twice, and a lock that nobody holds has no queue. -/
structure Orderly (l : Lock κ) : Prop where
  nodup : l.line.Nodup
  granted : l.holder = none → l.queue = []

variable {l : Lock κ} {k a : κ}

theorem orderly_free : ({} : Lock κ).Orderly := ⟨List.nodup_nil, fun _ => rfl⟩

theorem line_of_some (h : l.holder = some k) : l.line = k :: l.queue := by
  rw [line, h]
  rfl

theorem mem_line_of_holder (h : l.holder = some k) : k ∈ l.line := by
  rw [line_of_some h]
  exact List.mem_cons_self

theorem Orderly.line_of_none (h : l.Orderly) (hnone : l.holder = none) : l.line = [] := by
  rw [line, hnone, h.granted hnone]
  rfl

/-! ### Asking -/

/-- Asking takes the lock from nobody. -/
theorem holder_request_of_some (h : l.holder = some a) (k : κ) :
    (l.request k).holder = some a := by
  simp [request, h]

theorem holder_request_ne_none (l : Lock κ) (k : κ) : (l.request k).holder ≠ none := by
  cases h : l.holder with
  | none => simp [request, h]
  | some a => simp [request, h]

theorem Orderly.line_request (h : l.Orderly) (k : κ) : (l.request k).line = l.line ++ [k] := by
  cases hholder : l.holder with
  | none => simp [request, line, hholder, h.granted hholder]
  | some _ => simp [request, line, hholder]

theorem Orderly.request (h : l.Orderly) (hk : k ∉ l.line) : (l.request k).Orderly := by
  refine ⟨?_, fun hnone => absurd hnone (l.holder_request_ne_none k)⟩
  rw [h.line_request, List.nodup_append]
  refine ⟨h.nodup, List.nodup_singleton k, ?_⟩
  intro a ha b hb
  rw [List.mem_singleton.1 hb]
  exact fun hak => hk (hak ▸ ha)

/-! ### Leaving -/

variable [DecidableEq κ]

theorem heldBy_iff : l.heldBy k = true ↔ l.holder = some k := by
  simp [heldBy]

/-- Nobody but the holder gives the lock back. -/
theorem holder_release_of_ne (h : l.holder = some a) (hne : a ≠ k) :
    (l.release k).holder = some a := by
  simp [release, h, hne]

/-- The next one in the queue gets the lock. -/
theorem line_release_of_holder (h : l.holder = some k) : (l.release k).line = l.queue := by
  cases hqueue : l.queue <;> simp [release, line, h, hqueue]

theorem Orderly.line_release (h : l.Orderly) (k : κ) :
    (l.release k).line = l.line.filter (· ≠ k) := by
  by_cases hk : l.holder = some k
  · -- the holder does not stand in the queue as well, so only the front of the line goes
    have hnodup := h.nodup
    rw [line_of_some hk, List.nodup_cons] at hnodup
    have hrest : l.queue.filter (· ≠ k) = l.queue :=
      List.filter_eq_self.2 fun a ha => decide_eq_true fun hak => hnodup.1 (hak ▸ ha)
    rw [line_release_of_holder hk, line_of_some hk,
      List.filter_cons_of_neg (by simp), hrest]
  · -- somebody in the queue gives up, and the holder keeps the lock
    have hholder : (l.release k).holder = l.holder := by simp [release, hk]
    have hqueue : (l.release k).queue = l.queue.filter (· ≠ k) := by simp [release, hk]
    have hkept : l.holder.toList.filter (· ≠ k) = l.holder.toList := by
      refine List.filter_eq_self.2 fun a ha => decide_eq_true ?_
      rintro rfl
      exact hk (Option.mem_toList.1 ha)
    rw [line, hholder, hqueue, line, List.filter_append, hkept]

theorem Orderly.mem_line_release (h : l.Orderly) (k : κ) :
    a ∈ (l.release k).line ↔ a ∈ l.line ∧ a ≠ k := by
  simp [h.line_release]

theorem Orderly.release (h : l.Orderly) (k : κ) : (l.release k).Orderly := by
  constructor
  · rw [h.line_release]
    exact h.nodup.filter _
  · intro hnone
    unfold Lock.release at hnone ⊢
    split at hnone
    · next hholder =>
      rw [if_pos hholder]
      cases hqueue : l.queue with
      | nil => rfl
      | cons a rest => simp [hqueue] at hnone
    · next hholder =>
      rw [if_neg hholder]
      simp [h.granted hnone]

end Duplex.Lock
