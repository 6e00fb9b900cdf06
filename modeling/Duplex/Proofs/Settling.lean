import Duplex.Host.Step
import Duplex.Proofs.Receiving

/-! # Disposals go forward

  Whatever happens on a host, the disposal of a connection only goes forward: once it was asked
  for it stays asked for, and once it is over it stays over. A step leaves the coordinator of a
  connection alone, asks for its disposal or publishes an outcome (`Coordinator.Move`), and all
  that a run keeps is read off these three moves.
-/

namespace Duplex

/-! ### Coordinators -/

namespace Coordinator

variable {k k' : Coordinator}

/-- What a step can make of a coordinator. -/
inductive Move (k : Coordinator) : Coordinator → Prop where
  /-- Nothing. -/
  | rest : k.Move k
  /-- The disposal is asked for, perhaps once more. -/
  | request : k.Move k.request.2
  /-- The teardown has ended. -/
  | publish (o : DisposeOutcome) : k.Move (k.publish o)

/-- The coordinator is closed where an outcome was announced, and only there. -/
def Sound (k : Coordinator) : Prop := k.phase = .disposed ↔ k.outcome ≠ none

/-- The disposal is over: the coordinator is closed, and the outcome was announced. -/
structure Settled (k : Coordinator) : Prop where
  phase : k.phase = .disposed
  outcome : k.outcome ≠ none

theorem isDisposed_iff : k.isDisposed = true ↔ k.phase ≠ .active := by
  simp [isDisposed]

theorem isDisposed_request (k : Coordinator) : k.request.2.isDisposed = true := by
  by_cases hactive : k.phase = .active
  · rw [request_of_active hactive]
    rfl
  · rw [request_of_not_active hactive]
    exact isDisposed_iff.2 hactive

theorem Settled.isDisposed (h : k.Settled) : k.isDisposed = true := by
  rw [isDisposed_iff, h.phase]
  decide

theorem Move.isDisposed (hmove : k.Move k') (h : k.isDisposed = true) : k'.isDisposed = true := by
  cases hmove with
  | rest => exact h
  | request => exact k.isDisposed_request
  | publish o => rfl

theorem Move.settled (hmove : k.Move k') (h : k.Settled) : k'.Settled := by
  cases hmove with
  | rest => exact h
  | request =>
    rw [request_of_not_active (isDisposed_iff.1 h.isDisposed)]
    exact h
  | publish o => exact ⟨rfl, Option.some_ne_none o⟩

theorem Move.sound (hmove : k.Move k') (h : k.Sound) : k'.Sound := by
  cases hmove with
  | rest => exact h
  | request =>
    by_cases hactive : k.phase = .active
    · -- nothing was announced yet, since the coordinator is not closed
      have hnone : k.outcome = none := by
        refine Classical.byContradiction fun hsome => ?_
        rw [h.2 hsome] at hactive
        cases hactive
      rw [request_of_active hactive]
      simp [Sound, hnone]
    · rw [request_of_not_active hactive]
      exact h
  | publish o => exact ⟨fun _ => Option.some_ne_none o, fun _ => rfl⟩

/-- A disposal that was asked for is over or under way. -/
theorem Sound.settled_or (h : k.Sound) (hk : k.isDisposed = true) :
    k.Settled ∨ k.phase = .disposeRequested := by
  cases hphase : k.phase with
  | active => exact absurd hphase (isDisposed_iff.1 hk)
  | disposeRequested => exact .inr rfl
  | disposed => exact .inl ⟨hphase, h.1 hphase⟩

end Coordinator

/-! ### Connections -/

namespace Connection

theorem coordinator_dispose (c : Connection) :
    c.dispose.coordinator = c.coordinator.request.2 := by
  unfold dispose
  by_cases hactive : c.coordinator.phase = .active
  · rw [Coordinator.request_of_active hactive]
  · rw [Coordinator.request_of_not_active hactive]

/-- What a step of a connection does to its coordinator. -/
theorem coordinator_step {c c' : Connection} {l : Label} {effects : List Effect}
    (h : c.step? l = some (c', effects)) : c.coordinator.Move c'.coordinator := by
  cases step_kind h with
  | aside _ haside =>
    rw [show c'.coordinator = c.coordinator from haside.coordinator]
    exact .rest
  | receive _ _ _ _ _ _ _ hreceived =>
    rw [show c'.coordinator = c.coordinator from hreceived.coordinator]
    exact .rest
  | new _ _ hnew =>
    cases hnew
    exact .rest
  | dispose _ hdispose =>
    cases hdispose
    rw [coordinator_dispose]
    exact .request
  | torn _ htorn =>
    rcases htorn.coordinator with hsame | ⟨o, hpublished⟩
    · rw [show c'.coordinator = c.coordinator from hsame]
      exact .rest
    · rw [show c'.coordinator = c.coordinator.publish o from hpublished]
      exact .publish o

end Connection

/-! ### Hosts -/

namespace Host

variable {h h' : Host}

/-- The disposal of connection `c` is over. -/
def Settled (h : Host) (c : Nat) : Prop :=
  ∃ connection, h.connections[c]? = some connection ∧ connection.coordinator.Settled

/-- All connections of the first host are there in the second one, and their disposals have gone
    forward by a move at most. -/
def Forward (h h' : Host) : Prop :=
  ∀ (c : Nat) (x : Connection), h.connections[c]? = some x →
    ∃ x', h'.connections[c]? = some x' ∧ x.coordinator.Move x'.coordinator

theorem forward_of_eq (hsame : h'.connections = h.connections) : h.Forward h' := by
  intro c x hx
  rw [hsame]
  exact ⟨x, hx, .rest⟩

theorem forward_of_append {connection : Connection}
    (hnew : h'.connections = h.connections ++ [connection]) : h.Forward h' := by
  intro c x hx
  refine ⟨x, ?_, .rest⟩
  rw [hnew, List.getElem?_append_left (List.getElem?_eq_some_iff.1 hx).1]
  exact hx

theorem forward_modifyConnection {c : Nat} {f : Connection → Connection}
    (hf : ∀ x, h.connections[c]? = some x → x.coordinator.Move (f x).coordinator) :
    h.Forward (h.modifyConnection c f) := by
  intro d x hx
  have hget : (h.modifyConnection c f).connections[d]? = some (if c = d then f x else x) := by
    simp [modifyConnection, List.getElem?_modify, hx]
  refine ⟨_, hget, ?_⟩
  split
  · next hcd => exact hf x (hcd ▸ hx)
  · exact .rest

theorem forward_dispose (h : Host) (c : Nat) :
    h.Forward (h.modifyConnection c Connection.dispose) := by
  apply forward_modifyConnection
  intro x _
  rw [Connection.coordinator_dispose]
  exact .request

theorem Forward.length_le (hforward : h.Forward h') :
    h.connections.length ≤ h'.connections.length := by
  refine Nat.le_of_not_lt fun hlt => ?_
  obtain ⟨x', hx', -⟩ := hforward h'.connections.length _ (List.getElem?_eq_getElem hlt)
  exact absurd (List.getElem?_eq_some_iff.1 hx').1 (Nat.lt_irrefl _)

theorem isDisposed_eq_true_iff {c : Nat} : h.isDisposed c = true ↔
    ∃ x, h.connections[c]? = some x ∧ x.coordinator.isDisposed = true := by
  simp only [isDisposed, Option.any_eq_true_iff_get, Connection.isDisposed]
  constructor
  · rintro ⟨hsome, hdisposed⟩
    exact ⟨_, (Option.some_get hsome).symm, hdisposed⟩
  · rintro ⟨x, hx, hdisposed⟩
    simp [hx, hdisposed]

theorem Forward.isDisposed (hforward : h.Forward h') {c : Nat} (hc : h.isDisposed c = true) :
    h'.isDisposed c = true := by
  obtain ⟨x, hx, hdisposed⟩ := isDisposed_eq_true_iff.1 hc
  obtain ⟨x', hx', hmove⟩ := hforward c x hx
  exact isDisposed_eq_true_iff.2 ⟨x', hx', hmove.isDisposed hdisposed⟩

theorem Forward.settled (hforward : h.Forward h') {c : Nat} (hc : h.Settled c) : h'.Settled c := by
  obtain ⟨x, hx, hsettled⟩ := hc
  obtain ⟨x', hx', hmove⟩ := hforward c x hx
  exact ⟨x', hx', hmove.settled hsettled⟩

/-- Asking for the disposal of a connection has it asked for. -/
theorem isDisposed_modifyConnection {c : Nat} (hc : c < h.connections.length) :
    (h.modifyConnection c Connection.dispose).isDisposed c = true := by
  have hget : (h.modifyConnection c Connection.dispose).connections[c]? =
      some (h.connections[c]).dispose := by
    simp [modifyConnection, List.getElem?_eq_getElem hc]
  refine isDisposed_eq_true_iff.2 ⟨_, hget, ?_⟩
  rw [Connection.coordinator_dispose]
  exact Coordinator.isDisposed_request _

end Host

end Duplex
