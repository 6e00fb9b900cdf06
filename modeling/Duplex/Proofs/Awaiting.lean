import Duplex.Proofs.Tracking

/-! # What the teardown of a listener waits for

  The teardown of a listener disposes of the connections that it has taken from the list, and waits
  until the disposal of each of them is over, whoever has asked for it. But not every connection
  that the listener has handed out is on that list. Whenever a new one is tracked, those whose
  disposal was asked for are left out from then on, also where it is still under way. So the
  teardown may be over, and graceful, while a connection of the listener is still open
  (`graceful_before_overlooked`). This is the only way in which it misses one
  (`settled_or_overlooked`).
-/

namespace Duplex.Host

variable {timer : Timer} {h h' : Host} {l : Nat} {x y : Listener} {label : Label}
  {news : List (Fate × Nat)}

/-- Among these steps, on a machine with this timer, is one that tracks a connection of listener `l`
    and leaves out connection `c`, whose disposal is under way. -/
def Overlooked (timer : Timer) (labels : List Label) (l c : Nat) : Prop :=
  ∃ before i after h h' first second x y connection, labels = before ++ .track l i :: after ∧
    run? { timer } before = some (h, first) ∧ h.step? (.track l i) = some (h', second) ∧
    h.listeners[l]? = some x ∧ h'.listeners[l]? = some y ∧ c ∈ x.tracked ∧ c ∉ y.tracked ∧
    h.connections[c]? = some connection ∧ connection.coordinator.phase = .disposeRequested

theorem Overlooked.append {labels : List Label} {c : Nat} (hc : Overlooked timer labels l c)
    (more : List Label) : Overlooked timer (labels ++ more) l c := by
  obtain ⟨before, i, after, h, h', first, second, x, y, connection, rfl, hrest⟩ := hc
  exact ⟨before, i, after ++ more, h, h', first, second, x, y, connection, by simp, hrest⟩

/-! ### Coordinators of accepted connections -/

/-- The coordinators of these connections are sound. -/
def AllSound (h : Host) (connections : List Nat) : Prop :=
  ∀ c ∈ connections, ∀ connection, h.connections[c]? = some connection →
    connection.coordinator.Sound

namespace AllSound

variable {accepted : List Nat}

theorem step (hsound : AllSound h accepted) (hknown : ∀ c ∈ accepted, c < h.connections.length)
    (hforward : h.Forward h') (hstep : ListenerStep h h' l x label y news) :
    AllSound h' (accepted ++ told .accepted news) := by
  have hold : AllSound h' accepted := by
    intro c hc connection hconnection
    obtain ⟨old, hget⟩ : ∃ old, h.connections[c]? = some old :=
      ⟨_, List.getElem?_eq_getElem (hknown c hc)⟩
    obtain ⟨connection', hconnection', hmove⟩ := hforward c old hget
    rw [hconnection] at hconnection'
    cases hconnection'
    exact hmove.sound (hsound c hc old hget)
  cases hstep with
  | accepted accepts _ hnew =>
    obtain ⟨fresh, hfresh, hcoordinator⟩ := hnew
    intro c hc connection hconnection
    rcases List.mem_append.1 hc with hc | hc
    · exact hold c hc connection hconnection
    · cases List.mem_singleton.1 hc
      rw [hfresh] at hconnection
      cases hconnection
      rw [hcoordinator]
      simp [Coordinator.Sound]
  | _ =>
    rw [show told .accepted _ = [] from rfl, List.append_nil]
    exact hold

/-- A connection whose outcome was announced is disposed of. -/
theorem settled (hsound : AllSound h accepted) {c : Nat} (hc : c ∈ accepted)
    (ho : h.outcome c ≠ none) : h.Settled c := by
  unfold outcome at ho
  cases hconnection : h.connections[c]? with
  | none =>
    rw [hconnection] at ho
    exact absurd rfl ho
  | some connection =>
    rw [hconnection, Option.bind_some] at ho
    exact ⟨connection, hconnection, (hsound c hc connection hconnection).2 ho, ho⟩

end AllSound

/-! ### Connections that the teardown waits for -/

/-- The connections that a teardown waits for, or would wait for. -/
def awaited (x : Listener) : List Nat :=
  match x.teardown with
  | .absent | .requested | .deaf => x.tracked
  | .cascading _ taken => taken
  | .closing _ | .finished => []

/-- Unless the teardown is cut short it waits for each registered connection whose disposal is not
    over, if that one is not overlooked. -/
def Awaits (timer : Timer) (labels : List Label) (h : Host) (l : Nat) (x : Listener)
    (registered : List Nat) : Prop :=
  CutShort x ∨ ∀ c ∈ registered, c ∈ awaited x ∨ h.Settled c ∨ Overlooked timer labels l c

/-- What has an outcome for each of some connections has one for each. -/
theorem outcome_ne_none_of_mapM {taken : List Nat} {outcomes : List DisposeOutcome}
    (houtcomes : taken.mapM h.outcome = some outcomes) : ∀ c ∈ taken, h.outcome c ≠ none := by
  induction taken generalizing outcomes with
  | nil => simp
  | cons d taken ih =>
    simp only [List.mapM_cons, Option.bind_eq_bind, Option.bind_eq_some_iff] at houtcomes
    obtain ⟨o, ho, rest, hrest, -⟩ := houtcomes
    intro c hc
    rcases List.mem_cons.1 hc with rfl | hc
    · rw [ho]
      exact Option.some_ne_none o
    · exact ih hrest c hc

namespace Awaits

variable {labels : List Label} {registered : List Nat}

/-- A step that leaves alone what the teardown waits for. -/
theorem quiet (hx : Awaits timer labels h l x registered) (hforward : h.Forward h')
    (hcut : CutShort x → CutShort y) (hsame : awaited y = awaited x) :
    Awaits timer (labels ++ [label]) h' l y (registered ++ []) := by
  rw [List.append_nil]
  refine hx.imp hcut fun hall c hc => ?_
  rw [hsame]
  exact (hall c hc).imp_right
    (Or.imp hforward.settled fun hoverlooked => hoverlooked.append [label])

/-- A connection is tracked. Those that the list has no more are settled or overlooked. -/
theorem track {first others : List Effect}
    (hx : Awaits timer labels h l x (met .registered l first))
    (hrun : run? { timer } labels = some (h, first)) (hl : h.listeners[l]? = some x)
    (hsound : AllSound h (met .accepted l first)) {i c : Nat} {accepts : List Accept}
    (htoken : x.coordinator.token = false)
    (hflight : (inFlight x.accepts).Perm (c :: inFlight accepts))
    (hstep : h.step? (.track l i) = some (h', others))
    (hy : h'.listeners[l]? = some { x with accepts, tracked := h.trackWith x c }) :
    Awaits timer (labels ++ [.track l i]) h' l { x with accepts, tracked := h.trackWith x c }
      (met .registered l first ++ [c]) := by
  have hkeeps := keeps_run hrun hl
  have habsent : x.teardown = .absent := hkeeps.inStep.token_eq_false_iff.1 htoken
  have hforward := forward_step hstep
  have hbefore : awaited x = x.tracked := by simp [awaited, habsent]
  have hafter : awaited { x with accepts, tracked := h.trackWith x c } = h.trackWith x c := by
    simp [awaited, habsent]
  unfold Awaits at hx ⊢
  rw [hbefore] at hx
  rw [hafter]
  refine hx.imp id fun hall d hd => ?_
  rcases List.mem_append.1 hd with hd | hd
  · rcases hall d hd with hmem | hsettled | hoverlooked
    · cases hdisposed : h.isDisposed d with
      | false =>
        refine .inl (List.mem_append_left _ (List.mem_filter.2 ⟨hmem, ?_⟩))
        simp [hdisposed]
      | true =>
        -- it is left out of the list from now on
        obtain ⟨connection, hconnection, hk⟩ := isDisposed_eq_true_iff.1 hdisposed
        have haccepted : d ∈ met .accepted l first := by
          rw [hkeeps.accounts.fates.mem_iff]
          simp [hd]
        rcases (hsound d haccepted connection hconnection).settled_or hk with hsettled | hphase
        · exact .inr (.inl (hforward.settled ⟨connection, hconnection, hsettled⟩))
        · refine .inr (.inr ⟨labels, i, [], h, h', first, others, x, _, connection, rfl, hrun,
            hstep, hl, hy, hmem, ?_, hconnection, hphase⟩)
          have hne : d ≠ c :=
            hkeeps.accounts.ne_of_registered hd (hflight.mem_iff.2 List.mem_cons_self)
          simp [trackWith, hdisposed, hne]
    · exact .inr (.inl (hforward.settled hsettled))
    · exact .inr (.inr (hoverlooked.append _))
  · cases List.mem_singleton.1 hd
    exact .inl (List.mem_append_right _ (List.mem_singleton.2 rfl))

/-- All that the teardown has waited for is settled. -/
theorem joined (hx : Awaits timer labels h l x registered) (hforward : h.Forward h')
    {accepted taken : List Nat} (hsound : AllSound h accepted) (hsub : registered ⊆ accepted)
    {outcomes : List DisposeOutcome} (hteardown : x.teardown = .cascading [] taken)
    (houtcomes : taken.mapM h.outcome = some outcomes) (o : DisposeOutcome) :
    Awaits timer (labels ++ [label]) h' l { x with teardown := .closing o } (registered ++ []) := by
  rw [List.append_nil]
  rcases hx with hcut | hall
  · refine .inl (.inr (hcut.resolve_left ?_))
    simp [hteardown]
  · refine .inr fun c hc => ?_
    rcases hall c hc with hmem | hsettled | hoverlooked
    · -- an outcome is announced by a coordinator that is closed, so the disposal is over
      have htaken : c ∈ taken := by
        unfold awaited at hmem
        rw [hteardown] at hmem
        exact hmem
      have hsettled := hsound.settled (hsub hc) (outcome_ne_none_of_mapM houtcomes c htaken)
      exact .inr (.inl (hforward.settled hsettled))
    · exact .inr (.inl (hforward.settled hsettled))
    · exact .inr (.inr (hoverlooked.append _))

theorem step {first others : List Effect}
    (hx : Awaits timer labels h l x (met .registered l first))
    (hrun : run? { timer } labels = some (h, first)) (hl : h.listeners[l]? = some x)
    (hsound : AllSound h (met .accepted l first)) (hstep : h.step? label = some (h', others))
    (hy : h'.listeners[l]? = some y) (hmove : ListenerStep h h' l x label y news) :
    Awaits timer (labels ++ [label]) h' l y (met .registered l first ++ told .registered news) := by
  have hkeeps := keeps_run hrun hl
  have hforward := forward_step hstep
  have hcut (hteardown : x.teardown ≠ .closing .aborted) {y : Listener}
      (hcoordinator : y.coordinator = x.coordinator) (hshort : CutShort x) : CutShort y := by
    refine .inr ?_
    rw [hcoordinator]
    exact hshort.resolve_left hteardown
  cases hmove with
  | aside _ _ | accepted _ _ _ | refused _ _ _ _ _ => exact hx.quiet hforward id rfl
  | registered c accepts htoken hflight =>
    exact Awaits.track hx hrun hl hsound htoken hflight hstep hy
  | disposed =>
    rcases hkeeps.inStep.dispose_cases with ⟨habsent, hstarted⟩ | hsame
    · rw [hstarted]
      refine hx.quiet hforward ?_ (by simp [awaited, habsent])
      intro hshort
      exact absurd habsent (teardown_ne_absent_of_cutShort hkeeps.inStep hshort)
    · rw [hsame]
      exact hx.quiet hforward id rfl
  | deafened hteardown | taken hteardown | disposes hteardown _ =>
    refine hx.quiet hforward (hcut (by simp [hteardown]) rfl) ?_
    simp [awaited, hteardown]
  | joined hteardown houtcomes =>
    have hsub : met .registered l first ⊆ met .accepted l first := by
      intro c hc
      rw [hkeeps.accounts.fates.mem_iff]
      simp [hc]
    exact hx.joined hforward hsound hsub hteardown houtcomes _
  | published hteardown =>
    refine hx.quiet hforward ?_ (by simp [awaited, hteardown])
    rintro (hclosing | ho)
    · rw [hteardown] at hclosing
      cases hclosing
      exact .inr rfl
    · have hfinished := hkeeps.inStep.finished_of_outcome (by simp [ho])
      rw [hteardown] at hfinished
      cases hfinished
  | aborted _ => exact .inl (.inl rfl)

end Awaits

/-! ### Runs -/

section runs

variable {labels : List Label} {effects : List Effect}

theorem awaits_run (hrun : run? { timer } labels = some (h, effects))
    (hx : h.listeners[l]? = some x) :
    AllSound h (met .accepted l effects) ∧
      Awaits timer labels h l x (met .registered l effects) := by
  refine run_induction (P := fun labels h effects => ∀ x, h.listeners[l]? = some x →
    AllSound h (met .accepted l effects) ∧ Awaits timer labels h l x (met .registered l effects))
    ?_ ?_ hrun x hx
  · intro x hx
    cases hx
  · intro labels h₁ first label h₂ others hbefore hall hstep y hy
    cases hl : h₁.listeners[l]? with
    | none =>
      -- the listener has no connections yet
      have hnone (fate : Fate) : met fate l (first ++ others) = [] := by
        rw [met_append, met_eq_nil_of_run hbefore hl, (step_unlistened hstep hl).1, List.append_nil]
      rw [hnone, hnone]
      exact ⟨by simp [AllSound], .inr (by simp)⟩
    | some x =>
      obtain ⟨hsound, hawaits⟩ := hall x hl
      obtain ⟨z, news, hz, hmove, htold⟩ := step_listener hstep hl
      rw [hy] at hz
      cases hz
      rw [met_append, met_append, htold, htold]
      have hknown := (keeps_run hbefore hl).accounts.known
      exact ⟨hsound.step hknown (forward_step hstep) hmove,
        hawaits.step hbefore hl hsound hstep hy hmove⟩

/-- **The teardown of a listener waits for all connections but the overlooked ones.** When it has
    published its outcome, and was not cut short, the disposal of each connection that the listener
    has handed out has begun, and it is over unless the connection was overlooked. -/
theorem settled_or_overlooked (hrun : run? { timer } labels = some (h, effects))
    (hx : h.listeners[l]? = some x) (huninterrupted : .abort l ∉ labels)
    (ho : x.coordinator.outcome ≠ none) :
    ∀ c ∈ met .yielded l effects,
      h.isDisposed c = true ∧ (h.Settled c ∨ Overlooked timer labels l c) := by
  have hkeeps := keeps_run hrun hx
  have hfinished : x.teardown = .finished := hkeeps.inStep.finished_of_outcome ho
  have hwhole : ¬CutShort x := fun hshort => huninterrupted (hkeeps.blamesAbort hshort)
  intro c hc
  rw [hkeeps.yielded] at hc
  constructor
  · have hcovers := hkeeps.covers
    unfold Covers at hcovers
    rw [hfinished] at hcovers
    exact hcovers.resolve_left (fun haborted => hwhole (.inr haborted)) c hc
  · have hawaits := (awaits_run hrun hx).2.resolve_left hwhole c hc
    refine hawaits.resolve_left ?_
    simp [awaited, hfinished]

/-- The first connection is overlooked, since its own disposal is under way when the second one is
    tracked. So is that of the second one when the teardown begins, but that one is on the list and
    is waited for. -/
theorem settled_or_overlooked_of_three :
    let labels : List Label :=
      [.listen {} "here", .acceptAll 0 false,
        .pollAccept 0 0, .accept 0 0 (.accepted "here" "first"), .track 0 0,
        .connection 0 .dispose,
        .pollAccept 0 0, .accept 0 0 (.accepted "here" "second"), .track 0 0,
        .pollAccept 0 0, .accept 0 0 (.accepted "here" "third"), .track 0 0,
        .connection 1 .dispose, .dispose 0, .cascade 0, .cascade 0, .cascade 0, .cascade 0] ++
      orderlyClose 1 ++ orderlyClose 2 ++ [.cascade 0, .cascade 0]
    ∃ h effects x, run? {} labels = some (h, effects) ∧ h.listeners[0]? = some x ∧
      .abort 0 ∉ labels ∧ x.coordinator.outcome ≠ none ∧ met .yielded 0 effects = [0, 1, 2] ∧
      ∀ c ∈ met .yielded 0 effects,
        h.isDisposed c = true ∧ (h.Settled c ∨ Overlooked .ofTicks labels 0 c) :=
  ⟨_, _, _, rfl, rfl, by simp [orderlyClose], Option.some_ne_none DisposeOutcome.graceful, rfl,
    settled_or_overlooked rfl rfl (by simp [orderlyClose]) (Option.some_ne_none _)⟩

/-- The teardown of a listener may be over, and graceful, with no teardown cut short, while a
    connection that the listener has handed out is not closed and has no outcome. -/
theorem graceful_before_overlooked :
    let labels : List Label :=
      [.listen {} "here", .acceptAll 0 false,
        .pollAccept 0 0, .accept 0 0 (.accepted "here" "first"), .track 0 0,
        .connection 0 .dispose,
        .pollAccept 0 0, .accept 0 0 (.accepted "here" "second"), .track 0 0,
        .dispose 0, .cascade 0, .cascade 0, .cascade 0] ++
      orderlyClose 1 ++ [.cascade 0, .cascade 0]
    .abort 0 ∉ labels ∧ (∀ c, .connection c .abort ∉ labels) ∧
      ∃ h effects x connection, run? {} labels = some (h, effects) ∧ h.listeners[0]? = some x ∧
        x.coordinator.outcome = some .graceful ∧ met .yielded 0 effects = [0, 1] ∧
        h.connections[0]? = some connection ∧
        connection.coordinator.phase = .disposeRequested ∧ connection.coordinator.outcome = none :=
  ⟨by simp [orderlyClose], by simp [orderlyClose], _, _, _, _, rfl, rfl, rfl, rfl, rfl, rfl, rfl⟩

end runs

end Duplex.Host
