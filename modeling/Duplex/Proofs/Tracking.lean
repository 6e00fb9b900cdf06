import Duplex.Proofs.ListenerSteps

/-! # No accepted connection is lost

  A listener that is disposed of must leave nothing open behind it, however many accept streams
  are under way meanwhile. The argument rests on the order of two steps. The token fires before
  the teardown takes the tracked connections, and a stream asks for the token in the step in which
  it would register its connection. So what is registered is registered before the teardown takes
  the list, and it is on that list or somebody disposes of it already (`Covers`). What comes later
  is refused, and its own stream disposes of it.

  Every accepted connection is at one place at a time: about to be tracked, registered, or refused
  (`Accounts`). `noneLost_of_run` puts this together for each state of each run.

  A request for disposal moves the phase and fires the token in one step here. Nothing could tell
  what lies in between: an accept stream asks its listener for the token alone, and whoever looks
  at the list asks its connections for the phase alone.
-/

namespace Duplex

/-! ### The disposal of a listener -/

theorem Listener.dispose_of_active {x : Listener} (h : x.coordinator.phase = .active) :
    x.dispose =
      { x with coordinator := { x.coordinator with phase := .disposeRequested, token := true },
               teardown := .requested } := by
  unfold dispose
  rw [Coordinator.request_of_active h]

theorem Listener.dispose_of_not_active {x : Listener} (h : x.coordinator.phase ≠ .active) :
    x.dispose = x := by
  unfold dispose
  rw [Coordinator.request_of_not_active h]

/-- How the coordinator of a listener stands, by how far its teardown has come. -/
def Listener.InStep (x : Listener) : Prop :=
  match x.teardown with
  | .absent => x.coordinator = {}
  | .requested | .deaf | .cascading _ _ | .closing _ =>
    x.coordinator = { phase := .disposeRequested, token := true }
  | .finished => ∃ o, x.coordinator = { phase := .disposed, token := true, outcome := some o }

namespace Listener.InStep

variable {x : Listener}

/-- The token has fired where the teardown was started, and only there. -/
theorem token_eq_false_iff (hx : x.InStep) :
    x.coordinator.token = false ↔ x.teardown = .absent := by
  unfold InStep at hx
  split at hx
  case h_6 hteardown =>
    obtain ⟨o, hcoordinator⟩ := hx
    simp [hteardown, hcoordinator]
  all_goals
    next hteardown => simp [hteardown, hx]

theorem isDisposed_eq (hx : x.InStep) : x.isDisposed = x.coordinator.token := by
  unfold InStep at hx
  split at hx
  case h_6 =>
    obtain ⟨o, hcoordinator⟩ := hx
    simp [Listener.isDisposed, Coordinator.isDisposed, hcoordinator]
  all_goals simp [Listener.isDisposed, Coordinator.isDisposed, hx]

theorem finished_of_outcome (hx : x.InStep) (ho : x.coordinator.outcome ≠ none) :
    x.teardown = .finished := by
  unfold InStep at hx
  split at hx
  case h_6 hteardown => exact hteardown
  all_goals
    rw [hx] at ho
    exact absurd rfl ho

/-- The first request starts the teardown, and later ones change nothing. -/
theorem dispose_cases (hx : x.InStep) :
    x.teardown = .absent ∧ x.dispose =
        { x with coordinator := { phase := .disposeRequested, token := true },
                 teardown := .requested } ∨
      x.dispose = x := by
  by_cases hactive : x.coordinator.phase = .active
  · have htoken : x.coordinator.token = false := by
      rw [← hx.isDisposed_eq]
      simp [Listener.isDisposed, Coordinator.isDisposed, hactive]
    have habsent : x.teardown = .absent := hx.token_eq_false_iff.1 htoken
    have hcoordinator : x.coordinator = {} := by
      unfold InStep at hx
      rw [habsent] at hx
      exact hx
    refine .inl ⟨habsent, ?_⟩
    rw [dispose_of_active hactive, hcoordinator]
  · exact .inr (dispose_of_not_active hactive)

end Listener.InStep

namespace Host

variable {timer : Timer} {h h' : Host} {l : Nat} {x y : Listener} {label : Label}
  {news : List (Fate × Nat)}

theorem inStep_step (hx : x.InStep) (hstep : ListenerStep h h' l x label y news) : y.InStep := by
  cases hstep with
  | aside _ _ | accepted _ _ _ | registered _ _ _ _ | refused _ _ _ _ _ => exact hx
  | disposed =>
    rcases hx.dispose_cases with ⟨-, hstarted⟩ | hsame
    · rw [hstarted]
      exact rfl
    · rw [hsame]
      exact hx
  | deafened hteardown | taken hteardown | disposes hteardown _ | joined hteardown _ =>
    unfold Listener.InStep at hx
    rw [hteardown] at hx
    exact hx
  | @published o hteardown =>
    unfold Listener.InStep at hx
    rw [hteardown] at hx
    refine ⟨o, ?_⟩
    show x.coordinator.publish o = _
    rw [show x.coordinator = _ from hx]
    rfl
  | aborted hteardown =>
    unfold Listener.InStep at hx
    rcases hteardown with hteardown | hteardown | ⟨rest, taken, hteardown⟩ <;>
      (rw [hteardown] at hx; exact hx)

/-! ### Each connection is at one place -/

/-- The connections that listener `x` has accepted: each of them once, and each is about to be
    tracked, or was registered, or was refused. -/
structure Accounts (h : Host) (x : Listener) (accepted registered refused : List Nat) : Prop where
  known : ∀ c ∈ accepted, c < h.connections.length
  once : accepted.Nodup
  fates : accepted.Perm (inFlight x.accepts ++ (registered ++ refused))

namespace Accounts

variable {accepted registered refused : List Nat}

theorem known_of_registered (hx : Accounts h x accepted registered refused) {c : Nat}
    (hc : c ∈ registered) : c < h.connections.length := by
  apply hx.known
  rw [hx.fates.mem_iff]
  simp [hc]

/-- What was registered is not in flight any more. -/
theorem ne_of_registered (hx : Accounts h x accepted registered refused) {c d : Nat}
    (hd : d ∈ registered) (hc : c ∈ inFlight x.accepts) : d ≠ c := by
  have hnodup := hx.fates.nodup_iff.1 hx.once
  rw [List.nodup_append] at hnodup
  exact (hnodup.2.2 c hc d (List.mem_append_left _ hd)).symm

theorem known_of_inFlight (hx : Accounts h x accepted registered refused) {c : Nat}
    (hc : c ∈ inFlight x.accepts) : c < h.connections.length := by
  apply hx.known
  rw [hx.fates.mem_iff]
  simp [hc]

/-- Nothing becomes of any connection. -/
theorem quiet (hx : Accounts h x accepted registered refused) (hforward : h.Forward h')
    (hflight : inFlight y.accepts = inFlight x.accepts) :
    Accounts h' y (accepted ++ []) (registered ++ []) (refused ++ []) := by
  simp only [List.append_nil]
  refine ⟨?_, hx.once, ?_⟩
  · intro c hc
    exact Nat.lt_of_lt_of_le (hx.known c hc) hforward.length_le
  · rw [hflight]
    exact hx.fates

/-- A connection that was in flight is put among the others. -/
theorem placed (hx : Accounts h x accepted registered refused) {c : Nat} {accepts : List Accept}
    (hflight : (inFlight x.accepts).Perm (c :: inFlight accepts)) {before after : List Nat}
    (hothers : before ++ after = registered ++ refused) :
    accepted.Perm (inFlight accepts ++ (before ++ c :: after)) := by
  calc List.Perm accepted (inFlight x.accepts ++ (registered ++ refused)) := hx.fates
    List.Perm _ (c :: inFlight accepts ++ (before ++ after)) := by
        rw [hothers]
        exact hflight.append_right _
    List.Perm _ (inFlight accepts ++ (before ++ c :: after)) := by
        rw [← List.append_assoc, List.cons_append, ← List.append_assoc]
        exact List.perm_middle.symm

theorem step (hx : Accounts h x accepted registered refused) (hforward : h.Forward h')
    (hstep : ListenerStep h h' l x label y news) :
    Accounts h' y (accepted ++ told .accepted news) (registered ++ told .registered news)
      (refused ++ told .refused news) := by
  have hknown (c : Nat) (hc : c ∈ accepted) : c < h'.connections.length :=
    Nat.lt_of_lt_of_le (hx.known c hc) hforward.length_le
  cases hstep with
  | aside _ hflight => exact hx.quiet hforward hflight
  | accepted accepts hflight hnew =>
    obtain ⟨connection, hconnection, -⟩ := hnew
    have hfresh : h.connections.length ∉ accepted := fun hmem => Nat.lt_irrefl _ (hx.known _ hmem)
    refine ⟨?_, ?_, ?_⟩
    · intro c hc
      rcases List.mem_append.1 hc with hold | hnew
      · exact hknown c hold
      · rw [List.mem_singleton.1 hnew]
        exact (List.getElem?_eq_some_iff.1 hconnection).1
    · exact (List.perm_append_singleton _ _).nodup_iff.2 (List.nodup_cons.2 ⟨hfresh, hx.once⟩)
    · show (accepted ++ [_]).Perm (inFlight accepts ++ ((registered ++ []) ++ (refused ++ [])))
      simp only [List.append_nil]
      calc List.Perm (accepted ++ [h.connections.length]) (h.connections.length :: accepted) :=
            List.perm_append_singleton _ _
        List.Perm _ (h.connections.length :: (inFlight x.accepts ++ (registered ++ refused))) :=
            hx.fates.cons _
        List.Perm _ (inFlight accepts ++ (registered ++ refused)) := hflight.symm.append_right _
  | registered c accepts _ hflight =>
    have hplaced := hx.placed hflight rfl
    exact ⟨by simpa using hknown, by simpa using hx.once, by simpa using hplaced⟩
  | refused c accepts _ hflight _ =>
    have hplaced := hx.placed hflight (List.append_nil (registered ++ refused))
    exact ⟨by simpa using hknown, by simpa using hx.once, by simpa using hplaced⟩
  | disposed =>
    refine hx.quiet hforward ?_
    unfold Listener.dispose
    split <;> rfl
  | deafened _ | taken _ | disposes _ _ | joined _ _ | published _ | aborted _ =>
    exact hx.quiet hforward rfl

end Accounts

/-! ### The teardown finds what was registered -/

/-- What the teardown of listener `x` has to know of the connections that were registered. Until
    it takes the list, the list has those whose disposal has not begun; then those are among the
    ones that it is about to dispose of; and when it has done so there are none. -/
def Covers (h : Host) (x : Listener) (registered : List Nat) : Prop :=
  match x.teardown with
  | .absent | .requested | .deaf =>
    x.tracked.filter (fun c => !h.isDisposed c) = registered.filter fun c => !h.isDisposed c
  | .cascading rest _ => ∀ c ∈ registered, h.isDisposed c = true ∨ c ∈ rest
  | .closing o => o = .aborted ∨ ∀ c ∈ registered, h.isDisposed c = true
  | .finished => x.coordinator.outcome = some .aborted ∨ ∀ c ∈ registered, h.isDisposed c = true

namespace Covers

variable {registered : List Nat}

/-- Two filters in turn, where the second one lets fewer through. -/
theorem filter_isDisposed (hforward : h.Forward h') (connections : List Nat) :
    (connections.filter fun c => !h.isDisposed c).filter (fun c => !h'.isDisposed c) =
      connections.filter fun c => !h'.isDisposed c := by
  rw [List.filter_filter]
  apply List.filter_congr
  intro c _
  cases hc : h.isDisposed c with
  | false => simp
  | true => simp [hforward.isDisposed hc]

/-- A registered connection is on the list, or its disposal has begun. -/
theorem isDisposed_or_mem {tracked : List Nat}
    (hsame : tracked.filter (fun c => !h.isDisposed c) =
      registered.filter fun c => !h.isDisposed c) :
    ∀ c ∈ registered, h.isDisposed c = true ∨ c ∈ tracked := by
  intro c hc
  cases hdisposed : h.isDisposed c with
  | true => exact .inl rfl
  | false =>
    have hmem : c ∈ registered.filter fun c => !h.isDisposed c := by simp [hc, hdisposed]
    rw [← hsame] at hmem
    exact .inr (List.mem_filter.1 hmem).1

/-- Disposals that go on do not make the teardown's work harder. -/
theorem forward (hx : Covers h x registered) (hforward : h.Forward h') :
    Covers h' x registered := by
  have hdisposed (hall : ∀ c ∈ registered, h.isDisposed c = true) :
      ∀ c ∈ registered, h'.isDisposed c = true := fun c hc => hforward.isDisposed (hall c hc)
  unfold Covers at hx ⊢
  split at hx
  case h_4 => exact fun c hc => (hx c hc).imp_left hforward.isDisposed
  case h_5 => exact hx.imp_right hdisposed
  case h_6 => exact hx.imp_right hdisposed
  all_goals
    rw [← filter_isDisposed hforward, hx]
    exact filter_isDisposed hforward registered

theorem step (hx : Covers h x registered) (hinStep : x.InStep) (hforward : h.Forward h')
    (hknown : ∀ c ∈ registered, c < h.connections.length)
    (hstep : ListenerStep h h' l x label y news) :
    Covers h' y (registered ++ told .registered news) := by
  have hx' : Covers h' x registered := hx.forward hforward
  cases hstep with
  | aside _ _ | accepted _ _ _ | refused _ _ _ _ _ =>
    show Covers h' _ (registered ++ [])
    rw [List.append_nil]
    exact hx'
  | registered c accepts htoken _ =>
    have habsent : x.teardown = .absent := hinStep.token_eq_false_iff.1 htoken
    unfold Covers at hx' ⊢
    rw [habsent] at hx' ⊢
    -- the list is pruned of disposed connections only, and the filter lets none of those through
    show (h.trackWith x c).filter _ = (registered ++ [c]).filter _
    rw [trackWith, List.filter_append, List.filter_append, filter_isDisposed hforward, hx']
  | disposed =>
    rw [told_nil, List.append_nil]
    rcases hinStep.dispose_cases with ⟨habsent, hstarted⟩ | hsame
    · rw [hstarted]
      unfold Covers at hx' ⊢
      rw [habsent] at hx'
      exact hx'
    · rw [hsame]
      exact hx'
  | deafened hteardown =>
    rw [told_nil, List.append_nil]
    unfold Covers at hx' ⊢
    rw [hteardown] at hx'
    exact hx'
  | taken hteardown =>
    -- what the list does not have needs no disposal any more
    rw [told_nil, List.append_nil]
    unfold Covers at hx' ⊢
    rw [hteardown] at hx'
    exact isDisposed_or_mem hx'
  | @disposes d rest taken hteardown hdisposed =>
    rw [told_nil, List.append_nil]
    unfold Covers at hx' ⊢
    rw [hteardown] at hx'
    intro c hc
    rcases hx' c hc with hdone | hmem
    · exact .inl hdone
    · rcases List.mem_cons.1 hmem with rfl | hrest
      · exact .inl (hdisposed (hknown c hc))
      · exact .inr hrest
  | joined hteardown _ =>
    rw [told_nil, List.append_nil]
    unfold Covers at hx' ⊢
    rw [hteardown] at hx'
    refine .inr fun c hc => (hx' c hc).resolve_right ?_
    simp
  | published hteardown =>
    rw [told_nil, List.append_nil]
    unfold Covers at hx' ⊢
    rw [hteardown] at hx'
    exact hx'.imp_left (congrArg some)
  | aborted _ => exact .inl rfl

end Covers

/-- The teardown of a listener was cut short. -/
def CutShort (x : Listener) : Prop :=
  x.teardown = .closing .aborted ∨ x.coordinator.outcome = some .aborted

theorem teardown_ne_absent_of_cutShort (hx : x.InStep) (hshort : CutShort x) :
    x.teardown ≠ .absent := by
  rcases hshort with hclosing | ho
  · simp [hclosing]
  · simp [hx.finished_of_outcome (by simp [ho])]

/-- The teardown of listener `l` was cut short by one of these steps, if at all. -/
def BlamesAbort (labels : List Label) (l : Nat) (x : Listener) : Prop :=
  CutShort x → .abort l ∈ labels

theorem cascadeOutcome_ne_aborted (outcomes : List DisposeOutcome) :
    cascadeOutcome outcomes ≠ .aborted := by
  unfold cascadeOutcome
  split <;> simp

theorem blamesAbort_step {labels : List Label} (hx : BlamesAbort labels l x) (hinStep : x.InStep)
    (hstep : ListenerStep h h' l x label y news) : BlamesAbort (labels ++ [label]) l y := by
  have hold (haborted : CutShort x) : Label.abort l ∈ labels ++ [label] :=
    List.mem_append_left _ (hx haborted)
  cases hstep with
  | aside _ _ | accepted _ _ _ | registered _ _ _ _ | refused _ _ _ _ _ => exact hold
  | disposed =>
    intro haborted
    rcases hinStep.dispose_cases with ⟨-, hstarted⟩ | hsame
    · rw [hstarted] at haborted
      rcases haborted with hclosing | houtcome
      · cases hclosing
      · cases houtcome
    · rw [hsame] at haborted
      exact hold haborted
  | deafened _ | taken _ | disposes _ _ =>
    intro haborted
    exact hold (haborted.imp_left fun hclosing => by cases hclosing)
  | joined _ _ =>
    -- what the teardown joins on may have been aborted, but not the teardown itself
    intro haborted
    refine hold (haborted.imp_left fun hclosing => ?_)
    exact absurd (ListenerTeardown.closing.inj hclosing) (cascadeOutcome_ne_aborted _)
  | published hteardown =>
    rintro (hclosing | houtcome)
    · cases hclosing
    · cases houtcome
      exact hold (.inl hteardown)
  | aborted _ => exact fun _ => List.mem_append_right _ (List.mem_singleton.2 rfl)

/-! ### After the token -/

/-- Once the token has fired it stays so, nothing is registered, and what the teardown has emptied
    stays empty. -/
structure Shut (x y : Listener) (registered : List Nat) : Prop where
  token : y.coordinator.token = true
  registered : registered = []
  tracked : x.tracked = [] → y.tracked = []

theorem shut_step (hx : x.coordinator.token = true)
    (hstep : ListenerStep h h' l x label y news) : Shut x y (told .registered news) := by
  cases hstep with
  | aside _ _ | accepted _ _ _ | refused _ _ _ _ _ | deafened _ | disposes _ _ | joined _ _
  | published _ | aborted _ => exact ⟨hx, rfl, id⟩
  | registered _ _ htoken _ =>
    rw [hx] at htoken
    cases htoken
  | disposed =>
    by_cases hactive : x.coordinator.phase = .active
    · rw [Listener.dispose_of_active hactive]
      exact ⟨rfl, rfl, id⟩
    · rw [Listener.dispose_of_not_active hactive]
      exact ⟨hx, rfl, id⟩
  | taken _ => exact ⟨hx, rfl, fun _ => rfl⟩

theorem shut_run {after : List Label} {more : List Effect} (hrun : h.run? after = some (h', more))
    (hx : h.listeners[l]? = some x) (htoken : x.coordinator.token = true) :
    ∃ y, h'.listeners[l]? = some y ∧ Shut x y (met .registered l more) := by
  -- by induction on the steps after the token; each of them finds the token fired
  refine run_induction (P := fun _ h' more =>
    ∃ y, h'.listeners[l]? = some y ∧ Shut x y (met .registered l more)) ?_ ?_ hrun
  · exact ⟨x, hx, htoken, rfl, id⟩
  · rintro - h₁ first label h₂ others - ⟨y, hy, hshut⟩ hstep
    obtain ⟨z, news, hz, hmove, htold⟩ := step_listener hstep hy
    have hlast := shut_step hshut.token hmove
    refine ⟨z, hz, hlast.token, ?_, fun hempty => hlast.tracked (hshut.tracked hempty)⟩
    rw [met_append, htold, hshut.registered, hlast.registered]
    rfl

/-! ### Runs -/

/-- What a listener and its connections keep, wherever the steps `labels` have led to with these
    effects. -/
structure Keeps (labels : List Label) (h : Host) (effects : List Effect) (l : Nat) (x : Listener) :
    Prop where
  accounts : Accounts h x (met .accepted l effects) (met .registered l effects)
    (met .refused l effects)
  yielded : met .yielded l effects = met .registered l effects
  refused : ∀ c ∈ met .refused l effects, h.isDisposed c = true
  inStep : x.InStep
  covers : Covers h x (met .registered l effects)
  blamesAbort : BlamesAbort labels l x

/-- A listener is new. -/
theorem keeps_new {labels : List Label} {effects : List Effect} (config : SocketConfig)
    (localAddress : String) (hnone : ∀ fate, met fate l effects = []) :
    Keeps labels h effects l { config, localAddress } := by
  refine ⟨?_, ?_, ?_, rfl, ?_, ?_⟩
  · simp only [hnone]
    exact ⟨by simp, List.nodup_nil, .nil⟩
  · rw [hnone, hnone]
  · simp [hnone]
  · rw [hnone]
    exact rfl
  · rintro (hclosing | houtcome)
    · cases hclosing
    · cases houtcome

theorem yielded_eq_registered (hstep : ListenerStep h h' l x label y news) :
    told .yielded news = told .registered news := by
  cases hstep <;> rfl

/-- What is refused is disposed of in the same step. -/
theorem isDisposed_of_refused (hstep : ListenerStep h h' l x label y news)
    (hknown : ∀ c ∈ inFlight x.accepts, c < h.connections.length) :
    ∀ c ∈ told .refused news, h'.isDisposed c = true := by
  cases hstep with
  | refused c accepts _ hflight hdisposed =>
    intro d hd
    cases List.mem_singleton.1 hd
    exact hdisposed (hknown c (hflight.mem_iff.2 List.mem_cons_self))
  | _ => exact fun c hc => by cases hc

theorem keeps_step {labels : List Label} {first others : List Effect}
    (hx : Keeps labels h first l x) (hforward : h.Forward h')
    (hstep : ListenerStep h h' l x label y news)
    (htold : ∀ fate, met fate l others = told fate news) :
    Keeps (labels ++ [label]) h' (first ++ others) l y := by
  constructor
  case accounts =>
    simp only [met_append, htold]
    exact hx.accounts.step hforward hstep
  case yielded =>
    rw [met_append, met_append, htold, htold, hx.yielded, yielded_eq_registered hstep]
  case refused =>
    intro c hc
    rw [met_append, htold] at hc
    rcases List.mem_append.1 hc with hold | hnew
    · exact hforward.isDisposed (hx.refused c hold)
    · exact isDisposed_of_refused hstep (fun d hd => hx.accounts.known_of_inFlight hd) c hnew
  case inStep => exact inStep_step hx.inStep hstep
  case covers =>
    rw [met_append, htold]
    exact hx.covers.step hx.inStep hforward (fun c hc => hx.accounts.known_of_registered hc) hstep
  case blamesAbort => exact blamesAbort_step hx.blamesAbort hx.inStep hstep

/-- A listener that is not there yet has told nothing. -/
theorem met_eq_nil_of_run {labels : List Label} {effects : List Effect}
    (hrun : run? { timer } labels = some (h, effects)) (hl : h.listeners[l]? = none) (fate : Fate) :
    met fate l effects = [] := by
  refine run_induction (P := fun _ h effects => h.listeners[l]? = none → met fate l effects = [])
    ?_ ?_ hrun hl
  · exact fun _ => rfl
  · intro labels h₁ first label h₂ others _ hsilent hstep hl₂
    cases hl₁ : h₁.listeners[l]? with
    | none => rw [met_append, hsilent hl₁, (step_unlistened hstep hl₁).1, List.append_nil]
    | some x =>
      obtain ⟨y, news, hy, -, -⟩ := step_listener hstep hl₁
      rw [hl₂] at hy
      cases hy

theorem keeps_run {labels : List Label} {effects : List Effect}
    (hrun : run? { timer } labels = some (h, effects)) (hx : h.listeners[l]? = some x) :
    Keeps labels h effects l x := by
  refine run_induction
    (P := fun labels h effects => ∀ x, h.listeners[l]? = some x → Keeps labels h effects l x)
    ?_ ?_ hrun x hx
  · intro x hx
    cases hx
  · intro labels h₁ first label h₂ others hbefore hkeeps hstep y hy
    cases hl : h₁.listeners[l]? with
    | none =>
      -- the step has made the listener
      obtain ⟨hsilent, hnew⟩ := step_unlistened hstep hl
      obtain ⟨config, localAddress, rfl⟩ := hnew y hy
      refine keeps_new config localAddress fun fate => ?_
      rw [met_append, met_eq_nil_of_run hbefore hl, hsilent, List.append_nil]
    | some x =>
      obtain ⟨z, news, hz, hmove, htold⟩ := step_listener hstep hl
      rw [hy] at hz
      cases hz
      exact keeps_step (hkeeps x hl) (forward_step hstep) hmove htold

/-! ### The result -/

/-- What is true of listener `l`, which is `x`, wherever the steps `labels` have led to with these
    effects. -/
structure NoneLost (h : Host) (labels : List Label) (effects : List Effect) (l : Nat)
    (x : Listener) : Prop where
  /-- No connection is accepted twice. -/
  once : (met .accepted l effects).Nodup
  /-- An accepted connection is about to be tracked, was registered, or was refused: one of the
      three, and once. -/
  fates : (met .accepted l effects).Perm
    (inFlight x.accepts ++ (met .registered l effects ++ met .refused l effects))
  /-- A connection that is about to be tracked has its stream's next step: it is registered and
      handed out unless the token has fired, and else refused. -/
  decided : ∀ c ∈ inFlight x.accepts, ∃ i h' more, h.step? (.track l i) = some (h', more) ∧
    if x.coordinator.token then met .refused l more = [c] ∧ h'.isDisposed c = true
    else met .registered l more = [c] ∧ met .yielded l more = [c]
  /-- What is registered is handed out, and nothing else is. -/
  yielded : met .yielded l effects = met .registered l effects
  /-- The disposal of what is refused has begun. -/
  refused : ∀ c ∈ met .refused l effects, h.isDisposed c = true
  /-- Before the disposal of the listener the number of tracked connections is that of the
      registered ones whose disposal has not begun. -/
  trackedLen : x.isDisposed = false →
    h.trackedLen x = (met .registered l effects).countP fun c => !h.isDisposed c
  /-- When the teardown is about to take the list the token has fired, and the list has each
      registered connection whose disposal has not begun. -/
  taken : x.teardown = .deaf → x.coordinator.token = true ∧
    ∀ c ∈ met .registered l effects, h.isDisposed c = true ∨ c ∈ x.tracked
  /-- When a teardown that was not cut short has published its outcome, the disposal of each
      registered connection has begun. -/
  disposed : .abort l ∉ labels → x.coordinator.outcome ≠ none →
    ∀ c ∈ met .registered l effects, h.isDisposed c = true
  /-- Nothing is registered after the token has fired. -/
  late : x.coordinator.token = true → ∀ after h' more, h.run? after = some (h', more) →
    met .registered l more = []
  /-- The list stays empty from the moment the teardown has taken it. -/
  emptied : x.teardown = .deaf → ∀ after h' more y,
    h.run? (.cascade l :: after) = some (h', more) → h'.listeners[l]? = some y → y.tracked = []

/-- The stream of a connection in flight can have it tracked. -/
theorem track_of_mem_inFlight (hx : h.listeners[l]? = some x) {c : Nat}
    (hc : c ∈ inFlight x.accepts) (hknown : c < h.connections.length) :
    ∃ i h' more, h.step? (.track l i) = some (h', more) ∧
      if x.coordinator.token then met .refused l more = [c] ∧ h'.isDisposed c = true
      else met .registered l more = [c] ∧ met .yielded l more = [c] := by
  obtain ⟨i, a, ha, hstate⟩ := mem_inFlight.1 hc
  cases htoken : x.coordinator.token with
  | true =>
    have htrack : h.track l i x a =
        some ((h.modifyConnection c Connection.dispose).modifyListener l
          (·.setAccept i (.refusing c)), [.refused l c, .answered l i .pending]) := by
      simp [track, hstate, htoken]
    refine ⟨i, _, _, withAccept_eq_some.2 ⟨x, a, hx, ha, htrack⟩, ?_, ?_⟩
    · exact met_of_events (show events _ = [(Fate.refused, c)].map _ from rfl) .refused
    · exact isDisposed_modifyConnection hknown
  | false =>
    have htrack : h.track l i x a =
        some (h.modifyListener l fun y => { y.setAccept i .idle with tracked := h.trackWith x c },
          [.registered l c, .recorded l (.debug "tcp connection accepted"
            [("peer", ((h.connections[c]?).map (·.peerAddress)).getD "")]),
            .answered l i (.next c)]) := by
      simp [track, hstate, htoken]
    have hmet (record : LogRecord) (fate : Fate) :
        met fate l [.registered l c, .recorded l record, .answered l i (.next c)] =
          told fate [(.registered, c), (.yielded, c)] := met_of_events rfl fate
    exact ⟨i, _, _, withAccept_eq_some.2 ⟨x, a, hx, ha, htrack⟩, hmet _ .registered,
      hmet _ .yielded⟩

/-- The step in which the teardown takes the list leaves it empty. -/
theorem cascade_of_deaf (hx : h.listeners[l]? = some x) (hdeaf : x.teardown = .deaf)
    {effects : List Effect} (hstep : h.step? (.cascade l) = some (h', effects)) :
    h'.listeners[l]? =
      some { x with tracked := [], teardown := .cascading x.tracked x.tracked } := by
  simp only [step?, hx, Option.bind_some, runCascade, hdeaf] at hstep
  cases hstep
  simp [modifyListener, hx]

/-- **No accepted connection is lost.** Whatever the accept streams, the connections and the
    teardowns of a host do, in any order, each connection that a listener has accepted is handed
    out and disposed of with the listener, or refused and disposed of at once. -/
theorem noneLost_of_run {labels : List Label} {effects : List Effect}
    (hrun : run? { timer } labels = some (h, effects)) (hx : h.listeners[l]? = some x) :
    NoneLost h labels effects l x := by
  have hkeeps := keeps_run hrun hx
  have hcovers := hkeeps.covers
  unfold Covers at hcovers
  have htaken (hdeaf : x.teardown = .deaf) : x.coordinator.token = true := by
    have hstarted := mt hkeeps.inStep.token_eq_false_iff.1 (by simp [hdeaf])
    simpa using hstarted
  constructor
  case once => exact hkeeps.accounts.once
  case fates => exact hkeeps.accounts.fates
  case decided =>
    intro c hc
    exact track_of_mem_inFlight hx hc (hkeeps.accounts.known_of_inFlight hc)
  case yielded => exact hkeeps.yielded
  case refused => exact hkeeps.refused
  case trackedLen =>
    -- before the teardown the list and the registered connections differ in disposed ones only
    intro hactive
    rw [hkeeps.inStep.isDisposed_eq] at hactive
    rw [hkeeps.inStep.token_eq_false_iff.1 hactive] at hcovers
    unfold trackedLen
    rw [List.countP_eq_length_filter, List.countP_eq_length_filter]
    exact congrArg List.length hcovers
  case taken =>
    intro hdeaf
    rw [hdeaf] at hcovers
    exact ⟨htaken hdeaf, Covers.isDisposed_or_mem hcovers⟩
  case disposed =>
    intro huninterrupted ho
    have hfinished := hkeeps.inStep.finished_of_outcome ho
    rw [hfinished] at hcovers
    refine hcovers.resolve_left fun haborted => ?_
    exact huninterrupted (hkeeps.blamesAbort (.inr haborted))
  case late =>
    intro htoken after h' more hafter
    obtain ⟨y, -, hshut⟩ := shut_run hafter hx htoken
    exact hshut.registered
  case emptied =>
    intro hdeaf after h' more y hafter hy
    obtain ⟨h₁, first, others, hstep, hrest, -⟩ := run?_cons_eq_some.1 hafter
    obtain ⟨z, hz, hshut⟩ := shut_run hrest (cascade_of_deaf hx hdeaf hstep) (htaken hdeaf)
    rw [hy] at hz
    cases hz
    exact hshut.tracked rfl

/-- The teardown of connection `c`, whose peer closes its direction at once. -/
def orderlyClose (c : Nat) : List Label :=
  [.teardown 0, .teardown 0, .halfClose (.ok ()) 0, .teardown 0, .drain .closed, .teardown 0,
    .teardown 0].map (.connection c)

/-- Two streams hold a connection each when the disposal is asked for between their steps: one is
    registered and disposed of by the teardown, the other one is refused. A third connection was
    disposed of before and is left out of the list. -/
theorem noneLost_of_late_peer :
    let labels : List Label :=
      [.listen {} "here", .acceptAll 0 false, .acceptAll 0 false,
        .pollAccept 0 0, .accept 0 0 (.accepted "here" "first"), .track 0 0,
        .connection 0 .dispose,
        .pollAccept 0 0, .accept 0 0 (.accepted "here" "second"),
        .pollAccept 0 1, .accept 0 1 (.accepted "here" "third"),
        .track 0 0, .dispose 0, .track 0 1, .cascade 0, .cascade 0, .cascade 0] ++
      orderlyClose 1 ++ [.cascade 0, .cascade 0]
    ∃ h effects x, run? {} labels = some (h, effects) ∧ h.listeners[0]? = some x ∧
      met .registered 0 effects = [0, 1] ∧ met .refused 0 effects = [2] ∧
      x.coordinator.outcome = some .graceful ∧ NoneLost h labels effects 0 x :=
  ⟨_, _, _, rfl, rfl, rfl, rfl, rfl, noneLost_of_run rfl rfl⟩

end Host

end Duplex
