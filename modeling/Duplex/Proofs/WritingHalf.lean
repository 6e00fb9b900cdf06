import Duplex.Proofs.Settling
import Duplex.Proofs.TearingDown
import Mathlib.Data.List.Induction

/-! # Who has the writing half

  On a connection that was made new, the disposal and its teardown go together (`InStep`). In the
  line of the writing half stand the sends that wait for it or write, and the teardown while it
  asks for it; only the first one in the line writes, and once the teardown has the half no send
  does (`WriterKept`). Each step keeps this, so it is so wherever a run leads.
-/

namespace Duplex.Connection

/-- A connection as it is made. -/
def fresh (config : SocketConfig) (localAddress peerAddress : String)
    (timer : Timer := .ofTicks) : Connection :=
  { config, localAddress, peerAddress, timer }

/-! ### Runs -/

section runs

variable {c c' c₁ : Connection} {labels more : List Label} {effects : List Effect}

theorem run?_append_eq_some : c.run? (labels ++ more) = some (c', effects) ↔
    ∃ c₁ first others, c.run? labels = some (c₁, first) ∧ c₁.run? more = some (c', others) ∧
      effects = first ++ others := by
  induction labels generalizing c effects with
  | nil =>
    constructor
    · intro h
      exact ⟨c, [], effects, rfl, h, rfl⟩
    · rintro ⟨c₁, first, others, hnil, hmore, rfl⟩
      cases hnil
      exact hmore
  | cons l labels ih =>
    rw [List.cons_append, run?_cons_eq_some]
    constructor
    · rintro ⟨c₁, first, others, hstep, hrest, rfl⟩
      obtain ⟨c₂, second, last, hlabels, hmore, rfl⟩ := ih.1 hrest
      exact ⟨c₂, first ++ second, last,
        run?_cons_eq_some.2 ⟨c₁, first, second, hstep, hlabels, rfl⟩, hmore,
        (List.append_assoc _ _ _).symm⟩
    · rintro ⟨c₂, firsts, last, hlabels, hmore, rfl⟩
      obtain ⟨c₁, first, second, hstep, hrest, rfl⟩ := run?_cons_eq_some.1 hlabels
      exact ⟨c₁, first, second ++ last, hstep, ih.2 ⟨c₂, second, last, hrest, hmore, rfl⟩,
        List.append_assoc _ _ _⟩

theorem run?_singleton {l : Label} : c.run? [l] = c.step? l := by
  cases hstep : c.step? l with
  | none => simp [run?, hstep]
  | some stepped => simp [run?, hstep]

/-- What is true at the start and kept by each step of a run is true wherever the run leads. -/
theorem run_induction {P : List Label → Connection → List Effect → Prop} (hstart : P [] c [])
    (hstep : ∀ labels c₁ first l c₂ others, c.run? labels = some (c₁, first) →
      P labels c₁ first → c₁.step? l = some (c₂, others) → P (labels ++ [l]) c₂ (first ++ others))
    (hrun : c.run? labels = some (c', effects)) : P labels c' effects := by
  -- the last step is taken off, since what is known is known of the steps before it
  induction labels using List.reverseRecOn generalizing c' effects with
  | nil =>
    cases hrun
    exact hstart
  | append_singleton labels l ih =>
    obtain ⟨c₁, first, others, hbefore, hlast, rfl⟩ := run?_append_eq_some.1 hrun
    exact hstep _ _ _ _ _ _ hbefore (ih hbefore) (run?_singleton ▸ hlast)

/-- What each step keeps, a run keeps. -/
theorem run_keeps {P : Connection → Prop}
    (hstep : ∀ {c c' : Connection} {l : Label} {effects : List Effect},
      c.step? l = some (c', effects) → P c → P c')
    (hrun : c.run? labels = some (c', effects)) (hc : P c) : P c' :=
  run_induction (P := fun _ c' _ => P c') hc (fun _ _ _ _ _ _ _ hkept h => hstep h hkept) hrun

end runs

/-! ### The disposal and its teardown -/

/-- How far the disposal has come is how far its teardown has come. -/
structure InStep (c : Connection) : Prop where
  rests : c.teardown = .absent → c.coordinator = {}
  goes : c.teardown ≠ .absent → c.teardown ≠ .finished →
    c.coordinator = { phase := .disposeRequested, token := true }
  ends : c.teardown = .finished →
    ∃ o, c.coordinator = { phase := .disposed, token := true, outcome := some o }

namespace InStep

variable {c c' : Connection}

theorem of_eq (hc : c.InStep) (hcoordinator : c'.coordinator = c.coordinator)
    (hteardown : c'.teardown = c.teardown) : c'.InStep := by
  refine ⟨?_, ?_, ?_⟩ <;> rw [hcoordinator, hteardown]
  · exact hc.rests
  · exact hc.goes
  · exact hc.ends

/-- The three stages: nobody has asked for the disposal, it is under way, or it is over. -/
theorem stages (hc : c.InStep) :
    (c.teardown = .absent ∧ c.coordinator = {}) ∨
    (c.teardown ≠ .absent ∧ c.teardown ≠ .finished ∧
      c.coordinator = { phase := .disposeRequested, token := true }) ∨
    (c.teardown = .finished ∧
      ∃ o, c.coordinator = { phase := .disposed, token := true, outcome := some o }) := by
  by_cases habsent : c.teardown = .absent
  · exact .inl ⟨habsent, hc.rests habsent⟩
  · by_cases hfinished : c.teardown = .finished
    · exact .inr (.inr ⟨hfinished, hc.ends hfinished⟩)
    · exact .inr (.inl ⟨habsent, hfinished, hc.goes habsent hfinished⟩)

/-- The token has fired where the teardown was started, and only there. -/
theorem token_eq_true_iff (hc : c.InStep) :
    c.coordinator.token = true ↔ c.teardown ≠ .absent := by
  rcases hc.stages with ⟨habsent, h⟩ | ⟨habsent, -, h⟩ | ⟨hfinished, o, h⟩
  · simp [h, habsent]
  · simp [h, habsent]
  · simp [h, hfinished]

theorem isDisposed_eq (hc : c.InStep) : c.isDisposed = c.coordinator.token := by
  rcases hc.stages with ⟨-, h⟩ | ⟨-, -, h⟩ | ⟨-, o, h⟩ <;>
    simp [isDisposed, Coordinator.isDisposed, h]

/-- The disposal is under way while the teardown is. -/
theorem requested_iff (hc : c.InStep) : c.coordinator.phase = .disposeRequested ↔
    c.teardown ≠ .absent ∧ c.teardown ≠ .finished := by
  rcases hc.stages with ⟨habsent, h⟩ | ⟨habsent, hfinished, h⟩ | ⟨hfinished, o, h⟩
  · simp [h, habsent]
  · simp [h, habsent, hfinished]
  · simp [h, hfinished]

theorem outcome_ne_none_iff (hc : c.InStep) :
    c.coordinator.outcome ≠ none ↔ c.teardown = .finished := by
  rcases hc.stages with ⟨habsent, h⟩ | ⟨-, hfinished, h⟩ | ⟨hfinished, o, h⟩
  · simp [h, habsent]
  · simp [h, hfinished]
  · simp [h, hfinished]

/-- The first request starts the teardown, and later ones change nothing. -/
theorem dispose_cases (hc : c.InStep) :
    (c.teardown = .absent ∧ c.dispose =
      { c with coordinator := { phase := .disposeRequested, token := true },
               teardown := .requested }) ∨
    (c.teardown ≠ .absent ∧ c.dispose = c) := by
  unfold dispose
  by_cases habsent : c.teardown = .absent
  · -- the coordinator is as new, so the request is the first one
    have hcoordinator := hc.rests habsent
    rw [Coordinator.request_of_active (by rw [hcoordinator])]
    exact .inl ⟨habsent, by rw [hcoordinator]⟩
  · have htoken := hc.token_eq_true_iff.2 habsent
    rw [← hc.isDisposed_eq] at htoken
    rw [Coordinator.request_of_not_active (Coordinator.isDisposed_iff.1 htoken)]
    exact .inr ⟨habsent, rfl⟩

theorem teardown (hc : c.InStep) {l : Label} {effects : List Effect}
    (h : TeardownStep c l c' effects) : c'.InStep := by
  obtain ⟨hstarted, hstarted'⟩ := h.started
  cases h with
  | @publishes _ o hstate =>
    have hgoes := hc.goes hstarted (by simp [hstate])
    refine ⟨fun h => absurd h (by simp), fun _ h => absurd rfl h, fun _ => ⟨o, ?_⟩⟩
    show c.coordinator.publish o = _
    rw [hgoes]
    rfl
  | drains _ => exact hc
  | aborts _ _ hfinished =>
    exact ⟨fun h => absurd h hstarted', fun _ _ => hc.goes hstarted hfinished, by simp⟩
  | asks hstate | takes hstate _ _ | takesDown hstate _ _ | bereft hstate _ _ | halfCloses hstate
  | takesReader hstate _ | skipsReader hstate _ | drained hstate | expiresAwaiting hstate _
  | expiresDraining hstate _ | forces hstate | releases hstate =>
    exact ⟨fun h => absurd h hstarted', fun _ _ => hc.goes hstarted (by simp [hstate]), by simp⟩

theorem step (hc : c.InStep) {l : Label} {effects : List Effect}
    (h : c.step? l = some (c', effects)) : c'.InStep := by
  cases step_cases h with
  | made _ _ _ hc' _ | cancelled _ _ hc' _ =>
    subst hc'
    exact hc.of_eq rfl rfl
  | send i s _ _ hmoves =>
    obtain ⟨state, lock, octets, result, -, hsent⟩ := hmoves
    obtain ⟨connected, -, (rfl : c' = _)⟩ := hsent.connection
    exact hc.of_eq rfl rfl
  | receive i _ _ hapart =>
    obtain ⟨receives, reader, connected, -, (rfl : c' = _)⟩ := hapart.connection
    exact hc.of_eq rfl rfl
  | dispose _ hc' _ =>
    subst hc'
    rcases hc.dispose_cases with ⟨-, hstarted⟩ | ⟨-, hsame⟩
    · rw [hstarted]
      exact ⟨by simp, fun _ _ => rfl, by simp⟩
    · rw [hsame]
      exact hc
  | teardown _ hteardown => exact hc.teardown hteardown

theorem fresh (config : SocketConfig) (localAddress peerAddress : String) (timer : Timer) :
    (fresh config localAddress peerAddress timer).InStep :=
  ⟨fun _ => rfl, fun h => absurd rfl h, fun h => by cases h⟩

theorem run (hc : c.InStep) {labels : List Label} {effects : List Effect}
    (h : c.run? labels = some (c', effects)) : c'.InStep :=
  run_keeps (fun h hc => InStep.step hc h) h hc

end InStep

/-! ### The writing half -/

/-- Send `i` of the connection waits for the writing half or holds it. -/
def Engaged (c : Connection) (i : Nat) : Prop :=
  ∃ s, c.sends[i]? = some s ∧ s.state.engaged = true

/-- What is so of the writing half, its lock, the sends and the teardown. -/
structure WriterKept (c : Connection) : Prop where
  orderly : c.writer.Orderly
  /-- Those sends stand in the line that wait or write. -/
  sends : ∀ i, .send i ∈ c.writer.line ↔ c.Engaged i
  teardown : .teardown ∈ c.writer.line ↔ ∃ wasConnected, c.teardown = .awaitingWriter wasConnected
  receives : ∀ i, .receive i ∉ c.writer.line
  /-- Who writes holds the lock, and the half is behind it. -/
  writes : ∀ (i : Nat) (s : Send) rest awake, c.sends[i]? = some s →
    s.state = .writing rest awake → c.writer.holder = some (.send i) ∧ c.writeHalf = true
  /-- The half is behind its lock until the teardown takes it. -/
  half : c.teardown = .absent ∨ c.teardown = .requested ∨
    (∃ wasConnected, c.teardown = .awaitingWriter wasConnected) → c.writeHalf = true
  /-- A teardown that is about to close the direction has the half. -/
  closes : c.teardown = .halfClosing → c.writeHalf = false

/-- How a move of send `i` to `state` passes the writing half on to `lock`. -/
structure Passes (c : Connection) (i : Nat) (state : SendState) (lock : Lock Actor) : Prop where
  orderly : lock.Orderly
  self : .send i ∈ lock.line ↔ state.engaged = true
  others : ∀ a, a ≠ .send i → (a ∈ lock.line ↔ a ∈ c.writer.line)
  /-- It takes the half from nobody else. -/
  holder : ∀ a, a ≠ .send i → c.writer.holder = some a → lock.holder = some a
  writes : ∀ rest awake, state = .writing rest awake →
    lock.holder = some (.send i) ∧ c.writeHalf = true

section passes

variable {c : Connection} {i : Nat} {s : Send} {lock : Lock Actor}

theorem passes_release (ho : lock.Orderly)
    (hothers : ∀ a, a ≠ .send i → (a ∈ lock.line ↔ a ∈ c.writer.line))
    (hholder : ∀ a, a ≠ .send i → c.writer.holder = some a → lock.holder = some a)
    {state : SendState} (hstate : state.engaged = false) :
    c.Passes i state (lock.release (.send i)) where
  orderly := ho.release _
  self := by simp [ho.mem_line_release, hstate]
  others a ha := by simp [ho.mem_line_release, ha, hothers a ha]
  holder a ha hheld := Lock.holder_release_of_ne (hholder a ha hheld) ha
  writes rest awake hwriting := by
    rw [hwriting] at hstate
    cases hstate

/-- A send that asks stands in the line. -/
theorem Asks.passes (hasks : c.Asks i s lock) (hc : c.WriterKept) (hs : c.sends[i]? = some s) :
    lock.Orderly ∧ .send i ∈ lock.line ∧
    (∀ a, a ≠ .send i → (a ∈ lock.line ↔ a ∈ c.writer.line)) ∧
    (∀ a, a ≠ .send i → c.writer.holder = some a → lock.holder = some a) := by
  rcases hasks.asks with ⟨hcreated, -, -, rfl⟩ | ⟨hwaiting, rfl⟩
  · -- it was never polled, so it does not stand in the line yet
    have hout : .send i ∉ c.writer.line := by
      rw [hc.sends]
      rintro ⟨s', hs', hengaged⟩
      rw [hs] at hs'
      cases hs'
      rw [hcreated] at hengaged
      cases hengaged
    refine ⟨hc.orderly.request hout, ?_, ?_, ?_⟩
    · simp [hc.orderly.line_request]
    · intro a ha
      simp [hc.orderly.line_request, ha]
    · exact fun a _ hheld => Lock.holder_request_of_some hheld _
  · have hin : .send i ∈ c.writer.line := (hc.sends i).2 ⟨s, hs, by rw [hwaiting]; rfl⟩
    exact ⟨hc.orderly, hin, fun _ _ => .rfl, fun _ _ hheld => hheld⟩

theorem SendStep.passes {l : Label} {state : SendState} {octets : Bytes}
    {result : Option SendResult} (h : SendStep c i s l state lock octets result)
    (hc : c.WriterKept) (hs : c.sends[i]? = some s) : c.Passes i state lock := by
  have hleaves {state : SendState} (hstate : state.engaged = false) :
      c.Passes i state (c.writer.release (.send i)) :=
    passes_release hc.orderly (fun _ _ => .rfl) (fun _ _ hheld => hheld) hstate
  have hstays {rest rest' : Bytes} {awake awake' : Bool} (hstate : s.state = .writing rest awake) :
      c.Passes i (.writing rest' awake') c.writer := by
    refine ⟨hc.orderly, ?_, fun _ _ => .rfl, fun _ _ hheld => hheld, fun _ _ _ => ?_⟩
    · simp [hc.sends, Engaged, hs, hstate, SendState.engaged]
    · exact hc.writes i s rest awake hs hstate
  cases h with
  | refused _ _ | empty _ _ _ | interrupted _ _ | completed _ _ | failed _ | dropped _ _ =>
    exact hleaves rfl
  | waits hasks _ =>
    obtain ⟨horderly, hin, hothers, hholder⟩ := hasks.passes hc hs
    exact ⟨horderly, ⟨fun _ => rfl, fun _ => hin⟩, hothers, hholder, fun _ _ h => by cases h⟩
  | begins hasks hheld hhalf =>
    obtain ⟨horderly, hin, hothers, hholder⟩ := hasks.passes hc hs
    exact ⟨horderly, ⟨fun _ => rfl, fun _ => hin⟩, hothers, hholder, fun _ _ _ => ⟨hheld, hhalf⟩⟩
  | bereft hasks _ =>
    obtain ⟨horderly, -, hothers, hholder⟩ := hasks.passes hc hs
    exact passes_release horderly hothers hholder rfl
  | resumed hstate _ => exact hstays hstate
  | paused hstate => exact hstays hstate
  | progressed hstate _ _ => exact hstays hstate

/-- A send that has moved is in its new state, and the others are as they were. -/
theorem Sent.getElem? {state : SendState} {octets : Bytes} {result : Option SendResult}
    {stepped : Stepped} (h : c.Sent i state lock octets result stepped)
    (hs : c.sends[i]? = some s) (j : Nat) :
    stepped.1.sends[j]? = if j = i then some { s with state } else c.sends[j]? := by
  obtain ⟨connected, -, hc'⟩ := h.connection
  rw [hc', List.getElem?_modify]
  by_cases hj : j = i
  · subst hj
    simp [hs]
  · simp [hj, Ne.symm hj]

end passes

namespace WriterKept

variable {c c' : Connection}

/-- A step that touches nothing of this, but sends that stay where they are. -/
theorem of_eq (hc : c.WriterKept) (hwriter : c'.writer = c.writer)
    (hhalf : c'.writeHalf = c.writeHalf) (hteardown : c'.teardown = c.teardown)
    (hsends : ∀ i : Nat, (c'.sends[i]?).map Send.state = (c.sends[i]?).map Send.state ∨
      (c.sends[i]? = none ∧ (c'.sends[i]?).map Send.state = some .created)) : c'.WriterKept := by
  -- a send that is in some state but the first was in that state before
  have hback {i : Nat} {s' : Send} (hs' : c'.sends[i]? = some s') (hengaged : s'.state ≠ .created) :
      ∃ s, c.sends[i]? = some s ∧ s.state = s'.state := by
    rcases hsends i with hsame | ⟨-, hnew⟩
    · rw [hs', Option.map_some] at hsame
      exact Option.map_eq_some_iff.1 hsame.symm
    · rw [hs'] at hnew
      exact absurd (Option.some.inj hnew) hengaged
  have hforth {i : Nat} {s : Send} (hs : c.sends[i]? = some s) :
      ∃ s', c'.sends[i]? = some s' ∧ s'.state = s.state := by
    rcases hsends i with hsame | ⟨hnone, -⟩
    · rw [hs, Option.map_some] at hsame
      exact Option.map_eq_some_iff.1 hsame
    · rw [hs] at hnone
      cases hnone
  have hcreated {s : Send} (h : s.state.engaged = true) : s.state ≠ .created := by
    intro hstate
    rw [hstate] at h
    cases h
  constructor
  · rw [hwriter]
    exact hc.orderly
  · intro i
    rw [hwriter, hc.sends]
    constructor
    · rintro ⟨s, hs, hengaged⟩
      obtain ⟨s', hs', hstate⟩ := hforth hs
      exact ⟨s', hs', by rw [hstate]; exact hengaged⟩
    · rintro ⟨s', hs', hengaged⟩
      obtain ⟨s, hs, hstate⟩ := hback hs' (hcreated hengaged)
      exact ⟨s, hs, by rw [hstate]; exact hengaged⟩
  · rw [hwriter, hteardown]
    exact hc.teardown
  · rw [hwriter]
    exact hc.receives
  · intro i s' rest awake hs' hwriting
    obtain ⟨s, hs, hstate⟩ := hback hs' (hcreated (by rw [hwriting]; rfl))
    rw [hwriter, hhalf]
    exact hc.writes i s rest awake hs (hstate.trans hwriting)
  · rw [hteardown, hhalf]
    exact hc.half
  · rw [hteardown, hhalf]
    exact hc.closes

theorem send (hc : c.WriterKept) {i : Nat} {s : Send} {l : Label} {effects : List Effect}
    (hs : c.sends[i]? = some s) (h : c.Moves i s l (c', effects)) : c'.WriterKept := by
  obtain ⟨state, lock, octets, result, hstep, hsent⟩ := h
  have hpasses := hstep.passes hc hs
  have hget := hsent.getElem? hs
  obtain ⟨connected, -, (hc' : c' = _)⟩ := hsent.connection
  have hwriter : c'.writer = lock := by rw [hc']
  have hhalf : c'.writeHalf = c.writeHalf := by rw [hc']
  have hteardown : c'.teardown = c.teardown := by rw [hc']
  constructor
  · rw [hwriter]
    exact hpasses.orderly
  · intro j
    rw [hwriter, Engaged, hget]
    by_cases hj : j = i
    · subst hj
      simp [hpasses.self]
    · simp only [if_neg hj]
      rw [hpasses.others _ (by simpa using hj)]
      exact hc.sends j
  · rw [hwriter, hteardown, hpasses.others _ (by simp)]
    exact hc.teardown
  · intro j
    rw [hwriter, hpasses.others _ (by simp)]
    exact hc.receives j
  · intro j s' rest awake hs' hwriting
    rw [hwriter, hhalf]
    rw [hget] at hs'
    by_cases hj : j = i
    · subst hj
      rw [if_pos rfl] at hs'
      cases hs'
      exact hpasses.writes rest awake hwriting
    · rw [if_neg hj] at hs'
      obtain ⟨hheld, hbehind⟩ := hc.writes j s' rest awake hs' hwriting
      exact ⟨hpasses.holder _ (by simpa using hj) hheld, hbehind⟩
  · rw [hteardown, hhalf]
    exact hc.half
  · rw [hteardown, hhalf]
    exact hc.closes

/-- A step of the teardown in which the line changes at most by the teardown. -/
theorem of_line (hc : c.WriterKept) (hsends : c'.sends = c.sends) (horderly : c'.writer.Orderly)
    (hothers : ∀ a, a ≠ .teardown → (a ∈ c'.writer.line ↔ a ∈ c.writer.line))
    (hteardown : .teardown ∈ c'.writer.line ↔
      ∃ wasConnected, c'.teardown = .awaitingWriter wasConnected)
    (hwrites : ∀ i, c.writer.holder = some (.send i) → c.writeHalf = true →
      c'.writer.holder = some (.send i) ∧ c'.writeHalf = true)
    (hhalf : c'.teardown = .absent ∨ c'.teardown = .requested ∨
      (∃ wasConnected, c'.teardown = .awaitingWriter wasConnected) → c'.writeHalf = true)
    (hcloses : c'.teardown = .halfClosing → c'.writeHalf = false) : c'.WriterKept where
  orderly := horderly
  sends i := by
    rw [hothers _ (by simp), hc.sends, Engaged, Engaged, hsends]
  teardown := hteardown
  receives i := by
    rw [hothers _ (by simp)]
    exact hc.receives i
  writes i s rest awake hs hwriting := by
    rw [hsends] at hs
    obtain ⟨hheld, hbehind⟩ := hc.writes i s rest awake hs hwriting
    exact hwrites i hheld hbehind
  half := hhalf
  closes := hcloses

/-- The teardown goes on without the writing half. -/
theorem of_past (hc : c.WriterKept) (hsends : c'.sends = c.sends) (hwriter : c'.writer = c.writer)
    (hbehind : c'.writeHalf = c.writeHalf)
    (hbefore : ∀ wasConnected, c.teardown ≠ .awaitingWriter wasConnected)
    (hafter : c'.teardown ≠ .absent ∧ c'.teardown ≠ .requested ∧ c'.teardown ≠ .halfClosing ∧
      ∀ wasConnected, c'.teardown ≠ .awaitingWriter wasConnected) : c'.WriterKept := by
  obtain ⟨habsent, hrequested, hclosing, hawaiting⟩ := hafter
  refine hc.of_line hsends ?_ ?_ ?_ ?_ ?_ ?_
  · rw [hwriter]
    exact hc.orderly
  · intro a _
    rw [hwriter]
  · rw [hwriter, hc.teardown]
    exact ⟨fun ⟨w, hw⟩ => absurd hw (hbefore w), fun ⟨w, hw⟩ => absurd hw (hawaiting w)⟩
  · intro i hheld hhalf
    rw [hwriter, hbehind]
    exact ⟨hheld, hhalf⟩
  · rintro (h | h | ⟨w, h⟩)
    · exact absurd h habsent
    · exact absurd h hrequested
    · exact absurd h (hawaiting w)
  · exact fun h => absurd h hclosing

theorem teardown_step (hc : c.WriterKept) {l : Label} {effects : List Effect}
    (h : TeardownStep c l c' effects) : c'.WriterKept := by
  have hreleased (a : Actor) (ha : a ≠ .teardown) :
      a ∈ (c.writer.release .teardown).line ↔ a ∈ c.writer.line := by
    simp [hc.orderly.mem_line_release, ha]
  -- when the teardown takes the half away, no send is writing
  have hnobody (hheld : c.writer.holder = some .teardown) (i : Nat) :
      c.writer.holder ≠ some (.send i) := by
    rw [hheld]
    simp
  cases h with
  | asks hstate =>
    -- it asks only once
    have hout : .teardown ∉ c.writer.line := by simp [hc.teardown, hstate]
    refine hc.of_line rfl (hc.orderly.request hout) ?_ ?_ ?_ (fun _ => hc.half (by simp [hstate]))
      (by simp)
    · intro a ha
      simp [hc.orderly.line_request, ha]
    · simp [hc.orderly.line_request]
    · exact fun i hheld hhalf => ⟨Lock.holder_request_of_some hheld _, hhalf⟩
  | takes hstate hheld _ | takesDown hstate hheld _ | bereft hstate hheld _ =>
    refine hc.of_line rfl (hc.orderly.release _) hreleased ?_ ?_ (by simp) (by simp)
    · simp [hc.orderly.mem_line_release]
    · exact fun i hsend _ => absurd hsend (hnobody hheld i)
  | aborts _ _ _ =>
    refine hc.of_line rfl (hc.orderly.release _) hreleased ?_ ?_ (by simp) (by simp)
    · simp [hc.orderly.mem_line_release]
    · exact fun i hsend hhalf => ⟨Lock.holder_release_of_ne hsend (by simp), hhalf⟩
  | drains _ => exact hc
  | halfCloses hstate | takesReader hstate _ | skipsReader hstate _ | drained hstate
  | expiresAwaiting hstate _ | expiresDraining hstate _ | forces hstate | releases hstate
  | publishes hstate => exact hc.of_past rfl rfl rfl (by simp [hstate]) (by simp)

theorem step (hc : c.WriterKept) (hin : c.InStep) {l : Label} {effects : List Effect}
    (h : c.step? l = some (c', effects)) : c'.WriterKept := by
  cases step_cases h with
  | made bytes cancelled _ hc' _ =>
    subst hc'
    refine hc.of_eq rfl rfl rfl fun i => ?_
    rcases Nat.lt_trichotomy i c.sends.length with hlt | rfl | hgt
    · exact .inl (by rw [List.getElem?_append_left hlt])
    · exact .inr (by simp)
    · refine .inl ?_
      rw [List.getElem?_eq_none (by simp; omega), List.getElem?_eq_none (by omega)]
  | cancelled j _ hc' _ =>
    subst hc'
    refine hc.of_eq rfl rfl rfl fun i => .inl ?_
    rw [List.getElem?_modify]
    cases c.sends[i]? with
    | none => rfl
    | some s => by_cases hj : j = i <;> simp [hj]
  | send i s _ hs hmoves => exact hc.send hs hmoves
  | receive i _ _ hapart =>
    obtain ⟨receives, reader, connected, -, (rfl : c' = _)⟩ := hapart.connection
    exact hc.of_eq rfl rfl rfl fun i => .inl rfl
  | dispose _ hc' _ =>
    subst hc'
    rcases hin.dispose_cases with ⟨habsent, hstarted⟩ | ⟨-, hsame⟩
    · -- the teardown that is started has not asked for anything yet
      rw [hstarted]
      have hhalf := hc.half (.inl habsent)
      refine hc.of_line rfl hc.orderly (fun _ _ => .rfl) ?_ (fun i hheld h => ⟨hheld, h⟩)
        (fun _ => hhalf) (by simp)
      simp [hc.teardown, habsent]
    · rw [hsame]
      exact hc
  | teardown _ hteardown => exact hc.teardown_step hteardown

theorem fresh (config : SocketConfig) (localAddress peerAddress : String) (timer : Timer) :
    (fresh config localAddress peerAddress timer).WriterKept where
  orderly := Lock.orderly_free
  sends i := by simp [Connection.fresh, Lock.line, Engaged]
  teardown := by simp [Connection.fresh, Lock.line]
  receives i := by simp [Connection.fresh, Lock.line]
  writes i s rest awake hs := by simp [Connection.fresh] at hs
  half _ := rfl
  closes h := by cases h

theorem run (hc : c.WriterKept) (hin : c.InStep) {labels : List Label} {effects : List Effect}
    (h : c.run? labels = some (c', effects)) : c'.WriterKept :=
  (run_keeps (P := fun c => c.InStep ∧ c.WriterKept)
    (fun h hc => ⟨hc.1.step h, hc.2.step hc.1 h⟩) h ⟨hin, hc⟩).2

end WriterKept

end Duplex.Connection
