import Duplex.Proofs.Segments

/-! # What holds up a teardown

  A teardown that waits for the reading half has its deadline, and what receive streams do or leave
  undone does not matter to it. It has none while it waits for the writing half: if a send holds
  that half and nobody polls or drops the send any more, the teardown waits for ever. The lock is
  fair, so such a send need not even be writing; it may have got the half while nobody looked. That
  is the only thing that stops a teardown (`goesOn_of_run`).
-/

namespace Duplex.Connection

/-- The teardown of the connection waits for the writing half, and send `i` holds it. -/
structure HeldUpBy (c : Connection) (i : Nat) : Prop where
  holder : c.writer.holder = some (.send i)
  awaits : ∃ wasConnected, c.teardown = .awaitingWriter wasConnected

/-- The teardown of the connection has a step of its own that takes it forward. -/
def Advances (c : Connection) : Prop :=
  ∃ l c' effects, l.ofTeardown = true ∧ c.step? l = some (c', effects) ∧
    c'.teardown.left < c.teardown.left

/-- No send is in front of the teardown in the line of the writing half, or the teardown is past
    that line. -/
def Clear (c : Connection) : Prop :=
  (c.teardown = .requested ∨ ∃ wasConnected, c.teardown = .awaitingWriter wasConnected) →
    ∀ i, c.writer.holder ≠ some (.send i)

/-- The label polls or drops send `i`, or brings the answer to its write. -/
def Label.touches (i : Nat) (l : Label) : Prop :=
  l = .pollSend i ∨ l = .dropSend i ∨ ∃ answer, l = .write i answer

section

variable {c c' : Connection} {i : Nat} {effects : List Effect}

/-! ### Going on -/

/-- Only sends and the teardown are ever in the line of the writing half. -/
theorem WriterKept.holder_of_awaiting (hkept : c.WriterKept) {wasConnected : Bool}
    (hstate : c.teardown = .awaitingWriter wasConnected)
    (hclear : ∀ i, c.writer.holder ≠ some (.send i)) : c.writer.holder = some .teardown := by
  have hin : .teardown ∈ c.writer.line := hkept.teardown.2 ⟨_, hstate⟩
  cases hholder : c.writer.holder with
  | none =>
    rw [hkept.orderly.line_of_none hholder] at hin
    cases hin
  | some a =>
    cases a with
    | send i => exact absurd hholder (hclear i)
    | receive i => exact absurd (Lock.mem_line_of_holder hholder) (hkept.receives i)
    | teardown => rfl

/-- Each step of a teardown takes it forward, unless it has only read. -/
theorem TeardownStep.left_lt {l : Label} (h : TeardownStep c l c' effects)
    (hl : ∀ answer, l ≠ .drain answer) : c'.teardown.left < c.teardown.left := by
  cases h with
  | drains _ | drained _ => exact absurd rfl (hl _)
  | aborts habsent hclosing hfinished =>
    cases hstate : c.teardown with
    | absent => exact absurd hstate habsent
    | closing outcome => exact absurd hstate (hclosing outcome)
    | finished => exact absurd hstate hfinished
    | requested | awaitingWriter _ | halfClosing | awaitingReader _ _ _ | draining _ _ | forcing _
    | releasing _ => simp [TeardownState.left]
  | asks hstate | takes hstate _ _ | takesDown hstate _ _ | bereft hstate _ _ | halfCloses hstate
  | takesReader hstate _ | skipsReader hstate _ | expiresAwaiting hstate _
  | expiresDraining hstate _ | forces hstate | releases hstate | publishes hstate =>
    simp [hstate, TeardownState.left]

/-- The way of a teardown stays clear. -/
theorem Clear.step (hclear : c.Clear) {l : Label} (h : TeardownStep c l c' effects) : c'.Clear := by
  cases h with
  | asks hstate =>
    intro _ i
    cases hholder : c.writer.holder with
    | none => simp [Lock.request, hholder]
    | some a =>
      rw [Lock.holder_request_of_some hholder]
      exact fun hsend => hclear (.inl hstate) i (hholder.trans hsend)
  | drains _ => exact hclear
  | takes _ _ _ | takesDown _ _ _ | bereft _ _ _ | halfCloses _ | takesReader _ _
  | skipsReader _ _ | drained _ | expiresAwaiting _ _ | expiresDraining _ _ | forces _ | releases _
  | publishes _ | aborts _ _ _ => exact fun h => by simp at h

/-- A teardown that is under way and that no send holds up can go on. -/
theorem step_of_not_heldUp (hin : c.InStep) (hkept : c.WriterKept)
    (hphase : c.coordinator.phase = .disposeRequested) (hfree : ∀ i, ¬c.HeldUpBy i) :
    ∃ l, l.ofTeardown = true ∧ (∀ answer, l ≠ .drain answer) ∧ (c.step? l).isSome = true := by
  obtain ⟨habsent, hfinished⟩ := hin.requested_iff.1 hphase
  cases hstate : c.teardown with
  | absent => exact absurd hstate habsent
  | finished => exact absurd hstate hfinished
  | requested => exact ⟨.teardown 0, rfl, by simp, by simp [step?, runTeardown, hstate]⟩
  | awaitingWriter wasConnected =>
    have hheld : c.writer.heldBy .teardown = true :=
      Lock.heldBy_iff.2 (hkept.holder_of_awaiting hstate fun i hsend => hfree i ⟨hsend, _, hstate⟩)
    exact ⟨.teardown 0, rfl, by simp, by simp [step?, runTeardown, hstate, hheld]⟩
  | halfClosing => exact ⟨.halfClose (.ok ()) 0, rfl, by simp, by simp [step?, halfClose, hstate]⟩
  | awaitingReader wasConnected outcome deadline =>
    -- whoever holds the reading half, the deadline comes
    exact ⟨.expire deadline, rfl, by simp, by simp [step?, expire, hstate]⟩
  | draining outcome deadline =>
    exact ⟨.expire deadline, rfl, by simp, by simp [step?, expire, hstate]⟩
  | forcing outcome => exact ⟨.force (.ok ()), rfl, by simp, by simp [step?, force, hstate]⟩
  | releasing outcome => exact ⟨.teardown 0, rfl, by simp, by simp [step?, runTeardown, hstate]⟩
  | closing outcome => exact ⟨.teardown 0, rfl, by simp, by simp [step?, runTeardown, hstate]⟩

/-- It goes forward then. -/
theorem advance_of_not_heldUp (hin : c.InStep) (hkept : c.WriterKept)
    (hphase : c.coordinator.phase = .disposeRequested) (hfree : ∀ i, ¬c.HeldUpBy i) :
    c.Advances := by
  obtain ⟨l, hl, hdrain, hsome⟩ := step_of_not_heldUp hin hkept hphase hfree
  obtain ⟨⟨c', effects⟩, hstep⟩ := Option.isSome_iff_exists.1 hsome
  exact ⟨l, c', effects, hl, hstep, (step_teardown (.inl hl) hstep).left_lt hdrain⟩

/-- A teardown whose way is clear comes to its end by its own steps. -/
theorem finishes_alone (hin : c.InStep) (hkept : c.WriterKept)
    (hphase : c.coordinator.phase = .disposeRequested) (hclear : c.Clear) :
    ∃ labels c' effects, (∀ l ∈ labels, l.ofTeardown = true) ∧
      labels.length ≤ c.teardown.left ∧ c.run? labels = some (c', effects) ∧
      c'.coordinator.outcome ≠ none := by
  -- by induction on what is left of the teardown
  induction hleft : c.teardown.left using Nat.strongRecOn generalizing c with
  | ind n ih =>
    subst hleft
    have hfree : ∀ i, ¬c.HeldUpBy i := fun i hheld => hclear (.inr hheld.awaits) i hheld.holder
    obtain ⟨l, c₁, first, hl, hstep, hless⟩ := advance_of_not_heldUp hin hkept hphase hfree
    have hmove := step_teardown (.inl hl) hstep
    have hin₁ := hin.step hstep
    by_cases hdone : c₁.teardown = .finished
    · refine ⟨[l], c₁, first, ?_, ?_, run?_singleton.trans hstep, ?_⟩
      · simpa using hl
      · simp only [List.length_singleton]
        omega
      · exact hin₁.outcome_ne_none_iff.2 hdone
    · have hgoes : c₁.coordinator.phase = .disposeRequested :=
        hin₁.requested_iff.2 ⟨hmove.started.2, hdone⟩
      obtain ⟨labels, c', others, hlabels, hlength, hrun, houtcome⟩ :=
        ih _ hless hin₁ (hkept.step hin hstep) hgoes (hclear.step hmove) rfl
      refine ⟨l :: labels, c', first ++ others, ?_, ?_, ?_, houtcome⟩
      · intro l' hl'
        rcases List.mem_cons.1 hl' with rfl | hl'
        · exact hl
        · exact hlabels l' hl'
      · simp only [List.length_cons]
        omega
      · exact run?_cons_eq_some.2 ⟨c₁, first, others, hstep, hrun, rfl⟩

/-! ### Being held up -/

namespace HeldUpBy

/-- A teardown that is held up has no step of its own. -/
theorem step_eq_none (hheld : c.HeldUpBy i) {l : Label} (hl : l.ofTeardown = true) :
    c.step? l = none := by
  obtain ⟨hholder, wasConnected, hstate⟩ := hheld
  refine Option.eq_none_iff_forall_ne_some.2 fun ⟨c', effects⟩ hstep => ?_
  have hmove := step_teardown (.inl hl) hstep
  cases hmove with
  | takes _ hteardown _ | takesDown _ hteardown _ | bereft _ hteardown _ =>
    rw [hholder] at hteardown
    cases hteardown
  | aborts _ _ _ => cases hl
  | asks h | halfCloses h | takesReader h _ | skipsReader h _ | drains h | drained h
  | expiresAwaiting h _ | expiresDraining h _ | forces h | releases h | publishes h =>
    rw [hstate] at h
    cases h

/-- The send that holds it up waits or writes. -/
theorem engaged (hheld : c.HeldUpBy i) (hkept : c.WriterKept) : c.Engaged i :=
  (hkept.sends i).1 (Lock.mem_line_of_holder hheld.holder)

theorem step (hheld : c.HeldUpBy i) (hin : c.InStep) (hkept : c.WriterKept) {l : Label}
    (hl : ¬l.touches i) (habort : l ≠ .abort) (h : c.step? l = some (c', effects)) :
    c'.HeldUpBy i := by
  obtain ⟨s, hs, -⟩ := hheld.engaged hkept
  obtain ⟨s', -, -, -, hfate⟩ := fate_of_step hkept h hs
  have hholder : c'.writer.holder = some (.send i) := by
    cases hfate with
    | rests _ _ _ hholder => exact hholder hheld.holder
    | moves hstep _ _ _ =>
      -- no label but those that touch the send makes it move
      refine absurd ?_ hl
      generalize s'.state = state at hstep
      cases hstep with
      | refused _ _ | empty _ _ _ | interrupted _ _ | waits _ _ | begins _ _ _ | bereft _ _
      | resumed _ _ => exact .inl rfl
      | dropped _ _ => exact .inr (.inl rfl)
      | paused _ | progressed _ _ _ | completed _ _ | failed _ => exact .inr (.inr ⟨_, rfl⟩)
  refine ⟨hholder, ?_⟩
  obtain ⟨wasConnected, hstate⟩ := hheld.awaits
  refine ⟨wasConnected, ?_⟩
  cases step_cases h with
  | made _ _ _ hc' _ | cancelled _ _ hc' _ =>
    subst hc'
    exact hstate
  | send i s _ _ hmoves =>
    obtain ⟨state, lock, octets, result, -, hsent⟩ := hmoves
    obtain ⟨connected, -, (rfl : c' = _)⟩ := hsent.connection
    exact hstate
  | receive i _ _ hapart =>
    obtain ⟨receives, reader, connected, -, (rfl : c' = _)⟩ := hapart.connection
    exact hstate
  | dispose _ hc' _ =>
    rcases hin.dispose_cases with ⟨habsent, -⟩ | ⟨-, hsame⟩
    · rw [hstate] at habsent
      cases habsent
    · rw [hc', hsame]
      exact hstate
  | teardown hteardown _ =>
    rw [hheld.step_eq_none (hteardown.resolve_right habort)] at h
    cases h

/-- It stays held up as long as nobody touches that send. -/
theorem run (hheld : c.HeldUpBy i) (hin : c.InStep) (hkept : c.WriterKept) {more : List Label}
    (hmore : ∀ l ∈ more, ¬l.touches i ∧ l ≠ .abort) (h : c.run? more = some (c', effects)) :
    c'.HeldUpBy i := by
  induction more generalizing c effects with
  | nil =>
    cases h
    exact hheld
  | cons l more ih =>
    obtain ⟨c₁, first, others, hstep, hrest, -⟩ := run?_cons_eq_some.1 h
    obtain ⟨⟨htouches, habort⟩, hothers⟩ := List.forall_mem_cons.1 hmore
    exact ih (hheld.step hin hkept htouches habort hstep) (hin.step hstep) (hkept.step hin hstep)
      hothers hrest

theorem outcome_eq_none (hheld : c.HeldUpBy i) (hin : c.InStep) : c.coordinator.outcome = none := by
  obtain ⟨wasConnected, hstate⟩ := hheld.awaits
  refine Classical.byContradiction fun hsome => ?_
  rw [hin.outcome_ne_none_iff.1 hsome] at hstate
  cases hstate

/-- When the send gives the half back, the line moves up. -/
theorem line_release (hheld : c.HeldUpBy i) :
    (c.writer.release (.send i)).line = c.writer.line.tail := by
  rw [Lock.line_release_of_holder hheld.holder, Lock.line_of_some hheld.holder, List.tail_cons]

/-- It does when it is dropped. -/
theorem drop (hheld : c.HeldUpBy i) (hkept : c.WriterKept) :
    ∃ c' effects, c.step? (.dropSend i) = some (c', effects) ∧
      c'.writer.line = c.writer.line.tail := by
  obtain ⟨s, hs, hengaged⟩ := hheld.engaged hkept
  refine ⟨(c.releaseWriter (.send i)).setSend i .dropped, [], ?_, hheld.line_release⟩
  show (c.sends[i]?).bind (c.dropSend i) = _
  rw [hs]
  show c.dropSend i s = _
  unfold dropSend
  split
  · next h =>
    rw [h] at hengaged
    cases hengaged
  · next h =>
    rw [h] at hengaged
    cases hengaged
  · rfl

/-- So it does when it is polled, since the token has fired. -/
theorem poll (hheld : c.HeldUpBy i) (hin : c.InStep) (hkept : c.WriterKept)
    (hrests : ∀ s rest, c.sends[i]? = some s → s.state ≠ .writing rest true) :
    ∃ c' effects, c.step? (.pollSend i) = some (c', effects) ∧
      c'.writer.line = c.writer.line.tail := by
  obtain ⟨s, hs, hengaged⟩ := hheld.engaged hkept
  -- the token fires with the request, so no poll of the send goes on
  have hfired : c.fired s.cancelled = some .disposal := by
    obtain ⟨wasConnected, hstate⟩ := hheld.awaits
    have htoken : c.coordinator.token = true := hin.token_eq_true_iff.2 (by simp [hstate])
    unfold fired
    rw [htoken]
    rfl
  refine ⟨(c.interruptSend i .disposal).1, (c.interruptSend i .disposal).2, ?_,
    hheld.line_release⟩
  rw [step_pollSend hs]
  unfold pollSend
  cases hstate : s.state with
  | waiting => simp only [hfired]
  | writing rest awake =>
    cases awake with
    | true => exact absurd hstate (hrests s rest hs)
    | false => simp only [hfired]
  | created | returned _ | dropped =>
    rw [hstate] at hengaged
    cases hengaged

end HeldUpBy

end

/-! ### All teardowns -/

/-- How a teardown that is under way goes on, or does not. -/
structure GoesOn (c : Connection) : Prop where
  /-- It has a step of its own, unless a send holds it up. -/
  advances : c.Advances ↔ ∀ i, ¬c.HeldUpBy i
  /-- If its way is clear, such steps alone bring it to its end: it asks for the two halves, closes
      the direction, and waits no longer than its deadline. -/
  finishes : c.Clear → ∃ labels c' effects, (∀ l ∈ labels, l.ofTeardown = true) ∧
    labels.length ≤ c.teardown.left ∧ c.run? labels = some (c', effects) ∧
    c'.coordinator.outcome ≠ none
  /-- If a send holds it up, that send waits or writes, and no step of the teardown is possible. -/
  stuck : ∀ i, c.HeldUpBy i → c.Engaged i ∧ ∀ l, l.ofTeardown = true → c.step? l = none
  /-- There is never an outcome as long as nobody touches that send. -/
  waits : ∀ i, c.HeldUpBy i → ∀ more c' effects, (∀ l ∈ more, ¬l.touches i ∧ l ≠ .abort) →
    c.run? more = some (c', effects) → c'.HeldUpBy i ∧ c'.coordinator.outcome = none
  /-- When it is dropped, or polled again, the teardown moves up by one place. -/
  movesUp : ∀ i, c.HeldUpBy i →
    (∃ c' effects, c.step? (.dropSend i) = some (c', effects) ∧
      c'.writer.line = c.writer.line.tail) ∧
    ((∀ s rest, c.sends[i]? = some s → s.state ≠ .writing rest true) →
      ∃ c' effects, c.step? (.pollSend i) = some (c', effects) ∧
        c'.writer.line = c.writer.line.tail)

/-- **Nothing stops a teardown but a send that holds the writing half.** -/
theorem goesOn_of_run {config : SocketConfig} {localAddress peerAddress : String} {timer : Timer}
    {labels : List Label} {c : Connection} {effects : List Effect}
    (h : (fresh config localAddress peerAddress timer).run? labels = some (c, effects))
    (hphase : c.coordinator.phase = .disposeRequested) : c.GoesOn := by
  have hfresh := InStep.fresh config localAddress peerAddress timer
  have hin := hfresh.run h
  have hkept := (WriterKept.fresh config localAddress peerAddress timer).run hfresh h
  refine ⟨⟨?_, ?_⟩, finishes_alone hin hkept hphase, ?_, ?_, ?_⟩
  · rintro ⟨l, c', others, hl, hstep, -⟩ i hheld
    rw [hheld.step_eq_none hl] at hstep
    cases hstep
  · intro hfree
    exact advance_of_not_heldUp hin hkept hphase hfree
  · exact fun i hheld => ⟨hheld.engaged hkept, fun l hl => hheld.step_eq_none hl⟩
  · intro i hheld more c' others hmore hrun
    have hheld' := hheld.run hin hkept hmore hrun
    exact ⟨hheld', hheld'.outcome_eq_none (hin.run hrun)⟩
  · exact fun i hheld => ⟨hheld.drop hkept, hheld.poll hin hkept⟩

/-- A send has to wait for the peer when the disposal is asked for, and another one waits behind it.
    The first one is dropped, so the second one gets the writing half without being polled, and the
    teardown stands behind it. -/
theorem goesOn_of_heir :
    let labels : List Label :=
      [.send [1, 2] false, .send [3] false, .pollSend 0, .write 0 .blocked, .pollSend 1, .dispose,
        .teardown 0, .dropSend 0]
    ∃ c effects, (fresh {} "" "").run? labels = some (c, effects) ∧
      c.coordinator.phase = .disposeRequested ∧ c.writer.line = [.send 1, .teardown] ∧
      c.GoesOn := by
  intro labels
  have hgoes {c : Connection} {effects : List Effect}
      (hrun : (fresh {} "" "").run? labels = some (c, effects))
      (hphase : c.coordinator.phase = .disposeRequested) : c.GoesOn :=
    goesOn_of_run hrun hphase
  exact ⟨_, _, rfl, rfl, rfl, hgoes rfl rfl⟩

/-- So a teardown can be blocked by a caller that is idle: a send has written a part of its buffer
    and has to wait, the disposal is asked for, and unless somebody polls or drops the send the
    teardown has no step of its own. -/
theorem blocked_by_idle_send :
    ∃ c effects, (fresh {} "" "").run?
        [.send [1, 2] false, .pollSend 0, .write 0 (.accepted 1), .write 0 .blocked, .dispose,
          .teardown 0] = some (c, effects) ∧
      c.coordinator.phase = .disposeRequested ∧ c.coordinator.outcome = none ∧
      ∀ l, l.ofTeardown = true → c.step? l = none := by
  refine ⟨_, _, rfl, rfl, rfl, ?_⟩
  intro l hl
  cases l with
  | teardown now => rfl
  | halfClose answer now => cases answer <;> rfl
  | drain answer => cases answer <;> rfl
  | expire now => rfl
  | force answer => rfl
  | send _ _ | pollSend _ | write _ _ | dropSend _ | cancelSend _ | receive _ | pollReceive _
  | read _ _ | dropReceive _ | cancelReceive _ | dispose | abort => cases hl

end Duplex.Connection
