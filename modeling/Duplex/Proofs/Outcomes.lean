import Duplex.Proofs.Accounts
import Duplex.Proofs.GoingDown

/-! # What a teardown comes to

  A run of a teardown meets what the table lists, and returns the outcome that the table gives,
  whatever sends and receive streams do meanwhile (`Underway`). And it can meet all that the table
  lists: each course of it is that of some run (`Begins.leads`). Both together say what a teardown
  returns, and that it does (`exactOutcome_of_run`).

  The task of a teardown can be cut short. Then it does not return, and its outcome says so.
-/

namespace Duplex

namespace Connection

/-! ### Moves of connections -/

/-- What a label brings to the teardown. -/
def Label.act? : Label → Option Act
  | .halfClose answer _ => some (.halfClosed answer)
  | .drain answer => some (.read answer)
  | .expire _ => some .expired
  | .force answer => some (.forced answer)
  | _ => none

/-- What the teardown meets in a run. -/
def acts (labels : List Label) : List Act := labels.filterMap Label.act?

theorem acts_concat (labels : List Label) (l : Label) :
    acts (labels ++ [l]) = acts labels ++ l.act?.toList := by
  cases h : l.act? <;> simp [acts, h]

theorem act?_eq_none {l : Label} (h : l.ofTeardown = false) : l.act? = none := by
  cases l <;> first | rfl | cases h

section

variable {c c' : Connection} {effects : List Effect}

/-- Both halves are where the teardown looks for them. -/
structure Whole (c : Connection) : Prop where
  write : ∀ wasConnected, c.teardown = .awaitingWriter wasConnected → c.writeHalf = true
  read : ∀ wasConnected outcome deadline,
    c.teardown = .awaitingReader wasConnected outcome deadline → c.readHalf = true

theorem next_runTeardown (hwhole : c.Whole) (hstarted : c.teardown ≠ .requested) {now : Nat}
    {stepped : Stepped} (h : c.runTeardown now = some stepped) :
    c.teardown.Next none stepped.1.teardown := by
  unfold runTeardown at h
  split at h
  · next hstate => exact absurd hstate hstarted
  · next wasConnected hstate =>
    have hhalf := hwhole.write wasConnected hstate
    rw [hstate]
    split at h
    · cases h
      cases wasConnected
      · simp only [takeWriter, releaseWriter, hhalf]
        exact .takesDown _
      · simp only [takeWriter, releaseWriter, hhalf]
        exact .takes
    · cases h
  · next wasConnected outcome deadline hstate =>
    have hhalf := hwhole.read wasConnected outcome deadline hstate
    rw [hstate]
    split at h
    · cases h
      cases wasConnected
      · simp only [takeReader, Bool.false_and]
        exact .skipsReader outcome deadline
      · simp only [takeReader, hhalf, Bool.true_and]
        exact .takesReader outcome deadline
    · cases h
  · next outcome hstate =>
    cases h
    rw [hstate]
    exact .releases outcome
  · next outcome hstate =>
    cases h
    rw [hstate]
    exact .publishes outcome
  all_goals cases h

theorem next_halfClose {answer : Except IoError Unit} {now : Nat} {stepped : Stepped}
    (h : c.halfClose answer now = some stepped) :
    c.teardown.Next (some (.halfClosed answer)) stepped.1.teardown := by
  unfold halfClose at h
  split at h
  · next hstate =>
    cases h
    rw [hstate]
    exact .halfCloses _ _
  · next hstate =>
    cases h
    rw [hstate]
    exact .halfCloses _ _
  · cases h

theorem next_drain {answer : ReadAnswer} {stepped : Stepped} (h : c.drain answer = some stepped) :
    c.teardown.Next (some (.read answer)) stepped.1.teardown := by
  unfold drain at h
  split at h
  · next hstate =>
    cases h
    rw [hstate]
    exact .drains _ _ _ rfl
  · next hstate =>
    cases h
    rw [hstate]
    exact .drains _ _ _ rfl
  · next hstate =>
    cases h
    rw [hstate]
    exact .closed _ _
  · next e hstate =>
    split at h
    · next he =>
      cases h
      rw [hstate]
      exact .drains _ _ _ (decide_eq_true he)
    · next he =>
      cases h
      rw [hstate]
      exact .failed e _ _ he
  · cases h

theorem next_expire {now : Nat} {stepped : Stepped} (h : c.expire now = some stepped) :
    c.teardown.Next (some .expired) stepped.1.teardown := by
  unfold expire at h
  split at h
  · next hstate =>
    split at h
    · cases h
      rw [hstate]
      exact .expiresAwaiting _ _ _
    · cases h
  · next hstate =>
    split at h
    · cases h
      rw [hstate]
      exact .expiresDraining _ _
    · cases h
  · cases h

theorem next_force {answer : Except IoError Unit} {stepped : Stepped}
    (h : c.force answer = some stepped) :
    c.teardown.Next (some (.forced answer)) stepped.1.teardown := by
  unfold force at h
  split at h
  · next hstate =>
    cases h
    rw [hstate]
    exact .forces _ _
  · cases h

theorem next_of_step (hwhole : c.Whole) (hstarted : c.teardown ≠ .requested) {l : Label}
    (hl : l.ofTeardown = true) (h : c.step? l = some (c', effects)) :
    c.teardown.Next l.act? c'.teardown := by
  cases l with
  | teardown now => exact next_runTeardown hwhole hstarted h
  | halfClose answer now => exact next_halfClose h
  | drain answer => exact next_drain h
  | expire now => exact next_expire h
  | force answer => exact next_force h
  | send _ _ | pollSend _ | write _ _ | dropSend _ | cancelSend _ | receive _ | pollReceive _
  | read _ _ | dropReceive _ | cancelReceive _ | dispose | abort => cases hl

/-- What a step of anybody else leaves as it is, once the disposal was asked for. -/
theorem rests_of_step (hin : c.InStep) (hstarted : c.teardown ≠ .absent) {l : Label}
    (hl : l.ofTeardown = false) (habort : l ≠ .abort) (h : c.step? l = some (c', effects)) :
    c'.teardown = c.teardown ∧ c'.coordinator = c.coordinator ∧ c.LeavesHalves c' := by
  have hleaves : c.LeavesHalves c' := by
    refine (leavesHalves_or_teardown h).resolve_right fun hmove => ?_
    cases hmove <;> first | exact habort rfl | cases hl
  cases step_cases h with
  | made _ _ _ hc' _ | cancelled _ _ hc' _ =>
    subst hc'
    exact ⟨rfl, rfl, hleaves⟩
  | send i s _ _ hmoves =>
    obtain ⟨state, lock, octets, result, -, hsent⟩ := hmoves
    obtain ⟨connected, -, (rfl : c' = _)⟩ := hsent.connection
    exact ⟨rfl, rfl, hleaves⟩
  | receive i _ _ hapart =>
    obtain ⟨receives, reader, connected, -, (rfl : c' = _)⟩ := hapart.connection
    exact ⟨rfl, rfl, hleaves⟩
  | dispose _ hc' _ =>
    rcases hin.dispose_cases with ⟨habsent, -⟩ | ⟨-, hsame⟩
    · exact absurd habsent hstarted
    · rw [hc', hsame] at hleaves ⊢
      exact ⟨rfl, rfl, hleaves⟩
  | teardown hteardown _ =>
    rcases hteardown with hof | rfl
    · rw [hl] at hof
      cases hof
    · exact absurd rfl habort

/-- The reading half is behind its lock until the teardown takes it. -/
def ReaderThere (c : Connection) : Prop :=
  c.teardown = .absent ∨ 5 ≤ c.teardown.left → c.readHalf = true

namespace ReaderThere

theorem teardown (hc : c.ReaderThere) {l : Label} (h : TeardownStep c l c' effects) :
    c'.ReaderThere := by
  cases h with
  | drains _ => exact hc
  | asks hstate | takes hstate _ _ | takesDown hstate _ _ | halfCloses hstate =>
    exact fun _ => hc (by simp [hstate, TeardownState.left])
  | bereft _ _ _ | takesReader _ _ | skipsReader _ _ | drained _ | expiresAwaiting _ _
  | expiresDraining _ _ | forces _ | releases _ | publishes _ | aborts _ _ _ =>
    exact fun hleft => by simp [TeardownState.left] at hleft

theorem step (hc : c.ReaderThere) (hin : c.InStep) {l : Label}
    (h : c.step? l = some (c', effects)) : c'.ReaderThere := by
  rcases leavesHalves_or_teardown h with hleaves | hmove
  · intro hleft
    rw [hleaves.readHalf]
    by_cases habsent : c.teardown = .absent
    · exact hc (.inl habsent)
    · by_cases hof : l.ofTeardown = true ∨ l = .abort
      · exact hleaves.readHalf ▸ hc.teardown (step_teardown hof h) hleft
      · obtain ⟨hl, habort⟩ := not_or.1 hof
        have hsame := (rests_of_step hin habsent (Bool.eq_false_iff.2 hl) habort h).1
        exact hc (hsame ▸ hleft)
  · exact hc.teardown hmove

theorem run (hc : c.ReaderThere) (hin : c.InStep) {labels : List Label}
    (h : c.run? labels = some (c', effects)) : c'.ReaderThere :=
  (run_keeps (P := fun c => c.InStep ∧ c.ReaderThere)
    (fun hstep hc => ⟨hc.1.step hstep, hc.2.step hc.1 hstep⟩) h ⟨hin, hc⟩).2

end ReaderThere

/-- What is so of any connection that was made new and then used. -/
structure Kept (c : Connection) : Prop where
  inStep : c.InStep
  writer : c.WriterKept
  reader : c.ReaderThere

namespace Kept

theorem fresh (config : SocketConfig) (localAddress peerAddress : String) (timer : Timer) :
    (fresh config localAddress peerAddress timer).Kept where
  inStep := .fresh config localAddress peerAddress timer
  writer := .fresh config localAddress peerAddress timer
  reader _ := rfl

theorem run (hc : c.Kept) {labels : List Label} (h : c.run? labels = some (c', effects)) :
    c'.Kept :=
  ⟨hc.inStep.run h, hc.writer.run hc.inStep h, hc.reader.run hc.inStep h⟩

theorem whole (hc : c.Kept) : c.Whole where
  write was hstate := hc.writer.half (.inr (.inr ⟨was, hstate⟩))
  read was outcome deadline hstate := hc.reader (.inr (by simp [hstate, TeardownState.left]))

end Kept

/-! ### Runs -/

/-- How far a teardown that found the connection up, or down, has come, with what it has met. -/
structure Underway (wasConnected : Bool) (labels : List Label) (c : Connection)
    (effects : List Effect) : Prop where
  stage : c.teardown.Stage wasConnected (acts labels)
  told : ∀ o, c.coordinator.outcome = some o → Account wasConnected (acts labels) o
  down : c.connected = false
  /-- Once the teardown has waited for it, it has the writing half. -/
  taken : (∀ was, c.teardown ≠ .awaitingWriter was) → c.writeHalf = false
  /-- It has given it up before it closes. -/
  dropped : c.teardown.left ≤ 1 → .writerDropped ∈ effects

namespace Underway

variable {wasConnected : Bool} {labels : List Label} {first others : List Effect} {l : Label}

/-- A step of somebody else. -/
theorem rests (h : Underway wasConnected labels c first) (hin : c.InStep)
    (hl : l.ofTeardown = false) (habort : l ≠ .abort) (hstep : c.step? l = some (c', others)) :
    Underway wasConnected (labels ++ [l]) c' (first ++ others) := by
  have hstarted : c.teardown ≠ .absent := fun habsent => by
    have hstage := h.stage
    rw [habsent] at hstage
    exact hstage
  obtain ⟨hteardown, hcoordinator, hleaves⟩ := rests_of_step hin hstarted hl habort hstep
  have hacts : acts (labels ++ [l]) = acts labels := by
    rw [acts_concat, act?_eq_none hl, Option.toList_none, List.append_nil]
  refine ⟨?_, ?_, hleaves.connected h.down, ?_, ?_⟩
  · rw [hteardown, hacts]
    exact h.stage
  · rw [hcoordinator, hacts]
    exact h.told
  · rw [hteardown, hleaves.writeHalf]
    exact h.taken
  · rw [hteardown]
    exact fun hleft => List.mem_append_left _ (h.dropped hleft)

/-- A move of the teardown. -/
theorem moves (h : Underway wasConnected labels c first) (hc : c.Kept)
    (hl : l.ofTeardown = true) (hstep : c.step? l = some (c', others)) :
    Underway wasConnected (labels ++ [l]) c' (first ++ others) := by
  have hstarted : c.teardown ≠ .requested := fun hrequested => by
    have hstage := h.stage
    rw [hrequested] at hstage
    exact hstage
  have hnext := next_of_step hc.whole hstarted hl hstep
  have hstage := h.stage.next hnext
  rw [← acts_concat] at hstage
  have hmove := step_teardown (.inl hl) hstep
  refine ⟨hstage, ?_, ?_, ?_, ?_⟩
  · -- nothing was told before, since the teardown was not over yet
    have hnone : c.coordinator.outcome = none := by
      by_contra hsome
      rw [hc.inStep.outcome_ne_none_iff.1 hsome] at hnext
      cases hnext
    intro o ho
    cases hmove with
    | @publishes _ outcome hstate =>
      cases ho
      have haccount : c.teardown.Stage wasConnected (acts labels) := h.stage
      rw [hstate, TeardownState.Stage] at haccount
      rw [acts_concat]
      simpa [Label.act?] using haccount
    | asks | takes | takesDown | bereft | halfCloses | takesReader | skipsReader | drains | drained
    | expiresAwaiting | expiresDraining | forces | releases | aborts =>
      rw [hnone] at ho
      cases ho
  · cases hmove <;> first | rfl | exact h.down
  · cases hmove with
    | asks hstate => exact absurd hstate hstarted
    | takes | takesDown => exact fun _ => rfl
    | bereft _ _ hhalf => exact fun _ => hhalf
    | halfCloses hstate | takesReader hstate _ | skipsReader hstate _ | drains hstate
    | drained hstate | expiresAwaiting hstate _ | expiresDraining hstate _ | forces hstate
    | releases hstate | publishes hstate => exact fun _ => h.taken (by simp [hstate])
    | aborts => cases hl
  · intro hleft
    cases hmove with
    | releases => simp
    | publishes hstate =>
      exact List.mem_append_left _ (h.dropped (by simp [hstate, TeardownState.left]))
    | drains hstate => simp [hstate, TeardownState.left] at hleft
    | bereft hstate _ hhalf =>
      rw [hc.whole.write _ hstate] at hhalf
      cases hhalf
    | aborts => cases hl
    | asks | takes | takesDown | halfCloses | takesReader | skipsReader | drained | expiresAwaiting
    | expiresDraining | forces => simp [TeardownState.left] at hleft

end Underway

/-- The first move of a teardown finds out whether the connection is up, and marks it as down. -/
theorem step_of_requested (hstate : c.teardown = .requested) (now : Nat) :
    c.step? (.teardown now) = some ({ c with
      connected := false
      writer := c.writer.request .teardown
      teardown := .awaitingWriter c.connected }, []) := by
  simp only [step?, runTeardown, hstate]

theorem underway_of_run {c₀ : Connection} (hc : c₀.Kept) (hstate : c₀.teardown = .requested)
    {now : Nat} {labels : List Label} (habort : .abort ∉ labels)
    (h : c₀.run? (.teardown now :: labels) = some (c, effects)) :
    Underway c₀.connected labels c effects := by
  obtain ⟨c₁, first, others, hstep, hrun, rfl⟩ := run?_cons_eq_some.1 h
  have hc₁ : c₁.Kept := hc.run (run?_singleton.trans hstep)
  rw [step_of_requested hstate] at hstep
  cases hstep
  rw [List.nil_append]
  -- what is underway after the first move stays so, by whomever the next step is
  refine run_induction (P := fun labels c effects => .abort ∉ labels →
    Underway c₀.connected labels c effects) (fun _ => ?_) ?_ hrun habort
  · have hnone : c₀.coordinator.outcome = none := by
      by_contra hsome
      rw [hc.inStep.outcome_ne_none_iff.1 hsome] at hstate
      cases hstate
    refine ⟨⟨rfl, rfl⟩, fun o ho => ?_, rfl, fun hnot => absurd rfl (hnot _), fun hleft => ?_⟩
    · rw [show c₀.coordinator.outcome = some o from ho] at hnone
      cases hnone
    · simp [TeardownState.left] at hleft
  · intro labels c₂ first l c₃ others hbefore ih hstep habort
    obtain ⟨hrest, hlast⟩ := not_or.1 (mt List.mem_append.2 habort)
    have hne : l ≠ .abort := fun hl => hlast (by simp [hl])
    have hunderway := ih hrest
    have hc₂ := hc₁.run hbefore
    cases hl : l.ofTeardown with
    | true => exact hunderway.moves hc₂ hl hstep
    | false => exact hunderway.rests hc₂.inStep hl hne hstep

/-! ### Each course is one of some run -/

/-- The teardown goes from `c` to `c'` by its own moves, and meets this on the way. -/
def Leads (c : Connection) (met : List Act) (c' : Connection) : Prop :=
  ∃ labels effects, (∀ l ∈ labels, l.ofTeardown = true) ∧ acts labels = met ∧
    c.run? labels = some (c', effects)

theorem Leads.refl (c : Connection) : c.Leads [] c := ⟨[], [], by simp, rfl, rfl⟩

theorem Leads.trans {c₁ : Connection} {met more : List Act} (h : c.Leads met c₁)
    (hmore : c₁.Leads more c') : c.Leads (met ++ more) c' := by
  obtain ⟨labels, effects, hlabels, rfl, hrun⟩ := h
  obtain ⟨others, last, hothers, rfl, hrest⟩ := hmore
  refine ⟨labels ++ others, effects ++ last, ?_, List.filterMap_append,
    run?_append_eq_some.2 ⟨c₁, effects, last, hrun, hrest, rfl⟩⟩
  intro l hl
  rcases List.mem_append.1 hl with hl | hl
  · exact hlabels l hl
  · exact hothers l hl

theorem leads_of_step {l : Label} (hl : l.ofTeardown = true) (h : c.step? l = some (c', effects)) :
    c.Leads l.act?.toList c' :=
  ⟨[l], effects, by simpa using hl, by cases hact : l.act? <;> simp [acts, hact],
    run?_singleton.trans h⟩

/-- A teardown that is about to give up the writing half comes to its end. -/
theorem leads_releasing {outcome : DisposeOutcome} (hstate : c.teardown = .releasing outcome) :
    ∃ c', c.Leads [] c' ∧ c'.coordinator.outcome = some outcome := by
  have hreleases : ∃ c₁ effects, c.step? (.teardown 0) = some (c₁, effects) ∧
      c₁.teardown = .closing outcome := by
    simp only [step?, runTeardown, hstate]
    exact ⟨_, _, rfl, rfl⟩
  obtain ⟨c₁, first, hfirst, hclosing⟩ := hreleases
  have hpublishes : ∃ c₂ effects, c₁.step? (.teardown 0) = some (c₂, effects) ∧
      c₂.coordinator.outcome = some outcome := by
    simp only [step?, runTeardown, hclosing]
    exact ⟨_, _, rfl, rfl⟩
  obtain ⟨c₂, second, hsecond, houtcome⟩ := hpublishes
  exact ⟨c₂, (leads_of_step rfl hfirst).trans (leads_of_step rfl hsecond), houtcome⟩

/-- So does one that a move takes there. -/
theorem leads_end {l : Label} {outcome : DisposeOutcome} (hl : l.ofTeardown = true)
    (h : ∃ c₁ effects, c.step? l = some (c₁, effects) ∧ c₁.teardown = .releasing outcome) :
    ∃ c', c.Leads l.act?.toList c' ∧ c'.coordinator.outcome = some outcome := by
  obtain ⟨c₁, effects, hstep, hreleasing⟩ := h
  obtain ⟨c', hleads, houtcome⟩ := leads_releasing hreleasing
  rw [← List.append_nil l.act?.toList]
  exact ⟨c', (leads_of_step hl hstep).trans hleads, houtcome⟩

/-- A teardown that has run out of time closes both directions. -/
theorem leads_forcing {outcome : DisposeOutcome} (hstate : c.teardown = .forcing outcome)
    (answer : Except IoError Unit) :
    ∃ c', c.Leads [.forced answer] c' ∧ c'.coordinator.outcome = some (lower outcome) := by
  refine leads_end (l := .force answer) rfl ?_
  simp only [step?, force, hstate]
  exact ⟨_, _, rfl, rfl⟩

/-- What the teardown may read before it ends leaves the connection as it is. -/
theorem leads_reads {outcome : DisposeOutcome} {deadline : Nat}
    (hstate : c.teardown = .draining outcome deadline) {reads : List ReadAnswer}
    (hreads : ∀ r ∈ reads, r.goesOn = true) : c.Leads (reads.map .read) c := by
  induction reads with
  | nil => exact .refl c
  | cons r reads ih =>
    obtain ⟨hr, hrest⟩ := List.forall_mem_cons.1 hreads
    have hstep : c.step? (.drain r) = some (c, []) := by
      cases r with
      | chunk | blocked => simp only [step?, drain, hstate]
      | closed => cases hr
      | failed e => simp only [step?, drain, hstate, if_pos (of_decide_eq_true hr)]
    exact (leads_of_step (l := .drain r) rfl hstep).trans (ih hrest)

/-- What a teardown that reads may come to after that: the peer's close, an error, or its
    deadline. -/
theorem leads_closed {outcome : DisposeOutcome} {deadline : Nat}
    (hstate : c.teardown = .draining outcome deadline) :
    ∃ c', c.Leads [.read .closed] c' ∧ c'.coordinator.outcome = some outcome := by
  refine leads_end (l := .drain .closed) rfl ?_
  simp only [step?, drain, hstate]
  exact ⟨_, _, rfl, rfl⟩

theorem leads_failed {outcome : DisposeOutcome} {deadline : Nat}
    (hstate : c.teardown = .draining outcome deadline) {e : IoError} (he : e.kind ≠ .interrupted) :
    ∃ c', c.Leads [.read (.failed e)] c' ∧ c'.coordinator.outcome = some (lower outcome) := by
  refine leads_end (l := .drain (.failed e)) rfl ?_
  simp only [step?, drain, hstate, if_neg he]
  exact ⟨_, _, rfl, rfl⟩

/-- A teardown that waits for the reading half, or reads. -/
theorem leads_expired {outcome : DisposeOutcome} {deadline : Nat}
    (hstate : (∃ was, c.teardown = .awaitingReader was outcome deadline) ∨
      c.teardown = .draining outcome deadline) (answer : Except IoError Unit) :
    ∃ c', c.Leads [.expired, .forced answer] c' ∧
      c'.coordinator.outcome = some (lower outcome) := by
  have hexpires : ∃ c₁ effects, c.step? (.expire deadline) = some (c₁, effects) ∧
      c₁.teardown = .forcing outcome := by
    rcases hstate with ⟨was, hstate⟩ | hstate
    · simp only [step?, expire, hstate, if_pos (Nat.le_refl deadline)]
      exact ⟨_, _, rfl, rfl⟩
    · simp only [step?, expire, hstate, if_pos (Nat.le_refl deadline)]
      exact ⟨_, _, rfl, rfl⟩
  obtain ⟨c₁, first, hfirst, hforcing⟩ := hexpires
  obtain ⟨c', hleads, houtcome⟩ := leads_forcing hforcing answer
  exact ⟨c', (leads_of_step (l := .expire deadline) rfl hfirst).trans hleads, houtcome⟩

/-! ### Beginnings -/

/-- A teardown has been asked for, and the writing half is free. -/
structure Begins (c : Connection) : Prop where
  state : c.teardown = .requested
  free : c.writer.holder = none
  writeHalf : c.writeHalf = true
  readHalf : c.readHalf = true

/-- The connection after the teardown has found out whether it is up. -/
def asked (c : Connection) : Connection :=
  { c with
    connected := false
    writer := c.writer.request .teardown
    teardown := .awaitingWriter c.connected }

theorem Begins.takes (h : c.Begins) : c.Leads [] (c.asked.takeWriter c.connected 0) := by
  have hheld : (c.writer.request .teardown).heldBy .teardown = true := by
    simp [Lock.heldBy, Lock.request, h.free]
  have htakes : c.asked.step? (.teardown 0) = some (c.asked.takeWriter c.connected 0, []) := by
    simp only [step?, runTeardown, asked, hheld, if_true]
  exact (leads_of_step rfl (step_of_requested h.state 0)).trans (leads_of_step rfl htakes)

/-- What is left for the teardown to do once it has asked for the reading half. -/
structure AwaitsReader (c : Connection) (was : Bool) (outcome : DisposeOutcome) (c₀ : Connection) :
    Prop where
  state : ∃ deadline, c.teardown = .awaitingReader was outcome deadline
  reader : c.reader = c₀.reader.request .teardown
  readHalf : c.readHalf = true

theorem Begins.down (h : c.Begins) (hdown : c.connected = false) :
    ∃ c', c.Leads [] c' ∧ c'.AwaitsReader false .notConnected c := by
  refine ⟨_, h.takes, ?_⟩
  rw [hdown]
  simp only [takeWriter, releaseWriter, asked, h.writeHalf]
  exact ⟨⟨_, rfl⟩, rfl, h.readHalf⟩

theorem Begins.up (h : c.Begins) (hup : c.connected = true) (answer : Except IoError Unit) :
    ∃ c', c.Leads [.halfClosed answer] c' ∧ c'.AwaitsReader true (aim answer) c := by
  have htakes := h.takes
  have hcloses : ∃ c₁ effects,
      (c.asked.takeWriter c.connected 0).step? (.halfClose answer 0) = some (c₁, effects) ∧
        c₁.AwaitsReader true (aim answer) c := by
    rw [hup]
    simp only [takeWriter, releaseWriter, asked, h.writeHalf]
    cases answer with
    | ok => exact ⟨_, _, rfl, ⟨⟨_, rfl⟩, rfl, h.readHalf⟩⟩
    | error e => exact ⟨_, _, rfl, ⟨⟨_, rfl⟩, rfl, h.readHalf⟩⟩
  obtain ⟨c₁, first, hfirst, hawaits⟩ := hcloses
  exact ⟨c₁, htakes.trans (leads_of_step (l := .halfClose answer 0) rfl hfirst), hawaits⟩

/-- If the reading half was free, the teardown has it. -/
theorem AwaitsReader.held {c₀ : Connection} {was : Bool} {outcome : DisposeOutcome}
    (h : c.AwaitsReader was outcome c₀) (hfree : c₀.reader.holder = none) :
    c.reader.heldBy .teardown = true := by
  simp [h.reader, Lock.heldBy, Lock.request, hfree]

theorem AwaitsReader.skips {c₀ : Connection} {outcome : DisposeOutcome}
    (h : c.AwaitsReader false outcome c₀) (hfree : c₀.reader.holder = none) :
    ∃ c', c.Leads [] c' ∧ c'.coordinator.outcome = some outcome := by
  obtain ⟨deadline, hstate⟩ := h.state
  refine leads_end (l := .teardown 0) rfl ?_
  simp only [step?, runTeardown, hstate, h.held hfree, takeReader]
  exact ⟨_, _, rfl, rfl⟩

theorem AwaitsReader.drains {c₀ : Connection} {outcome : DisposeOutcome}
    (h : c.AwaitsReader true outcome c₀) (hfree : c₀.reader.holder = none) :
    ∃ c' deadline, c.Leads [] c' ∧ c'.teardown = .draining outcome deadline := by
  obtain ⟨deadline, hstate⟩ := h.state
  have htakes : ∃ c₁ effects, c.step? (.teardown 0) = some (c₁, effects) ∧
      c₁.teardown = .draining outcome deadline := by
    simp only [step?, runTeardown, hstate, h.held hfree, takeReader, h.readHalf]
    exact ⟨_, _, rfl, rfl⟩
  obtain ⟨c₁, first, hfirst, hdraining⟩ := htakes
  exact ⟨c₁, deadline, leads_of_step rfl hfirst, hdraining⟩

/-- The time was up before the teardown had the reading half. -/
def Held (met : List Act) : Prop := .expired ∈ met ∧ ∀ answer, .read answer ∉ met

/-- If the writing half is free, and the reading half is or need not be, the teardown can meet
    whatever is in the table, and returns what the table says. -/
theorem Begins.leads (h : c.Begins) {met : List Act} {outcome : DisposeOutcome}
    (haccount : Account c.connected met outcome)
    (hreader : c.reader.holder = none ∨ Held met) :
    ∃ c', c.Leads met c' ∧ c'.coordinator.outcome = some outcome := by
  generalize hwas : c.connected = was at haccount
  cases haccount with
  | down =>
    have hfree : c.reader.holder = none := hreader.resolve_right fun hheld => by cases hheld.1
    obtain ⟨c₁, hbegins, hawaits⟩ := h.down hwas
    obtain ⟨c', hskips, houtcome⟩ := hawaits.skips hfree
    exact ⟨c', hbegins.trans hskips, houtcome⟩
  | downHeld forced =>
    obtain ⟨c₁, hbegins, hawaits⟩ := h.down hwas
    obtain ⟨deadline, hstate⟩ := hawaits.state
    obtain ⟨c', hexpires, houtcome⟩ := leads_expired (.inl ⟨false, hstate⟩) forced
    exact ⟨c', hbegins.trans hexpires, houtcome⟩
  | closed answer reads hreads =>
    have hfree : c.reader.holder = none :=
      hreader.resolve_right fun hheld => hheld.2 .closed (by simp)
    obtain ⟨c₁, hbegins, hawaits⟩ := h.up hwas answer
    obtain ⟨c₂, deadline, htakes, hstate⟩ := hawaits.drains hfree
    obtain ⟨c', hcloses, houtcome⟩ := leads_closed hstate
    exact ⟨c', hbegins.trans (htakes.trans ((leads_reads hstate hreads).trans hcloses)), houtcome⟩
  | failed answer reads e hreads he =>
    have hfree : c.reader.holder = none :=
      hreader.resolve_right fun hheld => hheld.2 (.failed e) (by simp)
    obtain ⟨c₁, hbegins, hawaits⟩ := h.up hwas answer
    obtain ⟨c₂, deadline, htakes, hstate⟩ := hawaits.drains hfree
    obtain ⟨c', hfails, houtcome⟩ := leads_failed hstate he
    rw [lower_aim] at houtcome
    exact ⟨c', hbegins.trans (htakes.trans ((leads_reads hstate hreads).trans hfails)), houtcome⟩
  | expired answer forced reads hreads =>
    obtain ⟨c₁, hbegins, hawaits⟩ := h.up hwas answer
    rcases hreader with hfree | hheld
    · obtain ⟨c₂, deadline, htakes, hstate⟩ := hawaits.drains hfree
      obtain ⟨c', hexpires, houtcome⟩ := leads_expired (.inr hstate) forced
      rw [lower_aim] at houtcome
      exact ⟨c', hbegins.trans (htakes.trans ((leads_reads hstate hreads).trans hexpires)),
        houtcome⟩
    · -- whoever holds the reading half lets the teardown read nothing
      have hnil : reads = [] :=
        List.eq_nil_iff_forall_not_mem.2 fun r hr => hheld.2 r (by simp [hr])
      subst hnil
      obtain ⟨deadline, hstate⟩ := hawaits.state
      obtain ⟨c', hexpires, houtcome⟩ := leads_expired (.inl ⟨true, hstate⟩) forced
      rw [lower_aim] at houtcome
      exact ⟨c', hbegins.trans hexpires, houtcome⟩

end

/-! ### The law -/

/-- What has become of the connection `c` when its teardown, which has met this, returns. -/
structure TornDown (wasConnected : Bool) (met : List Act) (c : Connection) (effects : List Effect)
    (outcome : DisposeOutcome) : Prop where
  /-- What it has met and what it returns are in the table. -/
  account : Account wasConnected met outcome
  graceful : outcome = .graceful ↔
    wasConnected = true ∧ .halfClosed (.ok ()) ∈ met ∧ .read .closed ∈ met
  notConnected : outcome = .notConnected ↔ wasConnected = false
  forced : outcome = .forced ↔
    wasConnected = true ∧ ¬(.halfClosed (.ok ()) ∈ met ∧ .read .closed ∈ met)
  notAborted : outcome ≠ .aborted
  /-- The connection is marked as down. -/
  down : c.connected = false
  /-- The teardown has taken the writing half, and has given it up. -/
  released : c.writeHalf = false ∧ .writerDropped ∈ effects
  /-- A connection that was down is neither closed on this side nor read. -/
  untouched : wasConnected = false →
    (∀ answer, .halfClosed answer ∉ met) ∧ ∀ answer, .read answer ∉ met
  /-- When the time is up both directions are closed, and the peer's close was not read. -/
  shut : .expired ∈ met → (∃ answer, .forced answer ∈ met) ∧ .read .closed ∉ met

/-- What teardowns of the connection `c₀`, which are about to run, come to. -/
structure ExactOutcome (c₀ : Connection) : Prop where
  /-- A teardown that returns has met what the table lists and returns what it says, whatever sends
      and receive streams do meanwhile. -/
  sound : ∀ now labels c effects outcome, .abort ∉ labels →
    c₀.run? (.teardown now :: labels) = some (c, effects) →
    c.coordinator.outcome = some outcome →
    TornDown c₀.connected (acts labels) c effects outcome
  /-- It can meet, and returns from, all that the table lists, if nobody keeps the writing half from
      it; the reading half it needs only where it reads. -/
  returns : c₀.writer.holder = none → ∀ met outcome, Account c₀.connected met outcome →
    c₀.reader.holder = none ∨ Held met →
    ∃ labels c effects, .abort ∉ labels ∧ acts labels = met ∧
      c₀.run? labels = some (c, effects) ∧ c.coordinator.outcome = some outcome

/-- **The outcome of a teardown is exact.** -/
theorem exactOutcome_of_run {config : SocketConfig} {localAddress peerAddress : String}
    {timer : Timer} {past : List Label} {c₀ : Connection} {before : List Effect}
    (h : (fresh config localAddress peerAddress timer).run? past = some (c₀, before))
    (hstate : c₀.teardown = .requested) : c₀.ExactOutcome := by
  have hkept := (Kept.fresh config localAddress peerAddress timer).run h
  constructor
  · intro now labels c effects outcome habort hrun houtcome
    have hunderway := underway_of_run hkept hstate habort hrun
    have hfinished : c.teardown = .finished := by
      refine (hkept.run hrun).inStep.outcome_ne_none_iff.1 ?_
      simp [houtcome]
    have haccount := hunderway.told outcome houtcome
    refine ⟨haccount, haccount.graceful_iff, haccount.notConnected_iff, haccount.forced_iff,
      haccount.ne_aborted, hunderway.down, ⟨?_, ?_⟩, fun hdown => ?_, haccount.shut⟩
    · exact hunderway.taken (by simp [hfinished])
    · exact hunderway.dropped (by simp [hfinished, TeardownState.left])
    · rw [hdown] at haccount
      exact ⟨fun _ hmet => by simpa using haccount.untouched hmet,
        fun _ hmet => by simpa using haccount.untouched hmet⟩
  · intro hfree met outcome haccount hreader
    have hbegins : c₀.Begins :=
      ⟨hstate, hfree, hkept.writer.half (.inr (.inl hstate)),
        hkept.reader (.inr (by simp [hstate, TeardownState.left]))⟩
    obtain ⟨c', ⟨labels, effects, hlabels, hmet, hrun⟩, houtcome⟩ := hbegins.leads haccount hreader
    exact ⟨labels, c', effects, fun habort => (by cases hlabels _ habort), hmet, hrun, houtcome⟩

/-- The disposal is asked for while a receive stream holds the reading half. If it gives it back,
    the teardown reads two octets, is interrupted, and then sees that the peer has closed; if it
    keeps it, the time is up. -/
theorem exactOutcome_of_consumer :
    ∃ c₀ before, (fresh {} "" "").run?
        [.receive false, .pollReceive 0, .read 0 .blocked, .dispose] = some (c₀, before) ∧
      c₀.teardown = .requested ∧ c₀.ExactOutcome ∧
      (∃ c effects, c₀.run?
          [.teardown 0, .teardown 0, .halfClose (.ok ()) 0, .dropReceive 0, .teardown 0,
            .drain (.chunk [1, 2]), .drain (.failed { kind := .interrupted }), .drain .closed,
            .teardown 0, .teardown 0] = some (c, effects) ∧
        c.coordinator.outcome = some .graceful) ∧
      ∃ c effects, c₀.run?
          [.teardown 0, .teardown 0, .halfClose (.ok ()) 0, .expire 5000000000, .force (.ok ()),
            .teardown 0, .teardown 0] = some (c, effects) ∧
        c.coordinator.outcome = some .forced := by
  have hexact {c₀ : Connection} {before : List Effect}
      (hrun : (fresh {} "" "").run?
        [.receive false, .pollReceive 0, .read 0 .blocked, .dispose] = some (c₀, before))
      (hstate : c₀.teardown = .requested) : c₀.ExactOutcome := exactOutcome_of_run hrun hstate
  exact ⟨_, _, rfl, rfl, hexact rfl rfl, ⟨_, _, rfl, rfl⟩, _, _, rfl, rfl⟩

end Connection

end Duplex
