import Duplex.Proofs.Delivering

/-! # When a connection goes down

  A connection is up when it is made and never comes up again. `TakesDown` lists the steps that take
  it down: the peer's close, a read that finds the connection reset, a write that fails, and the
  start of the teardown. Any other step leaves it as it is, whoever is cancelled and whatever else
  fails (`fares_of_step`). So a connection is down just where one of these steps was taken
  (`down_iff_tookDown`), and it is down when a teardown that was not cut short is over
  (`MarkedDown`).
-/

namespace Duplex

/-- The kinds of errors by which a socket reports that the peer has ended the connection. -/
def IoErrorKind.isReset : IoErrorKind → Bool
  | connectionReset | connectionAborted | brokenPipe | unexpectedEof => true
  | _ => false

theorem ConnectionError.isRemoteClosed_ofIo (operation : String) (e : IoError) :
    (ofIo operation e).isRemoteClosed = e.kind.isReset := by
  unfold ofIo
  cases e.kind <;> rfl

namespace Connection

/-- `TakesDown c l`: a step of `c` with this label takes the connection down. -/
inductive TakesDown (c : Connection) : Label → Prop where
  /-- A stream has read no octets. -/
  | peerClosed {i : Nat} : TakesDown c (.read i .closed)
  /-- A stream has found the connection reset, and the disposal is not behind it. -/
  | reset {i : Nat} {e : IoError} (hlive : c.coordinator.token = false)
      (hreset : (ConnectionError.ofIo Operation.read.name e).isRemoteClosed = true) :
      TakesDown c (.read i (.failed e))
  /-- A send that was not interrupted has failed to write. -/
  | writeFailed {i : Nat} {e : IoError} : TakesDown c (.write i (.failed e))
  /-- The teardown starts to run. -/
  | tornDown {now : Nat} (hstate : c.teardown = .requested) : TakesDown c (.teardown now)

/-- `Fares c l c'`: the connection `c'` is down because a step of `c` with this label takes it down,
    or it is as up as `c` is. -/
inductive Fares (c : Connection) (l : Label) (c' : Connection) : Prop where
  | down (hl : c.TakesDown l) (h : c'.connected = false)
  | same (hl : ¬c.TakesDown l) (h : c'.connected = c.connected)

section fares

variable {c c' : Connection} {i : Nat}

/-! ### Sends -/

theorem connected_enterWriter (c : Connection) (i : Nat) (bytes : Bytes) :
    (c.enterWriter i bytes).1.connected = c.connected := by
  unfold enterWriter
  split
  · rfl
  · split <;> rfl

theorem connected_pollSend {s : Send} {stepped : Stepped} (h : c.pollSend i s = some stepped) :
    stepped.1.connected = c.connected := by
  unfold pollSend at h
  split at h
  · split at h
    · cases h
      rfl
    · split at h
      · cases h
        rfl
      · split at h
        · cases h
          rfl
        · cases h
          exact connected_enterWriter _ i s.bytes
  · split at h
    · cases h
      rfl
    · cases h
      exact connected_enterWriter c i s.bytes
  · split at h
    · cases h
      rfl
    · cases h
      rfl
  all_goals cases h

theorem fares_write {s : Send} {answer : WriteAnswer} {stepped : Stepped}
    (h : c.write i s answer = some stepped) : c.Fares (.write i answer) stepped.1 := by
  unfold write at h
  split at h
  · cases h
    exact .same (by rintro ⟨⟩) rfl
  · split at h
    · cases h
    · split at h <;> (cases h; exact .same (by rintro ⟨⟩) rfl)
  · cases h
    exact .down .writeFailed rfl
  · cases h

theorem connected_dropSend {s : Send} {stepped : Stepped} (h : c.dropSend i s = some stepped) :
    stepped.1.connected = c.connected := by
  unfold dropSend at h
  split at h
  · cases h
  · cases h
  · cases h
    rfl

/-! ### Receive streams -/

theorem connected_enterReader (c : Connection) (i : Nat) :
    (c.enterReader i).1.connected = c.connected := by
  unfold enterReader
  split
  · rfl
  · split <;> rfl

theorem connected_pollReceive {r : Receive} {stepped : Stepped}
    (h : c.pollReceive i r = some stepped) : stepped.1.connected = c.connected := by
  unfold pollReceive at h
  split at h
  · split at h
    · cases h
      rfl
    · split at h
      · cases h
        rfl
      · cases h
        exact connected_enterReader _ i
  · split at h
    · cases h
      rfl
    · cases h
      exact connected_enterReader c i
  · split at h
    · cases h
      rfl
    · cases h
      rfl
  · cases h
    rfl
  all_goals cases h

/-- A read that has failed takes the connection down if it was reset, unless the disposal is behind
    it. -/
theorem fares_readFailed (c : Connection) (i : Nat) (e : IoError) :
    c.Fares (.read i (.failed e)) (c.readFailed i e).1 := by
  unfold readFailed
  dsimp only
  split
  · next htoken =>
    refine .same ?_ rfl
    rintro (_ | ⟨hlive, -⟩)
    rw [show c.coordinator.token = true from htoken] at hlive
    cases hlive
  · next htoken =>
    have hlive : c.coordinator.token = false := Bool.eq_false_iff.2 htoken
    split
    · next hreset => exact .down (.reset hlive hreset) rfl
    · next hreset =>
      refine .same ?_ rfl
      rintro (_ | ⟨-, hclosed⟩)
      exact hreset hclosed

theorem fares_read {r : Receive} {answer : ReadAnswer} {stepped : Stepped}
    (h : c.read i r answer = some stepped) : c.Fares (.read i answer) stepped.1 := by
  unfold read at h
  split at h
  · cases h
    exact .same (by rintro ⟨⟩) rfl
  · split at h
    · cases h
    · cases h
      exact .same (by rintro ⟨⟩) rfl
  · cases h
    exact .down .peerClosed (connected_peerClosed c i)
  · next e _ =>
    split at h
    · next hkind =>
      -- an interrupted read does not mean that the connection was reset
      have hspared : ¬c.TakesDown (.read i (.failed e)) := by
        rintro (_ | ⟨-, hreset⟩)
        rw [ConnectionError.isRemoteClosed_ofIo, hkind] at hreset
        cases hreset
      split at h <;> (cases h; exact .same hspared rfl)
    · cases h
      exact c.fares_readFailed i e
  · cases h

theorem connected_dropReceive {r : Receive} {stepped : Stepped}
    (h : c.dropReceive i r = some stepped) : stepped.1.connected = c.connected := by
  unfold dropReceive at h
  split at h
  · cases h
  · cases h
    rfl

/-! ### The teardown -/

theorem connected_dispose (c : Connection) : c.dispose.connected = c.connected := by
  obtain ⟨coordinator, teardown, hdispose⟩ := c.dispose_eq_with
  rw [hdispose]

theorem TeardownStep.fares {l : Label} {effects : List Effect} (h : TeardownStep c l c' effects) :
    c.Fares l c' := by
  have hspared {now : Nat} (hstate : c.teardown ≠ .requested) :
      ¬c.TakesDown (.teardown now) := by
    rintro (_ | _ | _ | ⟨hrequested⟩)
    exact hstate hrequested
  cases h with
  | asks hstate => exact .down (.tornDown hstate) rfl
  | takes hstate _ _ | takesDown hstate _ _ | bereft hstate _ _ | takesReader hstate _
  | skipsReader hstate _ | releases hstate | publishes hstate =>
    exact .same (hspared (by simp [hstate])) rfl
  | halfCloses _ | drains _ | drained _ | expiresAwaiting _ _ | expiresDraining _ _ | forces _
  | aborts _ _ _ => exact .same (by rintro ⟨⟩) rfl

/-! ### All steps -/

theorem fares_of_step {l : Label} {effects : List Effect} (h : c.step? l = some (c', effects)) :
    c.Fares l c' := by
  cases l with
  | send _ _ | cancelSend _ | receive _ | cancelReceive _ =>
    cases h
    exact .same (by rintro ⟨⟩) rfl
  | pollSend i =>
    obtain ⟨s, -, hpoll⟩ := Option.bind_eq_some_iff.1 h
    exact .same (by rintro ⟨⟩) (connected_pollSend hpoll)
  | write i answer =>
    obtain ⟨s, -, hwrite⟩ := Option.bind_eq_some_iff.1 h
    exact fares_write hwrite
  | dropSend i =>
    obtain ⟨s, -, hdrop⟩ := Option.bind_eq_some_iff.1 h
    exact .same (by rintro ⟨⟩) (connected_dropSend hdrop)
  | pollReceive i =>
    obtain ⟨r, -, hpoll⟩ := Option.bind_eq_some_iff.1 h
    exact .same (by rintro ⟨⟩) (connected_pollReceive hpoll)
  | read i answer =>
    obtain ⟨r, -, hread⟩ := Option.bind_eq_some_iff.1 h
    exact fares_read hread
  | dropReceive i =>
    obtain ⟨r, -, hdrop⟩ := Option.bind_eq_some_iff.1 h
    exact .same (by rintro ⟨⟩) (connected_dropReceive hdrop)
  | dispose =>
    cases h
    exact .same (by rintro ⟨⟩) c.connected_dispose
  | teardown _ | halfClose _ _ | drain _ | expire _ | force _ =>
    exact (step_teardown (.inl rfl) h).fares
  | abort => exact (step_teardown (.inr rfl) h).fares

variable {l : Label} {labels : List Label} {effects : List Effect}

/-- After a step a connection is down if it was down before, or if the step has taken it down. -/
theorem Fares.down_iff (h : c.Fares l c') :
    c'.connected = false ↔ c.connected = false ∨ c.TakesDown l := by
  cases h with
  | down hl hdown => simp [hl, hdown]
  | same hl hsame => simp [hl, hsame]

/-- A step that does not take the connection down leaves it as it is. -/
theorem Fares.connected_eq (h : c.Fares l c') (hl : ¬c.TakesDown l) :
    c'.connected = c.connected := by
  cases h with
  | down hdown _ => exact absurd hdown hl
  | same _ hsame => exact hsame

theorem stays_down (h : c.run? labels = some (c', effects)) (hdown : c.connected = false) :
    c'.connected = false :=
  run_keeps (P := fun c => c.connected = false)
    (fun hstep hdown => (fares_of_step hstep).down_iff.2 (.inl hdown)) h hdown

/-! ### What a run shows -/

/-- A step of the run has taken the connection down. -/
def TookDown (c : Connection) (labels : List Label) : Prop :=
  ∃ past l rest c₁ first, labels = past ++ l :: rest ∧ c.run? past = some (c₁, first) ∧
    c₁.TakesDown l

theorem tookDown_concat (h : c.run? labels = some (c', effects)) :
    c.TookDown (labels ++ [l]) ↔ c.TookDown labels ∨ c'.TakesDown l := by
  constructor
  · rintro ⟨past, l₀, rest, c₁, first, hlabels, hpast, hdown⟩
    -- the step was the last one, or one before it
    rcases List.eq_nil_or_concat rest with rfl | ⟨most, last, rfl⟩
    · obtain ⟨rfl, hl⟩ := List.append_inj' hlabels rfl
      cases hl
      rw [h] at hpast
      cases hpast
      exact .inr hdown
    · rw [List.concat_eq_append, ← List.cons_append, ← List.append_assoc] at hlabels
      obtain ⟨rfl, -⟩ := List.append_inj' hlabels rfl
      exact .inl ⟨past, l₀, most, c₁, first, rfl, hpast, hdown⟩
  · rintro (⟨past, l₀, rest, c₁, first, rfl, hpast, hdown⟩ | hdown)
    · exact ⟨past, l₀, rest ++ [l], c₁, first, by simp, hpast, hdown⟩
    · exact ⟨labels, l, [], c', effects, rfl, h, hdown⟩

/-- A connection that was up is down just where a step has taken it down. -/
theorem down_iff_tookDown (hup : c.connected = true) (h : c.run? labels = some (c', effects)) :
    c'.connected = false ↔ c.TookDown labels := by
  refine run_induction (P := fun labels c' _ => c'.connected = false ↔ c.TookDown labels) ?_ ?_ h
  · rw [hup]
    simp [TookDown]
  · intro labels c₁ first l c₂ others hbefore hiff hstep
    rw [(fares_of_step hstep).down_iff, tookDown_concat hbefore, hiff]

end fares

/-! ### When the teardown is over -/

/-- A connection is up only if its teardown has not started to run, or was cut short. -/
structure MarkedDown (c : Connection) : Prop where
  underWay : c.connected = true → c.teardown = .absent ∨ c.teardown = .requested ∨
    c.teardown = .closing .aborted ∨ c.teardown = .finished
  published : c.connected = true → ∀ o, c.coordinator.outcome = some o → o = .aborted

namespace MarkedDown

variable {c c' : Connection} {l : Label} {effects : List Effect}

/-- A step that leaves the teardown and the coordinator alone. -/
theorem of_eq (hc : c.MarkedDown) (hconnected : c'.connected = true → c.connected = true)
    (hteardown : c'.teardown = c.teardown) (hcoordinator : c'.coordinator = c.coordinator) :
    c'.MarkedDown where
  underWay hup := hteardown ▸ hc.underWay (hconnected hup)
  published hup := hcoordinator ▸ hc.published (hconnected hup)

theorem teardown (hc : c.MarkedDown) (h : TeardownStep c l c' effects) : c'.MarkedDown := by
  -- a teardown that has started to run and was not cut short has found or left the connection down
  have hdown (hstate : ¬(c.teardown = .absent ∨ c.teardown = .requested ∨
      c.teardown = .closing .aborted ∨ c.teardown = .finished)) : c.connected ≠ true :=
    mt hc.underWay hstate
  cases h with
  | asks _ => exact ⟨fun hup => (by cases hup), fun hup => (by cases hup)⟩
  | @publishes _ outcome hstate =>
    refine ⟨fun _ => by simp, fun hup o ho => ?_⟩
    have haborted : outcome = .aborted := by simpa [hstate] using hc.underWay hup
    rw [← haborted]
    exact (Option.some.inj ho).symm
  | aborts _ _ _ => exact ⟨fun _ => by simp, hc.published⟩
  | drains _ => exact hc
  | takes hstate _ _ | takesDown hstate _ _ | bereft hstate _ _ | halfCloses hstate
  | takesReader hstate _ | skipsReader hstate _ | drained hstate | expiresAwaiting hstate _
  | expiresDraining hstate _ | forces hstate | releases hstate =>
    exact ⟨fun hup => absurd hup (hdown (by simp [hstate])), hc.published⟩

theorem step (hc : c.MarkedDown) (hin : c.InStep) (h : c.step? l = some (c', effects)) :
    c'.MarkedDown := by
  cases step_cases h with
  | made _ _ _ hc' _ | cancelled _ _ hc' _ =>
    subst hc'
    exact hc.of_eq id rfl rfl
  | send i s _ _ hmoves =>
    obtain ⟨state, lock, octets, result, -, hsent⟩ := hmoves
    obtain ⟨connected, hconnected, (rfl : c' = _)⟩ := hsent.connection
    exact hc.of_eq hconnected rfl rfl
  | receive i _ _ hapart =>
    obtain ⟨receives, reader, connected, hconnected, (rfl : c' = _)⟩ := hapart.connection
    exact hc.of_eq hconnected rfl rfl
  | dispose _ hc' _ =>
    rcases hin.dispose_cases with ⟨-, hstarted⟩ | ⟨-, hsame⟩
    · rw [hc', hstarted]
      exact ⟨fun _ => by simp, fun _ o ho => by cases ho⟩
    · rw [hc', hsame]
      exact hc
  | teardown _ hteardown => exact hc.teardown hteardown

theorem fresh (config : SocketConfig) (localAddress peerAddress : String) (timer : Timer) :
    (fresh config localAddress peerAddress timer).MarkedDown :=
  ⟨fun _ => .inl rfl, fun _ o ho => by cases ho⟩

theorem run (hc : c.MarkedDown) (hin : c.InStep) {labels : List Label}
    (h : c.run? labels = some (c', effects)) : c'.MarkedDown :=
  (run_keeps (P := fun c => c.InStep ∧ c.MarkedDown)
    (fun hstep hc => ⟨hc.1.step hstep, hc.2.step hc.1 hstep⟩) h ⟨hin, hc⟩).2

end MarkedDown

/-! ### The law -/

/-- How the connection `c₀`, which was new, has fared in a run that has led to `c`. -/
structure GoesDown (c₀ : Connection) (labels : List Label) (c : Connection) : Prop where
  start : c₀.connected = true
  /-- It is down just where one of the four steps was taken. -/
  history : c.connected = false ↔ c₀.TookDown labels
  /-- It never comes up again. -/
  sticky : ∀ more c' effects, c.connected = false → c.run? more = some (c', effects) →
    c'.connected = false
  /-- Any other step leaves it as it is. -/
  spared : ∀ l c' effects, ¬c.TakesDown l → c.step? l = some (c', effects) →
    c'.connected = c.connected
  /-- So does a caller who cancels a send or a receive stream, and the poll that finds it. -/
  cancelled : ∀ i l c' effects,
    l = .cancelSend i ∨ l = .cancelReceive i ∨ l = .pollSend i ∨ l = .pollReceive i →
    c.step? l = some (c', effects) → c'.connected = c.connected
  /-- So does a read that fails, unless the error says that the connection was reset; an interrupted
      read does not. -/
  failed : IoErrorKind.interrupted.isReset = false ∧ ∀ i e c' effects,
    e.kind.isReset = false ∨ c.coordinator.token = true →
    c.step? (.read i (.failed e)) = some (c', effects) → c'.connected = c.connected
  /-- The teardown reads for itself only when the connection is down. -/
  drained : ∀ answer, (c.step? (.drain answer)).isSome = true → c.connected = false
  /-- Who was told an outcome finds the connection down, unless the teardown was cut short. -/
  disposed : ∀ o, c.coordinator.outcome = some o → o ≠ .aborted → c.connected = false

/-- **A connection is down just where its history says so.** -/
theorem goesDown_of_run {config : SocketConfig} {localAddress peerAddress : String} {timer : Timer}
    {labels : List Label} {c : Connection} {effects : List Effect}
    (h : (fresh config localAddress peerAddress timer).run? labels = some (c, effects)) :
    GoesDown (fresh config localAddress peerAddress timer) labels c := by
  have hin := InStep.fresh config localAddress peerAddress timer
  have hmarked := (MarkedDown.fresh config localAddress peerAddress timer).run hin h
  refine ⟨rfl, down_iff_tookDown rfl h, ?_, ?_, ?_, ⟨rfl, ?_⟩, ?_, ?_⟩
  · intro more c' others hdown hmore
    exact stays_down hmore hdown
  · intro l c' others hl hstep
    exact (fares_of_step hstep).connected_eq hl
  · intro i l c' others hl hstep
    refine (fares_of_step hstep).connected_eq ?_
    rcases hl with rfl | rfl | rfl | rfl <;> rintro ⟨⟩
  · intro i e c' others hspared hstep
    refine (fares_of_step hstep).connected_eq ?_
    rintro (_ | ⟨hlive, hreset⟩)
    rw [ConnectionError.isRemoteClosed_ofIo] at hreset
    rcases hspared with hkind | htoken
    · rw [hkind] at hreset
      cases hreset
    · rw [htoken] at hlive
      cases hlive
  · intro answer hsome
    obtain ⟨⟨c', others⟩, hstep⟩ := Option.isSome_iff_exists.1 hsome
    have hdraining : ∃ outcome deadline, c.teardown = .draining outcome deadline := by
      cases step_teardown (.inl rfl) hstep with
      | drains hstate | drained hstate => exact ⟨_, _, hstate⟩
    obtain ⟨outcome, deadline, hstate⟩ := hdraining
    refine Bool.eq_false_iff.2 fun hup => ?_
    have hstarted := hmarked.underWay hup
    simp [hstate] at hstarted
  · intro o ho hne
    exact Bool.eq_false_iff.2 fun hup => hne (hmarked.published hup o ho)

/-- A stream is cancelled by its caller, a read is interrupted, another one finds that there is no
    memory, and the connection is up; a write that fails takes it down. Then it is disposed of, and
    the outcome says that it was down. -/
theorem goesDown_of_failed_write :
    let before : List Label :=
      [.receive false, .pollReceive 0, .read 0 (.failed { kind := .interrupted }),
        .read 0 .blocked, .cancelReceive 0, .pollReceive 0, .receive false, .pollReceive 1,
        .read 1 (.failed { kind := .outOfMemory }), .send [1, 2] false, .pollSend 0,
        .write 0 (.accepted 1)]
    let after : List Label :=
      [.write 0 (.failed { kind := .brokenPipe }), .dispose, .teardown 0, .teardown 0, .teardown 0,
        .teardown 0, .teardown 0]
    (∃ c effects, (fresh {} "" "").run? before = some (c, effects) ∧ c.connected = true ∧
      GoesDown (fresh {} "" "") before c) ∧
    ∃ c effects, (fresh {} "" "").run? (before ++ after) = some (c, effects) ∧
      c.connected = false ∧ c.coordinator.outcome = some .notConnected ∧
      GoesDown (fresh {} "" "") (before ++ after) c :=
  ⟨⟨_, _, rfl, rfl, goesDown_of_run rfl⟩, ⟨_, _, rfl, rfl, rfl, goesDown_of_run rfl⟩⟩

end Connection

end Duplex
