import Duplex.Proofs.WritingHalf

/-! # Who has the reading half

  A receive stream reads only while it holds the reading half, and once the teardown has that half
  nobody reads but the teardown (`ReaderKept`). Each step keeps this.
-/

namespace Duplex.Connection

/-- What is so of the reading half, its lock, the receive streams and the teardown. -/
structure ReaderKept (c : Connection) : Prop where
  /-- Who reads holds the lock, and the half is behind it. -/
  reads : ∀ (i : Nat) (r : Receive) awake, c.receives[i]? = some r → r.state = .reading awake →
    c.reader.holder = some (.receive i) ∧ c.readHalf = true
  /-- A teardown that reads has the half. -/
  drains : ∀ outcome deadline, c.teardown = .draining outcome deadline → c.readHalf = false

/-- Receive stream `i`, which was `r`, is reading after the step only if it was reading before, or
    the half was granted to it. -/
def Grants (c : Connection) (i : Nat) (r : Receive) (stepped : Stepped) : Prop :=
  ∀ r' awake, stepped.1.receives[i]? = some r' → r'.state = .reading awake →
    (∃ awake', r.state = .reading awake' ∧ stepped.1.reader = c.reader) ∨
    (stepped.1.reader.holder = some (.receive i) ∧ c.readHalf = true)

section grants

variable {c : Connection} {i : Nat} {r : Receive} {stepped : Stepped}

/-- A stream that is not reading after the step. -/
theorem Received.grants {r' : Receive} {answers : List ReceiveAnswer}
    (h : c.Received i r' answers stepped) (hstate : ∀ awake, r'.state ≠ .reading awake) :
    c.Grants i r stepped := by
  intro r'' awake hr'' hreading
  rw [h.self] at hr''
  cases hr''
  exact absurd hreading (hstate awake)

theorem grants_interruptReceive (hr : c.receives[i]? = some r) (source : CancelSource) :
    c.Grants i r (c.interruptReceive i source) :=
  (received_interruptReceive hr source).grants (r.not_reading_conclude _)

theorem grants_enterReader (hr : c.receives[i]? = some r) (lock : Lock Actor) :
    c.Grants i r ({ c with reader := lock }.enterReader i) := by
  unfold enterReader
  split
  · exact (Received.of_told hr lock .waiting .pending).grants (by simp)
  · next hheld =>
    have hheld : lock.holder = some (.receive i) := by simpa [Lock.heldBy] using hheld
    split
    · next hhalf => exact fun _ _ _ _ => .inr ⟨hheld, hhalf⟩
    · have hended : c.Received i (r.conclude .ended) [.ended]
          ({ c with reader := lock }.concludeReceive i .ended []) :=
        .of_conclude hr (by rfl) (by rfl) (by rfl) .ended []
      exact hended.grants (r.not_reading_conclude .ended)

theorem grants_pollReceive (hr : c.receives[i]? = some r) (h : c.pollReceive i r = some stepped) :
    c.Grants i r stepped := by
  unfold pollReceive at h
  split at h
  · split at h
    · cases h
      exact (Received.of_told hr c.reader .exhausted .ended).grants (by simp)
    · split at h
      · cases h
        exact grants_interruptReceive hr _
      · cases h
        exact grants_enterReader hr _
  · split at h
    · cases h
      exact grants_interruptReceive hr _
    · cases h
      exact grants_enterReader hr c.reader
  · next hstate =>
    split at h
    · cases h
      exact grants_interruptReceive hr _
    · cases h
      exact fun _ _ _ _ => .inl ⟨false, hstate, rfl⟩
  · next hstate =>
    cases h
    intro r' awake hr' hreading
    rw [hr] at hr'
    cases hr'
    rw [hstate] at hreading
    cases hreading
  all_goals cases h

theorem grants_read (hr : c.receives[i]? = some r) {answer : ReadAnswer}
    (h : c.read i r answer = some stepped) : c.Grants i r stepped := by
  unfold read at h
  split at h
  · next hstate =>
    cases h
    exact fun _ _ _ _ => .inl ⟨true, hstate, rfl⟩
  · next bytes hstate =>
    split at h
    · cases h
    · cases h
      have hidle : c.Received i { r with state := .idle } [.next bytes]
          ((c.setReceive i .idle).answerReceive i (.next bytes) []) :=
        .of_answer (f := fun r => { r with state := .idle }) hr (by rfl) (by rfl) (by rfl) _ []
      exact hidle.grants (by simp)
  · cases h
    exact (received_peerClosed hr).grants (r.not_reading_conclude _)
  · next e hstate =>
    split at h
    · split at h
      · cases h
        exact grants_interruptReceive hr _
      · cases h
        exact fun _ _ _ _ => .inl ⟨true, hstate, rfl⟩
    · cases h
      exact (received_readFailed hr e).grants (r.not_reading_conclude _)
  · cases h

end grants

theorem grants_step {c c' : Connection} {l : Label} {effects : List Effect} {i : Nat} {r : Receive}
    (h : c.step? l = some (c', effects)) (hl : l.receive? = some i)
    (hr : c.receives[i]? = some r) : c.Grants i r (c', effects) := by
  cases l with
  | pollReceive j =>
    cases hl
    obtain ⟨r₀, hr₀, hpoll⟩ := Option.bind_eq_some_iff.1 h
    rw [hr] at hr₀
    cases hr₀
    exact grants_pollReceive hr hpoll
  | read j answer =>
    cases hl
    obtain ⟨r₀, hr₀, hread⟩ := Option.bind_eq_some_iff.1 h
    rw [hr] at hr₀
    cases hr₀
    exact grants_read hr hread
  | dropReceive j =>
    cases hl
    obtain ⟨r₀, hr₀, hdrop⟩ := Option.bind_eq_some_iff.1 h
    exact (received_dropReceive hr₀ hdrop).grants (by simp)
  | cancelReceive j =>
    cases hl
    cases h
    intro r' awake hr' hreading
    simp only [List.getElem?_modify, hr, if_true] at hr'
    cases hr'
    exact .inl ⟨awake, hreading, rfl⟩
  | send _ _ | pollSend _ | write _ _ | dropSend _ | cancelSend _ | receive _ | dispose
  | teardown _ | halfClose _ _ | drain _ | expire _ | force _ | abort => cases hl

/-- A stream that is reading after a step of somebody else was reading before. -/
theorem reading_of_step {c c' : Connection} {l : Label} {effects : List Effect} {i : Nat}
    {r' : Receive} {awake : Bool} (h : c.step? l = some (c', effects)) (hl : l.receive? ≠ some i)
    (hr' : c'.receives[i]? = some r') (hstate : r'.state = .reading awake) :
    c.receives[i]? = some r' := by
  cases hr : c.receives[i]? with
  | none =>
    have hidle := ((step_unmade h hr).2 r' hr').1
    rw [hstate] at hidle
    cases hidle
  | some r =>
    obtain ⟨r₁, hr₁, hstep⟩ := step_receive h hr
    rw [hr'] at hr₁
    cases hr₁
    generalize answersOf i effects = answers at hstep
    cases hstep with
    | other _ => rfl
    | _ => exact absurd rfl hl

namespace ReaderKept

variable {c c' : Connection}

/-- A step of somebody else, who takes the half from no stream. -/
theorem of_holder (hc : c.ReaderKept) {l : Label} {effects : List Effect}
    (h : c.step? l = some (c', effects)) (hl : l.receive? = none)
    (hholder : ∀ i, c.reader.holder = some (.receive i) → c'.reader.holder = some (.receive i) ∧
      (c.readHalf = true → c'.readHalf = true))
    (hdrains : ∀ outcome deadline, c'.teardown = .draining outcome deadline → c'.readHalf = false) :
    c'.ReaderKept where
  reads i r awake hr hreading := by
    have hr := reading_of_step h (by simp [hl]) hr hreading
    obtain ⟨hheld, hhalf⟩ := hc.reads i r awake hr hreading
    exact ⟨(hholder i hheld).1, (hholder i hheld).2 hhalf⟩
  drains := hdrains

theorem receive (hc : c.ReaderKept) {l : Label} {effects : List Effect}
    (h : c.step? l = some (c', effects)) (hapart : c.Apart l.receive? (c', effects)) :
    c'.ReaderKept := by
  have hholder := hapart.holder
  obtain ⟨receives, reader, connected, -, (hc' : c' = _)⟩ := hapart.connection
  have hhalf : c'.readHalf = c.readHalf := by rw [hc']
  constructor
  · intro i r' awake hr' hreading
    rw [hhalf]
    by_cases hl : l.receive? = some i
    · cases hr : c.receives[i]? with
      | none =>
        have hidle := ((step_unmade h hr).2 r' hr').1
        rw [hreading] at hidle
        cases hidle
      | some r =>
        -- the stream that moves has kept the half, or has just got it
        rcases grants_step h hl hr r' awake hr' hreading with ⟨awake', hbefore, hsame⟩ | hgranted
        · rw [show c'.reader = c.reader from hsame]
          exact hc.reads i r awake' hr hbefore
        · exact hgranted
    · -- another stream moves, and takes the half from nobody
      have hr := reading_of_step h hl hr' hreading
      obtain ⟨hheld, hbehind⟩ := hc.reads i r' awake hr hreading
      refine ⟨hholder _ ?_ hheld, hbehind⟩
      intro hreceive
      obtain ⟨j, hj, hji⟩ := Option.map_eq_some_iff.1 hreceive
      cases hji
      exact hl hj
  · rw [hhalf, hc']
    exact hc.drains

theorem teardown_step (hc : c.ReaderKept) {l : Label} {effects : List Effect}
    (hstep : c.step? l = some (c', effects)) (hl : l.receive? = none)
    (h : TeardownStep c l c' effects) : c'.ReaderKept := by
  have hreleased (i : Nat) (hheld : c.reader.holder = some (.receive i)) :
      (c.reader.release .teardown).holder = some (.receive i) :=
    Lock.holder_release_of_ne hheld (by simp)
  -- when the teardown takes the half away, no stream is reading
  have hnobody (hheld : c.reader.holder = some .teardown) (i : Nat) :
      c.reader.holder ≠ some (.receive i) := by
    rw [hheld]
    simp
  cases h with
  | asks _ | takes _ _ _ | bereft _ _ _ | forces _ | releases _ | publishes _ =>
    exact hc.of_holder hstep hl (fun _ hheld => ⟨hheld, id⟩) (by simp)
  | takesDown _ _ _ | halfCloses _ =>
    exact hc.of_holder hstep hl
      (fun _ hheld => ⟨Lock.holder_request_of_some hheld _, id⟩) (by simp)
  | takesReader _ hheld =>
    exact hc.of_holder hstep hl (fun i h => absurd h (hnobody hheld i)) (fun _ _ _ => rfl)
  | skipsReader _ hheld =>
    exact hc.of_holder hstep hl (fun i h => absurd h (hnobody hheld i)) (by simp)
  | drains _ => exact hc
  | drained _ | expiresAwaiting _ _ | expiresDraining _ _ | aborts _ _ _ =>
    exact hc.of_holder hstep hl (fun i hheld => ⟨hreleased i hheld, id⟩) (by simp)

theorem step (hc : c.ReaderKept) (hin : c.InStep) {l : Label} {effects : List Effect}
    (h : c.step? l = some (c', effects)) : c'.ReaderKept := by
  cases step_cases h with
  | made _ _ hl hc' _ =>
    subst hl hc'
    exact hc.of_holder h rfl (fun _ hheld => ⟨hheld, id⟩) hc.drains
  | cancelled _ hl hc' _ =>
    subst hl hc'
    exact hc.of_holder h rfl (fun _ hheld => ⟨hheld, id⟩) hc.drains
  | send i s hl _ hmoves =>
    obtain ⟨state, lock, octets, result, -, hsent⟩ := hmoves
    obtain ⟨connected, -, (rfl : c' = _)⟩ := hsent.connection
    refine hc.of_holder h ?_ (fun _ hheld => ⟨hheld, id⟩) hc.drains
    cases l <;> first | rfl | cases hl
  | receive i hi _ hapart =>
    subst hi
    exact hc.receive h hapart
  | dispose hl hc' _ =>
    subst hl hc'
    rcases hin.dispose_cases with ⟨-, hstarted⟩ | ⟨-, hsame⟩
    · refine hc.of_holder h rfl ?_ ?_ <;> rw [hstarted]
      · exact fun _ hheld => ⟨hheld, id⟩
      · simp
    · rw [hsame]
      exact hc
  | teardown hl hteardown =>
    refine hc.teardown_step h ?_ hteardown
    cases l <;> first | rfl | simp [Label.ofTeardown] at hl

theorem fresh (config : SocketConfig) (localAddress peerAddress : String) (timer : Timer) :
    (fresh config localAddress peerAddress timer).ReaderKept where
  reads i r awake hr := by simp [Connection.fresh] at hr
  drains outcome deadline h := by cases h

theorem run (hc : c.ReaderKept) (hin : c.InStep) {labels : List Label} {effects : List Effect}
    (h : c.run? labels = some (c', effects)) : c'.ReaderKept :=
  (run_keeps (P := fun c => c.InStep ∧ c.ReaderKept)
    (fun h hc => ⟨hc.1.step h, hc.2.step hc.1 h⟩) h ⟨hin, hc⟩).2

end ReaderKept

end Duplex.Connection
