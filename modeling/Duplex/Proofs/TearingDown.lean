import Duplex.Proofs.Sending

/-! # What a step does to its connection

  The teardown moves by itself or with the system's answers. `TeardownStep` lists its moves, with
  the connection after each, and `step_teardown` says that there are no others. Together with the
  moves of sends, and with what receive streams leave alone (`Apart`), this covers all steps of a
  connection (`step_cases`): whatever is to be shown of the two halves and their locks follows
  from these lists.
-/

namespace Duplex

/-- A bound on the moves that are left of a teardown, its drained reads apart. -/
def TeardownState.left : TeardownState → Nat
  | .absent | .finished => 0
  | .closing _ => 1
  | .releasing _ => 2
  | .forcing _ => 3
  | .draining .. => 4
  | .awaitingReader .. => 5
  | .halfClosing => 6
  | .awaitingWriter _ => 7
  | .requested => 8

namespace Connection

/-- The label is a move of the teardown: by itself, with an answer of the system, or because the
    time is up. -/
def Label.ofTeardown : Label → Bool
  | .teardown _ | .halfClose .. | .drain _ | .expire _ | .force _ => true
  | .send .. | .pollSend _ | .write .. | .dropSend _ | .cancelSend _ | .receive _ | .pollReceive _
  | .read .. | .dropReceive _ | .cancelReceive _ | .dispose | .abort => false

/-! ### Moves of the teardown -/

/-- `TeardownStep c l c' effects`: with this label the teardown of `c` goes on, which makes `c` into
    `c'` and has these effects. -/
inductive TeardownStep (c : Connection) : Label → Connection → List Effect → Prop where
  /-- It asks for the writing half. -/
  | asks {now : Nat} (hstate : c.teardown = .requested) :
      TeardownStep c (.teardown now)
        { c with
          connected := false
          writer := c.writer.request .teardown
          teardown := .awaitingWriter c.connected } []
  /-- It takes the writing half of a live connection. -/
  | takes {now : Nat} (hstate : c.teardown = .awaitingWriter true)
      (hheld : c.writer.holder = some .teardown) (hhalf : c.writeHalf = true) :
      TeardownStep c (.teardown now)
        { c with
          writer := c.writer.release .teardown
          writeHalf := false
          teardown := .halfClosing } []
  /-- It takes the writing half of a connection that was down, and asks for the reading half. -/
  | takesDown {now deadline : Nat} (hstate : c.teardown = .awaitingWriter false)
      (hheld : c.writer.holder = some .teardown) (hhalf : c.writeHalf = true) :
      TeardownStep c (.teardown now)
        { c with
          writer := c.writer.release .teardown
          writeHalf := false
          reader := c.reader.request .teardown
          teardown := .awaitingReader false .notConnected deadline } []
  /-- There is no writing half to take. -/
  | bereft {now : Nat} {wasConnected : Bool} (hstate : c.teardown = .awaitingWriter wasConnected)
      (hheld : c.writer.holder = some .teardown) (hhalf : c.writeHalf = false) :
      TeardownStep c (.teardown now)
        { c with
          writer := c.writer.release .teardown
          teardown := .closing .notConnected } []
  /-- It closes its direction, and asks for the reading half. -/
  | halfCloses {answer : Except IoError Unit} {now deadline : Nat} {outcome : DisposeOutcome}
      {records : List LogRecord} (hstate : c.teardown = .halfClosing) :
      TeardownStep c (.halfClose answer now)
        { c with
          reader := c.reader.request .teardown
          teardown := .awaitingReader true outcome deadline } (records.map .recorded)
  /-- It takes the reading half and reads from it. -/
  | takesReader {now deadline : Nat} {outcome : DisposeOutcome}
      (hstate : c.teardown = .awaitingReader true outcome deadline)
      (hheld : c.reader.holder = some .teardown) :
      TeardownStep c (.teardown now)
        { c with
          readHalf := false
          teardown := .draining outcome deadline } []
  /-- It takes the reading half and gives it up. -/
  | skipsReader {now deadline : Nat} {wasConnected : Bool} {outcome : DisposeOutcome}
      (hstate : c.teardown = .awaitingReader wasConnected outcome deadline)
      (hheld : c.reader.holder = some .teardown) :
      TeardownStep c (.teardown now)
        { c with
          readHalf := false
          reader := c.reader.release .teardown
          teardown := .releasing outcome } [.readerDropped]
  /-- It reads octets, or nothing yet. -/
  | drains {answer : ReadAnswer} {outcome : DisposeOutcome} {deadline : Nat}
      (hstate : c.teardown = .draining outcome deadline) :
      TeardownStep c (.drain answer) c []
  /-- It has read to the end, or to an error. -/
  | drained {answer : ReadAnswer} {outcome outcome' : DisposeOutcome} {deadline : Nat}
      {records : List LogRecord} (hstate : c.teardown = .draining outcome deadline) :
      TeardownStep c (.drain answer)
        { c with
          reader := c.reader.release .teardown
          teardown := .releasing outcome' } (records.map .recorded ++ [.readerDropped])
  /-- It has waited for the reading half for too long. -/
  | expiresAwaiting {now deadline : Nat} {wasConnected : Bool} {outcome : DisposeOutcome}
      (hstate : c.teardown = .awaitingReader wasConnected outcome deadline)
      (hnow : deadline ≤ now) :
      TeardownStep c (.expire now)
        { c with
          reader := c.reader.release .teardown
          teardown := .forcing outcome } []
  /-- It has waited for the peer for too long. -/
  | expiresDraining {now deadline : Nat} {outcome : DisposeOutcome}
      (hstate : c.teardown = .draining outcome deadline) (hnow : deadline ≤ now) :
      TeardownStep c (.expire now)
        { c with
          reader := c.reader.release .teardown
          teardown := .forcing outcome } [.readerDropped]
  /-- It closes both directions. -/
  | forces {answer : Except IoError Unit} {outcome : DisposeOutcome} {records : List LogRecord}
      (hstate : c.teardown = .forcing outcome) :
      TeardownStep c (.force answer)
        { c with teardown := .releasing (lower outcome) } (records.map .recorded)
  /-- It gives up the writing half. -/
  | releases {now : Nat} {outcome : DisposeOutcome} {record : LogRecord}
      (hstate : c.teardown = .releasing outcome) :
      TeardownStep c (.teardown now)
        { c with teardown := .closing outcome } [.writerDropped, .recorded record]
  | publishes {now : Nat} {outcome : DisposeOutcome} (hstate : c.teardown = .closing outcome) :
      TeardownStep c (.teardown now)
        { c with coordinator := c.coordinator.publish outcome, teardown := .finished } []
  /-- It is cut short. -/
  | aborts (hstarted : c.teardown ≠ .absent) (hclosing : ∀ outcome, c.teardown ≠ .closing outcome)
      (hfinished : c.teardown ≠ .finished) :
      TeardownStep c .abort
        { c with
          reader := c.reader.release .teardown
          writer := c.writer.release .teardown
          teardown := .closing .aborted } []

section teardown

variable {c : Connection} {stepped : Stepped}

theorem teardownStep_takeWriter {wasConnected : Bool}
    (hstate : c.teardown = .awaitingWriter wasConnected)
    (hheld : c.writer.holder = some .teardown) (now : Nat) :
    TeardownStep c (.teardown now) (c.takeWriter wasConnected now) [] := by
  cases hhalf : c.writeHalf with
  | true =>
    cases wasConnected with
    | true =>
      have htaken : c.takeWriter true now = { c with
          writer := c.writer.release .teardown
          writeHalf := false
          teardown := .halfClosing } := by
        simp [takeWriter, releaseWriter, hhalf]
      rw [htaken]
      exact .takes hstate hheld hhalf
    | false =>
      have htaken : c.takeWriter false now = { c with
          writer := c.writer.release .teardown
          writeHalf := false
          reader := c.reader.request .teardown
          teardown := .awaitingReader false .notConnected
            (c.timer.expiry now c.config.disconnectTimeout) } := by
        simp [takeWriter, releaseWriter, awaitReader, hhalf]
      rw [htaken]
      exact .takesDown hstate hheld hhalf
  | false =>
    have htaken : c.takeWriter wasConnected now = { c with
        writer := c.writer.release .teardown
        teardown := .closing .notConnected } := by
      simp [takeWriter, releaseWriter, hhalf]
    rw [htaken]
    exact .bereft hstate hheld hhalf

theorem teardownStep_runTeardown {now : Nat} (h : c.runTeardown now = some stepped) :
    TeardownStep c (.teardown now) stepped.1 stepped.2 := by
  unfold runTeardown at h
  split at h
  · next hstate =>
    cases h
    exact .asks hstate
  · next hstate =>
    split at h
    · next hheld =>
      cases h
      exact teardownStep_takeWriter hstate (Lock.heldBy_iff.1 hheld) now
    · cases h
  · next wasConnected outcome deadline hstate =>
    split at h
    · next hheld =>
      cases h
      have hheld := Lock.heldBy_iff.1 hheld
      unfold takeReader
      dsimp only
      split
      · next hlive =>
        -- a teardown that drains has found the connection up
        have hwas : wasConnected = true := by simp_all
        subst hwas
        exact .takesReader hstate hheld
      · exact .skipsReader hstate hheld
    · cases h
  · next hstate =>
    cases h
    exact .releases hstate
  · next hstate =>
    cases h
    exact .publishes hstate
  all_goals cases h

theorem teardownStep_halfClose {answer : Except IoError Unit} {now : Nat}
    (h : c.halfClose answer now = some stepped) :
    TeardownStep c (.halfClose answer now) stepped.1 stepped.2 := by
  unfold halfClose at h
  split at h
  · next hstate =>
    cases h
    show TeardownStep c _ _ (([] : List LogRecord).map Effect.recorded)
    exact .halfCloses hstate
  · next hstate =>
    cases h
    show TeardownStep c _ _ ([_].map Effect.recorded)
    exact .halfCloses hstate
  · cases h

theorem teardownStep_drain {answer : ReadAnswer} (h : c.drain answer = some stepped) :
    TeardownStep c (.drain answer) stepped.1 stepped.2 := by
  unfold drain at h
  split at h
  · next hstate =>
    cases h
    exact .drains hstate
  · next hstate =>
    cases h
    exact .drains hstate
  · next hstate =>
    cases h
    exact .drained hstate
  · next hstate =>
    split at h
    · cases h
      exact .drains hstate
    · cases h
      exact .drained hstate
  · cases h

theorem teardownStep_expire {now : Nat} (h : c.expire now = some stepped) :
    TeardownStep c (.expire now) stepped.1 stepped.2 := by
  unfold expire at h
  split at h
  · next hstate =>
    split at h
    · next hnow =>
      cases h
      exact .expiresAwaiting hstate hnow
    · cases h
  · next hstate =>
    split at h
    · next hnow =>
      cases h
      exact .expiresDraining hstate hnow
    · cases h
  · cases h

theorem teardownStep_force {answer : Except IoError Unit} (h : c.force answer = some stepped) :
    TeardownStep c (.force answer) stepped.1 stepped.2 := by
  unfold force at h
  split at h
  · next hstate =>
    cases h
    exact .forces hstate
  · cases h

theorem teardownStep_abort (h : c.abort = some stepped) :
    TeardownStep c .abort stepped.1 stepped.2 := by
  unfold abort at h
  split at h
  · cases h
  · cases h
  · cases h
  · next hstarted hclosing hfinished =>
    cases h
    exact .aborts hstarted hclosing hfinished

end teardown

/-- What a step of the teardown is. -/
theorem step_teardown {c c' : Connection} {l : Label} {effects : List Effect}
    (hl : l.ofTeardown = true ∨ l = .abort) (h : c.step? l = some (c', effects)) :
    TeardownStep c l c' effects := by
  cases l with
  | teardown now => exact teardownStep_runTeardown h
  | halfClose answer now => exact teardownStep_halfClose h
  | drain answer => exact teardownStep_drain h
  | expire now => exact teardownStep_expire h
  | force answer => exact teardownStep_force h
  | abort => exact teardownStep_abort h
  | send _ _ | pollSend _ | write _ _ | dropSend _ | cancelSend _ | receive _ | pollReceive _
  | read _ _ | dropReceive _ | cancelReceive _ | dispose =>
    exact absurd hl (by simp [Label.ofTeardown])

theorem TeardownStep.quiet {c c' : Connection} {l : Label} {effects : List Effect}
    (h : TeardownStep c l c' effects) : Quiet effects := by
  cases h with
  | halfCloses _ | forces _ => exact quiet_recorded _
  | drained _ => exact (quiet_recorded _).append ⟨rfl, rfl⟩
  | asks _ | takes _ _ _ | takesDown _ _ _ | bereft _ _ _ | takesReader _ _ | skipsReader _ _
  | drains _ | expiresAwaiting _ _ | expiresDraining _ _ | releases _ | publishes _
  | aborts _ _ _ => exact ⟨rfl, rfl⟩

/-- It touches no send. -/
theorem TeardownStep.sends {c c' : Connection} {l : Label} {effects : List Effect}
    (h : TeardownStep c l c' effects) : c'.sends = c.sends := by
  cases h <;> rfl

/-- A teardown that was started stays started. -/
theorem TeardownStep.started {c c' : Connection} {l : Label} {effects : List Effect}
    (h : TeardownStep c l c' effects) : c.teardown ≠ .absent ∧ c'.teardown ≠ .absent := by
  cases h with
  | aborts hstarted _ _ => exact ⟨hstarted, by simp⟩
  | drains hstate => simp [hstate]
  | asks hstate | takes hstate _ _ | takesDown hstate _ _ | bereft hstate _ _ | halfCloses hstate
  | takesReader hstate _ | skipsReader hstate _ | drained hstate | expiresAwaiting hstate _
  | expiresDraining hstate _ | forces hstate | releases hstate | publishes hstate =>
    exact ⟨by simp [hstate], by simp⟩

/-! ### Moves of receive streams -/

/-- A move of receive stream `i`, or the making of a new stream: it leaves the sends, the writing
    half and the teardown alone, and takes the reading half from nobody else. -/
structure Apart (c : Connection) (i : Option Nat) (stepped : Stepped) : Prop where
  connection : ∃ receives reader connected, (connected = true → c.connected = true) ∧
    stepped.1 = { c with receives, reader, connected }
  holder : ∀ a, i.map Actor.receive ≠ some a → c.reader.holder = some a →
    stepped.1.reader.holder = some a
  quiet : Quiet stepped.2

section apart

variable {c : Connection} {i : Nat} {r : Receive} {stepped : Stepped}

theorem apart_answerReceive {receives : List Receive} {reader : Lock Actor} (connected : Bool)
    (hconnected : connected = true → c.connected = true)
    (hholder : ∀ a, Actor.receive i ≠ a → c.reader.holder = some a → reader.holder = some a)
    (answer : ReceiveAnswer) (records : List LogRecord) :
    c.Apart (some i)
      ({ c with receives, reader, connected }.answerReceive i answer records) where
  connection := ⟨receives, reader.release (.receive i), connected, hconnected, rfl⟩
  holder a ha hheld := by
    have ha : Actor.receive i ≠ a := fun h => ha (congrArg some h)
    exact Lock.holder_release_of_ne (hholder a ha hheld) (Ne.symm ha)
  quiet := (quiet_recorded records).append ⟨rfl, rfl⟩

theorem apart_concludeReceive (connected : Bool)
    (hconnected : connected = true → c.connected = true) (answer : ReceiveAnswer)
    (records : List LogRecord) :
    c.Apart (some i) ({ c with connected }.concludeReceive i answer records) :=
  apart_answerReceive connected hconnected (fun _ _ h => h) answer records

theorem apart_interruptReceive (c : Connection) (i : Nat) (source : CancelSource) :
    c.Apart (some i) (c.interruptReceive i source) :=
  apart_concludeReceive c.connected id _ []

theorem apart_setReceive (c : Connection) (i : Nat) (state : PullState) {effects : List Effect}
    (h : Quiet effects) : c.Apart (some i) (c.setReceive i state, effects) :=
  ⟨⟨_, c.reader, c.connected, id, rfl⟩, fun _ _ hheld => hheld, h⟩

/-- A poll that comes after a request is as one that comes without. -/
theorem Apart.of_request (h : Apart { c with reader := c.reader.request (.receive i) } (some i)
    stepped) : c.Apart (some i) stepped where
  connection := by
    obtain ⟨receives, reader, connected, hconnected, hstepped⟩ := h.connection
    exact ⟨receives, reader, connected, hconnected, hstepped⟩
  holder a ha hheld := h.holder a ha (Lock.holder_request_of_some hheld _)
  quiet := h.quiet

theorem apart_enterReader (c : Connection) (i : Nat) : c.Apart (some i) (c.enterReader i) := by
  unfold enterReader
  split
  · exact c.apart_setReceive i _ ⟨rfl, rfl⟩
  · split
    · exact c.apart_setReceive i _ quiet_nil
    · exact apart_concludeReceive c.connected id _ []

/-- A step that changes nothing. -/
theorem apart_self (c : Connection) (i : Nat) {effects : List Effect} (h : Quiet effects) :
    c.Apart (some i) (c, effects) :=
  ⟨⟨c.receives, c.reader, c.connected, id, rfl⟩, fun _ _ hheld => hheld, h⟩

theorem apart_pollReceive (h : c.pollReceive i r = some stepped) : c.Apart (some i) stepped := by
  unfold pollReceive at h
  split at h
  · split at h
    · cases h
      exact c.apart_setReceive i _ ⟨rfl, rfl⟩
    · split at h
      · cases h
        exact c.apart_interruptReceive i _
      · cases h
        exact (apart_enterReader _ i).of_request
  · split at h
    · cases h
      exact c.apart_interruptReceive i _
    · cases h
      exact c.apart_enterReader i
  · split at h
    · cases h
      exact c.apart_interruptReceive i _
    · cases h
      exact c.apart_setReceive i _ quiet_nil
  · cases h
    exact c.apart_self i ⟨rfl, rfl⟩
  all_goals cases h

theorem apart_peerClosed (c : Connection) (i : Nat) : c.Apart (some i) (c.peerClosed i) := by
  unfold peerClosed
  dsimp only
  split <;> exact apart_concludeReceive false (by simp) _ _

theorem apart_readFailed (c : Connection) (i : Nat) (e : IoError) :
    c.Apart (some i) (c.readFailed i e) := by
  unfold readFailed
  dsimp only
  split
  · exact apart_concludeReceive c.connected id _ _
  · split
    · exact apart_concludeReceive false (by simp) _ _
    · exact apart_concludeReceive c.connected id _ _

theorem apart_read {answer : ReadAnswer} (h : c.read i r answer = some stepped) :
    c.Apart (some i) stepped := by
  unfold read at h
  split at h
  · cases h
    exact c.apart_setReceive i _ ⟨rfl, rfl⟩
  · split at h
    · cases h
    · cases h
      exact apart_answerReceive c.connected id (fun _ _ h => h) _ []
  · cases h
    exact c.apart_peerClosed i
  · split at h
    · split at h
      · cases h
        exact c.apart_interruptReceive i _
      · cases h
        exact c.apart_self i quiet_nil
    · cases h
      exact c.apart_readFailed i _
  · cases h

theorem apart_dropReceive (h : c.dropReceive i r = some stepped) : c.Apart (some i) stepped := by
  unfold dropReceive at h
  split at h
  · cases h
  · cases h
    refine ⟨⟨_, c.reader.release (.receive i), c.connected, id, rfl⟩, ?_, quiet_nil⟩
    intro a ha hheld
    exact Lock.holder_release_of_ne hheld fun h => ha (congrArg some h.symm)

end apart

/-! ### All steps -/

/-- Asking for the disposal changes the coordinator and the teardown at most. -/
theorem dispose_eq_with (c : Connection) :
    ∃ coordinator teardown, c.dispose = { c with coordinator, teardown } := by
  unfold dispose
  split
  · exact ⟨c.coordinator, c.teardown, rfl⟩
  · exact ⟨_, _, rfl⟩

/-- What a step of a connection is. -/
inductive StepCase (c : Connection) (l : Label) (c' : Connection) (effects : List Effect) :
    Prop where
  /-- A send is made. -/
  | made (bytes : Bytes) (cancelled : Bool) (hl : l = .send bytes cancelled)
      (hc' : c' = { c with sends := c.sends ++ [{ bytes, cancelled }] })
      (heffects : effects = [])
  /-- A send moves. -/
  | send (i : Nat) (s : Send) (hl : l.send? = some i) (hs : c.sends[i]? = some s)
      (h : c.Moves i s l (c', effects))
  /-- The caller's token of a send fires. -/
  | cancelled (i : Nat) (hl : l = .cancelSend i)
      (hc' : c' = { c with sends := c.sends.modify i fun s => { s with cancelled := true } })
      (heffects : effects = [])
  /-- A receive stream moves, or is made. -/
  | receive (i : Option Nat) (hi : l.receive? = i) (hl : l.send? = none)
      (h : c.Apart i (c', effects))
  | dispose (hl : l = .dispose) (hc' : c' = c.dispose) (heffects : effects = [])
  | teardown (hl : l.ofTeardown = true ∨ l = .abort) (h : TeardownStep c l c' effects)

theorem step_cases {c c' : Connection} {l : Label} {effects : List Effect}
    (h : c.step? l = some (c', effects)) : StepCase c l c' effects := by
  cases l with
  | send bytes cancelled =>
    cases h
    exact .made bytes cancelled rfl rfl rfl
  | pollSend i | write i answer | dropSend i | cancelSend i =>
    rcases step_send rfl h with ⟨s, hs, hmoves⟩ | ⟨hl, hstepped⟩
    · exact .send i s rfl hs hmoves
    · cases hstepped
      exact .cancelled i hl rfl rfl
  | receive cancelled =>
    cases h
    exact .receive none rfl rfl
      ⟨⟨_, c.reader, c.connected, id, rfl⟩, fun _ _ hheld => hheld, quiet_nil⟩
  | pollReceive i =>
    obtain ⟨r, -, hpoll⟩ := Option.bind_eq_some_iff.1 h
    exact .receive (some i) rfl rfl (apart_pollReceive hpoll)
  | read i answer =>
    obtain ⟨r, -, hread⟩ := Option.bind_eq_some_iff.1 h
    exact .receive (some i) rfl rfl (apart_read hread)
  | dropReceive i =>
    obtain ⟨r, -, hdrop⟩ := Option.bind_eq_some_iff.1 h
    exact .receive (some i) rfl rfl (apart_dropReceive hdrop)
  | cancelReceive i =>
    cases h
    exact .receive (some i) rfl rfl
      ⟨⟨_, c.reader, c.connected, id, rfl⟩, fun _ _ hheld => hheld, quiet_nil⟩
  | dispose =>
    cases h
    exact .dispose rfl rfl rfl
  | teardown _ | halfClose _ _ | drain _ | expire _ | force _ =>
    exact .teardown (.inl rfl) (step_teardown (.inl rfl) h)
  | abort => exact .teardown (.inr rfl) (step_teardown (.inr rfl) h)

/-- What only the teardown changes: the halves. Nobody changes the configuration, and nobody brings
    the connection up again. -/
structure LeavesHalves (c c' : Connection) : Prop where
  config : c'.config = c.config
  writeHalf : c'.writeHalf = c.writeHalf
  readHalf : c'.readHalf = c.readHalf
  connected : c.connected = false → c'.connected = false

/-- Whoever moves leaves the halves alone, unless it is the teardown. -/
theorem leavesHalves_or_teardown {c c' : Connection} {l : Label} {effects : List Effect}
    (h : c.step? l = some (c', effects)) : c.LeavesHalves c' ∨ TeardownStep c l c' effects := by
  have hdown {connected : Bool} (hconnected : connected = true → c.connected = true)
      (hc : c.connected = false) : connected = false := by
    refine Bool.eq_false_iff.2 fun hup => ?_
    rw [hconnected hup] at hc
    cases hc
  cases step_cases h with
  | made _ _ _ hc' _ | cancelled _ _ hc' _ =>
    subst hc'
    exact .inl ⟨rfl, rfl, rfl, id⟩
  | send i s _ _ hmoves =>
    obtain ⟨state, lock, octets, result, -, hsent⟩ := hmoves
    obtain ⟨connected, hconnected, (rfl : c' = _)⟩ := hsent.connection
    exact .inl ⟨rfl, rfl, rfl, hdown hconnected⟩
  | receive i _ _ hapart =>
    obtain ⟨receives, reader, connected, hconnected, (rfl : c' = _)⟩ := hapart.connection
    exact .inl ⟨rfl, rfl, rfl, hdown hconnected⟩
  | dispose _ hc' _ =>
    obtain ⟨coordinator, teardown, hdispose⟩ := c.dispose_eq_with
    rw [hc', hdispose]
    exact .inl ⟨rfl, rfl, rfl, id⟩
  | teardown _ hteardown => exact .inr hteardown

end Connection

end Duplex
