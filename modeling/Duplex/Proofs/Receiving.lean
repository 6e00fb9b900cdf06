import Duplex.Connection.Step

/-! # What a receive stream sees of its connection

  Everybody who uses a connection moves by its steps, and most of them mean nothing to a given
  receive stream. `ReceiveStep` lists those that do, with what the stream answers in each, and
  `step_receive` says that there are no others. Whatever is to be shown of a receive stream
  follows from that list: to begin with, that it answers nothing any more once it has ended
  (`run_of_gone`).
-/

namespace Duplex

/-- What a receive stream answers. -/
abbrev ReceiveAnswer := Polled Bytes ConnectionError

/-- The receive stream has given neither an error nor its end. -/
def Receive.Open (r : Receive) : Prop := r.finished = false ∧ r.state ≠ .exhausted

/-- The receive stream has ended, or was dropped. -/
def Receive.Gone (r : Receive) : Prop := r.state = .exhausted ∨ r.state = .dropped

/-- The receive stream is gone, or has given an error and has only its end to give. -/
def Receive.Concluded (r : Receive) : Prop := r.finished = true ∧ r.state = .idle ∨ r.Gone

theorem Receive.state_conclude (r : Receive) (answer : ReceiveAnswer) :
    (r.conclude answer).state = .exhausted ∧ answer = .ended ∨
      (r.conclude answer).state = .idle ∧ answer ≠ .ended := by
  cases answer with
  | ended => exact .inl ⟨rfl, rfl⟩
  | pending | next _ | failed _ => exact .inr ⟨rfl, by simp⟩

theorem Receive.concluded_conclude (r : Receive) (answer : ReceiveAnswer) :
    (r.conclude answer).Concluded := by
  rcases r.state_conclude answer with ⟨hstate, -⟩ | ⟨hstate, -⟩
  · exact .inr (.inl hstate)
  · exact .inl ⟨rfl, hstate⟩

theorem Receive.not_reading_conclude (r : Receive) (answer : ReceiveAnswer) (awake : Bool) :
    (r.conclude answer).state ≠ .reading awake := by
  rcases r.state_conclude answer with ⟨hstate, -⟩ | ⟨hstate, -⟩ <;> simp [hstate]

namespace Connection

/-- The receive stream that a label is about. -/
def Label.receive? : Label → Option Nat
  | .pollReceive i | .read i _ | .dropReceive i | .cancelReceive i => some i
  | .send .. | .pollSend _ | .write .. | .dropSend _ | .cancelSend _ | .receive _
  | .dispose | .teardown _ | .halfClose .. | .drain _ | .expire _ | .force _ | .abort => none

/-- The answer of receive stream `i` in an effect. -/
def Effect.answer? (i : Nat) : Effect → Option ReceiveAnswer
  | .answered j answer => if j = i then some answer else none
  | .wrote _ | .sent .. | .panicked _ | .writerDropped | .readerDropped | .recorded _ => none

/-- The answers of receive stream `i` among some effects. -/
def answersOf (i : Nat) (effects : List Effect) : List ReceiveAnswer :=
  effects.filterMap (Effect.answer? i)

theorem answersOf_append (i : Nat) (effects more : List Effect) :
    answersOf i (effects ++ more) = answersOf i effects ++ answersOf i more :=
  List.filterMap_append

theorem answersOf_recorded (i : Nat) (records : List LogRecord) :
    answersOf i (records.map .recorded) = [] := by
  induction records with
  | nil => rfl
  | cons record records ih => exact ih

/-! ### Steps that mean nothing to receive streams -/

/-- A step with no meaning for receive streams, nor for the disposal. -/
structure Aside (c : Connection) (stepped : Stepped) : Prop where
  receives : stepped.1.receives = c.receives
  coordinator : stepped.1.coordinator = c.coordinator
  teardown : stepped.1.teardown = c.teardown
  answers : ∀ i, answersOf i stepped.2 = []

theorem aside_returnSend (c : Connection) (i : Nat) (result : Except ConnectionError Nat) :
    c.Aside (c.returnSend i result) := ⟨rfl, rfl, rfl, fun _ => rfl⟩

theorem aside_interruptSend (c : Connection) (i : Nat) (source : CancelSource) :
    c.Aside (c.interruptSend i source) := ⟨rfl, rfl, rfl, fun _ => rfl⟩

theorem aside_enterWriter (c : Connection) (i : Nat) (bytes : Bytes) :
    c.Aside (c.enterWriter i bytes) := by
  unfold enterWriter
  split
  · exact ⟨rfl, rfl, rfl, fun _ => rfl⟩
  · split
    · exact ⟨rfl, rfl, rfl, fun _ => rfl⟩
    · exact c.aside_returnSend i _

theorem aside_pollSend {c : Connection} {i : Nat} {s : Send} {stepped : Stepped}
    (h : c.pollSend i s = some stepped) : c.Aside stepped := by
  unfold pollSend at h
  split at h
  · split at h
    · cases h
      exact c.aside_returnSend i _
    · split at h
      · cases h
        exact c.aside_returnSend i _
      · split at h
        · cases h
          exact c.aside_interruptSend i _
        · cases h
          have hentered :=
            aside_enterWriter { c with writer := c.writer.request (.send i) } i s.bytes
          exact ⟨hentered.receives, hentered.coordinator, hentered.teardown, hentered.answers⟩
  · split at h
    · cases h
      exact c.aside_interruptSend i _
    · cases h
      exact c.aside_enterWriter i _
  · split at h
    · cases h
      exact c.aside_interruptSend i _
    · cases h
      exact ⟨rfl, rfl, rfl, fun _ => rfl⟩
  all_goals cases h

theorem aside_write {c : Connection} {i : Nat} {s : Send} {answer : WriteAnswer}
    {stepped : Stepped} (h : c.write i s answer = some stepped) : c.Aside stepped := by
  unfold write at h
  split at h
  · cases h
    exact ⟨rfl, rfl, rfl, fun _ => rfl⟩
  · split at h
    · cases h
    · split at h <;> (cases h; exact ⟨rfl, rfl, rfl, fun _ => rfl⟩)
  · cases h
    exact ⟨rfl, rfl, rfl, fun _ => rfl⟩
  · cases h

theorem aside_dropSend {c : Connection} {i : Nat} {s : Send} {stepped : Stepped}
    (h : c.dropSend i s = some stepped) : c.Aside stepped := by
  unfold dropSend at h
  split at h
  · cases h
  · cases h
  · cases h
    exact ⟨rfl, rfl, rfl, fun _ => rfl⟩

/-! ### Steps of the teardown -/

/-- A step of the teardown, which has started. -/
structure Torn (c : Connection) (stepped : Stepped) : Prop where
  started : c.teardown ≠ .absent
  receives : stepped.1.receives = c.receives
  /-- It publishes the outcome, or leaves the coordinator alone. -/
  coordinator : stepped.1.coordinator = c.coordinator ∨
    ∃ o, stepped.1.coordinator = c.coordinator.publish o
  answers : ∀ i, answersOf i stepped.2 = []

theorem Torn.token {c : Connection} {stepped : Stepped} (h : c.Torn stepped) :
    stepped.1.coordinator.token = c.coordinator.token := by
  rcases h.coordinator with hsame | ⟨o, hpublished⟩
  · rw [hsame]
  · rw [hpublished]
    rfl

theorem torn_takeWriter {c : Connection} (hstarted : c.teardown ≠ .absent) (wasConnected : Bool)
    (now : Nat) : c.Torn (c.takeWriter wasConnected now, []) := by
  unfold takeWriter
  dsimp only
  split
  · exact ⟨hstarted, rfl, .inl rfl, fun _ => rfl⟩
  · split <;> exact ⟨hstarted, rfl, .inl rfl, fun _ => rfl⟩

theorem torn_takeReader {c : Connection} (hstarted : c.teardown ≠ .absent) (wasConnected : Bool)
    (outcome : DisposeOutcome) (deadline : Nat) :
    c.Torn (c.takeReader wasConnected outcome deadline) := by
  unfold takeReader
  dsimp only
  split <;> exact ⟨hstarted, rfl, .inl rfl, fun _ => rfl⟩

theorem torn_runTeardown {c : Connection} {now : Nat} {stepped : Stepped}
    (h : c.runTeardown now = some stepped) : c.Torn stepped := by
  unfold runTeardown at h
  split at h
  · next hstate =>
    cases h
    exact ⟨by simp [hstate], rfl, .inl rfl, fun _ => rfl⟩
  · next hstate =>
    split at h
    · cases h
      exact torn_takeWriter (by simp [hstate]) _ now
    · cases h
  · next hstate =>
    split at h
    · cases h
      exact torn_takeReader (by simp [hstate]) _ _ _
    · cases h
  · next hstate =>
    cases h
    exact ⟨by simp [hstate], rfl, .inl rfl, fun _ => rfl⟩
  · next hstate =>
    cases h
    exact ⟨by simp [hstate], rfl, .inr ⟨_, rfl⟩, fun _ => rfl⟩
  all_goals cases h

theorem torn_halfClose {c : Connection} {answer : Except IoError Unit} {now : Nat}
    {stepped : Stepped} (h : c.halfClose answer now = some stepped) : c.Torn stepped := by
  unfold halfClose at h
  split at h
  · next hstate =>
    cases h
    exact ⟨by simp [hstate], rfl, .inl rfl, fun _ => rfl⟩
  · next hstate =>
    cases h
    exact ⟨by simp [hstate], rfl, .inl rfl, fun _ => rfl⟩
  · cases h

theorem torn_endDrain {c : Connection} (hstarted : c.teardown ≠ .absent)
    (outcome : DisposeOutcome) (records : List LogRecord) :
    c.Torn (c.endDrain outcome records) := by
  refine ⟨hstarted, rfl, .inl rfl, fun i => ?_⟩
  rw [endDrain, answersOf_append, answersOf_recorded]
  rfl

theorem torn_drain {c : Connection} {answer : ReadAnswer} {stepped : Stepped}
    (h : c.drain answer = some stepped) : c.Torn stepped := by
  unfold drain at h
  split at h
  · next hstate =>
    cases h
    exact ⟨by simp [hstate], rfl, .inl rfl, fun _ => rfl⟩
  · next hstate =>
    cases h
    exact ⟨by simp [hstate], rfl, .inl rfl, fun _ => rfl⟩
  · next hstate =>
    cases h
    exact torn_endDrain (by simp [hstate]) _ _
  · next hstate =>
    split at h
    · cases h
      exact ⟨by simp [hstate], rfl, .inl rfl, fun _ => rfl⟩
    · cases h
      exact torn_endDrain (by simp [hstate]) _ _
  · cases h

theorem torn_expire {c : Connection} {now : Nat} {stepped : Stepped}
    (h : c.expire now = some stepped) : c.Torn stepped := by
  unfold expire at h
  split at h
  · next hstate =>
    split at h
    · cases h
      exact ⟨by simp [hstate], rfl, .inl rfl, fun _ => rfl⟩
    · cases h
  · next hstate =>
    split at h
    · cases h
      exact ⟨by simp [hstate], rfl, .inl rfl, fun _ => rfl⟩
    · cases h
  · cases h

theorem torn_force {c : Connection} {answer : Except IoError Unit} {stepped : Stepped}
    (h : c.force answer = some stepped) : c.Torn stepped := by
  unfold force at h
  split at h
  · next hstate =>
    cases h
    exact ⟨by simp [hstate], rfl, .inl rfl, fun i => answersOf_recorded i _⟩
  · cases h

theorem torn_abort {c : Connection} {stepped : Stepped} (h : c.abort = some stepped) :
    c.Torn stepped := by
  unfold abort at h
  split at h
  · cases h
  · cases h
  · cases h
  · next hstarted _ _ =>
    cases h
    exact ⟨hstarted, rfl, .inl rfl, fun _ => rfl⟩

/-! ### Steps of receive streams -/

/-- What a receive stream answers because a side has fired. -/
def interruption : CancelSource → ReceiveAnswer
  | .disposal => .ended
  | .external => .failed (.cancelled Operation.receive.name)

/-- What it answers at the peer's close. -/
def peerCloseAnswer (c : Connection) : ReceiveAnswer :=
  if c.coordinator.token then .ended
  else
    match c.config.peerClose with
    | .complete => .ended
    | .error => .failed (.remoteClosed none)

/-- What it answers where its read has failed. -/
def readFailure (c : Connection) (e : IoError) : ReceiveAnswer :=
  if c.coordinator.token then .ended else .failed (.ofIo Operation.read.name e)

/-- `ReceiveStep c i l r r' answers`: a step of `c` with this label makes receive stream `i`, which
    was `r`, into `r'`, and these are its answers in it. -/
inductive ReceiveStep (c : Connection) (i : Nat) :
    Label → Receive → Receive → List ReceiveAnswer → Prop where
  /-- Somebody else moves. -/
  | other {l : Label} {r : Receive} (hl : l.receive? ≠ some i) : ReceiveStep c i l r r []
  | cancelled {r : Receive} : ReceiveStep c i (.cancelReceive i) r { r with cancelled := true } []
  | dropped {r : Receive} : ReceiveStep c i (.dropReceive i) r { r with state := .dropped } []
  /-- It has given its error before. -/
  | ended {r : Receive} (hstate : r.state = .idle) (hfinished : r.finished = true) :
      ReceiveStep c i (.pollReceive i) r { r with state := .exhausted } [.ended]
  /-- It has ended before, so it must not be polled. -/
  | panics {r : Receive} (hstate : r.state = .exhausted) : ReceiveStep c i (.pollReceive i) r r []
  /-- A side has fired before the poll. -/
  | interrupted {r : Receive} {source : CancelSource}
      (hfinished : r.state = .idle → r.finished = false)
      (hrests : r.state = .idle ∨ r.state = .waiting ∨ r.state = .reading false)
      (hfired : c.fired r.cancelled = some source) :
      ReceiveStep c i (.pollReceive i) r (r.conclude (interruption source)) [interruption source]
  /-- The reading half is held by somebody else. -/
  | waits {r : Receive} (hstate : r.state = .idle ∧ r.finished = false ∨ r.state = .waiting)
      (hfired : c.fired r.cancelled = none) :
      ReceiveStep c i (.pollReceive i) r { r with state := .waiting } [.pending]
  /-- The poll goes as far as the read. -/
  | reads {r : Receive}
      (hstate : r.state = .idle ∧ r.finished = false ∨ r.state = .waiting ∨
        r.state = .reading false)
      (hfired : c.fired r.cancelled = none) :
      ReceiveStep c i (.pollReceive i) r { r with state := .reading true } []
  /-- The teardown has taken the reading half away. -/
  | bereft {r : Receive} (hstate : r.state = .idle ∧ r.finished = false ∨ r.state = .waiting)
      (hfired : c.fired r.cancelled = none) (hhalf : c.readHalf = false) :
      ReceiveStep c i (.pollReceive i) r (r.conclude .ended) [.ended]
  | blocked {r : Receive} (hstate : r.state = .reading true) :
      ReceiveStep c i (.read i .blocked) r { r with state := .reading false } [.pending]
  | chunk {r : Receive} {bytes : Bytes} (hstate : r.state = .reading true)
      (hne : bytes ≠ []) :
      ReceiveStep c i (.read i (.chunk bytes)) r { r with state := .idle } [.next bytes]
  | closed {r : Receive} (hstate : r.state = .reading true) :
      ReceiveStep c i (.read i .closed) r (r.conclude c.peerCloseAnswer) [c.peerCloseAnswer]
  /-- An interrupted read is tried again. -/
  | retried {r : Receive} {e : IoError} (hstate : r.state = .reading true)
      (hkind : e.kind = .interrupted) (hfired : c.fired r.cancelled = none) :
      ReceiveStep c i (.read i (.failed e)) r r []
  /-- An interrupted read is not tried again, since a side has fired. -/
  | stopped {r : Receive} {e : IoError} {source : CancelSource} (hstate : r.state = .reading true)
      (hkind : e.kind = .interrupted) (hfired : c.fired r.cancelled = some source) :
      ReceiveStep c i (.read i (.failed e)) r (r.conclude (interruption source))
        [interruption source]
  | failed {r : Receive} {e : IoError} (hstate : r.state = .reading true)
      (hkind : e.kind ≠ .interrupted) :
      ReceiveStep c i (.read i (.failed e)) r (r.conclude (c.readFailure e)) [c.readFailure e]

/-- The connection after a step in which receive stream `i` has become `r` and has answered this,
    and which means nothing to other receive streams nor to the disposal. -/
structure Received (c : Connection) (i : Nat) (r : Receive) (answers : List ReceiveAnswer)
    (stepped : Stepped) : Prop where
  self : stepped.1.receives[i]? = some r
  others : ∀ j, j ≠ i → stepped.1.receives[j]? = c.receives[j]?
  coordinator : stepped.1.coordinator = c.coordinator
  teardown : stepped.1.teardown = c.teardown
  answers : answersOf i stepped.2 = answers
  silent : ∀ j, j ≠ i → answersOf j stepped.2 = []

section received

variable {c : Connection} {i : Nat} {r : Receive}

theorem Received.of_modify (hr : c.receives[i]? = some r) {c' : Connection}
    {f : Receive → Receive} (hreceives : c'.receives = c.receives.modify i f)
    (hcoordinator : c'.coordinator = c.coordinator) (hteardown : c'.teardown = c.teardown)
    {effects : List Effect} {answers : List ReceiveAnswer}
    (hanswers : answersOf i effects = answers)
    (hsilent : ∀ j, j ≠ i → answersOf j effects = []) :
    c.Received i (f r) answers (c', effects) where
  self := by
    show c'.receives[i]? = _
    rw [hreceives, List.getElem?_modify, hr]
    simp
  others j hj := by
    show c'.receives[j]? = _
    rw [hreceives, List.getElem?_modify]
    simp [Ne.symm hj]
  coordinator := hcoordinator
  teardown := hteardown
  answers := hanswers
  silent := hsilent

theorem answersOf_answered (i j : Nat) (answer : ReceiveAnswer) (records : List LogRecord) :
    answersOf j (records.map .recorded ++ [.answered i answer]) =
      if i = j then [answer] else [] := by
  rw [answersOf_append, answersOf_recorded]
  by_cases hij : i = j
  · simp [answersOf, Effect.answer?, hij]
  · simp [answersOf, Effect.answer?, hij]

/-- The stream answers and gives the reading half back. -/
theorem Received.of_answer (hr : c.receives[i]? = some r) {c' : Connection}
    {f : Receive → Receive} (hreceives : c'.receives = c.receives.modify i f)
    (hcoordinator : c'.coordinator = c.coordinator) (hteardown : c'.teardown = c.teardown)
    (answer : ReceiveAnswer) (records : List LogRecord) :
    c.Received i (f r) [answer] (c'.answerReceive i answer records) := by
  have hself : answersOf i (records.map .recorded ++ [.answered i answer]) = [answer] := by
    rw [answersOf_answered, if_pos rfl]
  have hsilent : ∀ j, j ≠ i → answersOf j (records.map .recorded ++ [.answered i answer]) = [] := by
    intro j hj
    rw [answersOf_answered, if_neg (Ne.symm hj)]
  have hreleased : (c'.releaseReader (.receive i)).receives = c.receives.modify i f := hreceives
  exact .of_modify hr hreleased hcoordinator hteardown hself hsilent

/-- The stream gives its last answer. -/
theorem Received.of_conclude (hr : c.receives[i]? = some r) {c' : Connection}
    (hreceives : c'.receives = c.receives) (hcoordinator : c'.coordinator = c.coordinator)
    (hteardown : c'.teardown = c.teardown) (answer : ReceiveAnswer) (records : List LogRecord) :
    c.Received i (r.conclude answer) [answer] (c'.concludeReceive i answer records) := by
  have hconcluded : { c' with receives := c'.receives.modify i (·.conclude answer) }.receives =
      c.receives.modify i (·.conclude answer) := by rw [hreceives]
  exact .of_answer hr hconcluded hcoordinator hteardown answer records

/-- The pull goes on in silence. -/
theorem Received.of_state (hr : c.receives[i]? = some r) (reader : Lock Actor)
    (state : PullState) :
    c.Received i { r with state } [] ({ c with reader }.setReceive i state, []) :=
  .of_modify (f := fun r => { r with state }) hr (by rfl) (by rfl) (by rfl) (by rfl)
    fun _ _ => by rfl

/-- The poll is answered, and the stream keeps its place at the lock. -/
theorem Received.of_told (hr : c.receives[i]? = some r) (reader : Lock Actor)
    (state : PullState) (answer : ReceiveAnswer) :
    c.Received i { r with state } [answer]
      ({ c with reader }.setReceive i state, [.answered i answer]) := by
  have hreceives : ({ c with reader }.setReceive i state).receives =
      c.receives.modify i fun r => { r with state } := rfl
  refine .of_modify hr hreceives rfl rfl ?_ ?_
  · exact (answersOf_answered i i answer []).trans (if_pos rfl)
  · intro j hj
    exact (answersOf_answered i j answer []).trans (if_neg (Ne.symm hj))

theorem received_interruptReceive (hr : c.receives[i]? = some r) (source : CancelSource) :
    c.Received i (r.conclude (interruption source)) [interruption source]
      (c.interruptReceive i source) := by
  cases source <;> exact .of_conclude hr (by rfl) (by rfl) (by rfl) _ []

/-- A poll that no side has interrupted goes on if the reading half is granted. -/
theorem received_enterReader (hr : c.receives[i]? = some r)
    (hstate : r.state = .idle ∧ r.finished = false ∨ r.state = .waiting)
    (hfired : c.fired r.cancelled = none) (reader : Lock Actor) :
    ∃ r' answers, ReceiveStep c i (.pollReceive i) r r' answers ∧
      c.Received i r' answers ({ c with reader }.enterReader i) := by
  unfold enterReader
  split
  · exact ⟨_, _, .waits hstate hfired, Received.of_told hr reader .waiting .pending⟩
  · split
    · have hreads : r.state = .idle ∧ r.finished = false ∨ r.state = .waiting ∨
          r.state = .reading false := hstate.imp_right .inl
      exact ⟨_, _, .reads hreads hfired, Received.of_state hr reader (.reading true)⟩
    · next hhalf =>
      have hhalf : c.readHalf = false := by simpa using hhalf
      exact ⟨_, _, .bereft hstate hfired hhalf,
        .of_conclude hr (by rfl) (by rfl) (by rfl) .ended []⟩

theorem received_pollReceive (hr : c.receives[i]? = some r) {stepped : Stepped}
    (h : c.pollReceive i r = some stepped) :
    ∃ r' answers, ReceiveStep c i (.pollReceive i) r r' answers ∧
      c.Received i r' answers stepped := by
  unfold pollReceive at h
  split at h
  · next hstate =>
    split at h
    · next hfinished =>
      cases h
      exact ⟨_, _, .ended hstate hfinished, Received.of_told hr c.reader .exhausted .ended⟩
    · next hfinished =>
      have hfinished : r.finished = false := by simpa using hfinished
      split at h
      · next source hfired =>
        cases h
        exact ⟨_, _, .interrupted (fun _ => hfinished) (.inl hstate) hfired,
          received_interruptReceive hr source⟩
      · next hfired =>
        cases h
        exact received_enterReader hr (.inl ⟨hstate, hfinished⟩) hfired _
  · next hstate =>
    split at h
    · next source hfired =>
      cases h
      exact ⟨_, _, .interrupted (by simp [hstate]) (.inr (.inl hstate)) hfired,
        received_interruptReceive hr source⟩
    · next hfired =>
      cases h
      exact received_enterReader hr (.inr hstate) hfired c.reader
  · next hstate =>
    split at h
    · next source hfired =>
      cases h
      exact ⟨_, _, .interrupted (by simp [hstate]) (.inr (.inr hstate)) hfired,
        received_interruptReceive hr source⟩
    · next hfired =>
      cases h
      exact ⟨_, _, .reads (.inr (.inr hstate)) hfired, Received.of_state hr c.reader _⟩
  · next hstate =>
    cases h
    exact ⟨r, _, .panics hstate, hr, fun _ _ => rfl, rfl, rfl, rfl, fun _ _ => rfl⟩
  all_goals cases h

theorem received_peerClosed (hr : c.receives[i]? = some r) :
    c.Received i (r.conclude c.peerCloseAnswer) [c.peerCloseAnswer] (c.peerClosed i) := by
  unfold peerClosed peerCloseAnswer
  dsimp only
  split
  · exact .of_conclude hr (by rfl) (by rfl) (by rfl) .ended []
  · exact .of_conclude hr (by rfl) (by rfl) (by rfl) _ _

theorem received_readFailed (hr : c.receives[i]? = some r) (e : IoError) :
    c.Received i (r.conclude (c.readFailure e)) [c.readFailure e] (c.readFailed i e) := by
  unfold readFailed readFailure
  dsimp only
  split
  · exact .of_conclude hr (by rfl) (by rfl) (by rfl) .ended []
  · split <;> exact .of_conclude hr (by rfl) (by rfl) (by rfl) _ _

theorem received_read (hr : c.receives[i]? = some r) {answer : ReadAnswer} {stepped : Stepped}
    (h : c.read i r answer = some stepped) :
    ∃ r' answers, ReceiveStep c i (.read i answer) r r' answers ∧
      c.Received i r' answers stepped := by
  unfold read at h
  split at h
  · next hstate =>
    cases h
    exact ⟨_, _, .blocked hstate, Received.of_told hr c.reader _ .pending⟩
  · next bytes hstate =>
    split at h
    · cases h
    · next hbytes =>
      cases h
      have hne : bytes ≠ [] := mt List.isEmpty_iff.2 hbytes
      exact ⟨_, _, .chunk hstate hne,
        .of_answer (f := fun r => { r with state := .idle }) hr (by rfl) (by rfl) (by rfl) _ []⟩
  · next hstate =>
    cases h
    exact ⟨_, _, .closed hstate, received_peerClosed hr⟩
  · next e hstate =>
    split at h
    · next hkind =>
      split at h
      · next source hfired =>
        cases h
        exact ⟨_, _, .stopped hstate hkind hfired, received_interruptReceive hr source⟩
      · next hfired =>
        cases h
        exact ⟨r, _, .retried hstate hkind hfired, hr, fun _ _ => rfl, rfl, rfl, rfl,
          fun _ _ => rfl⟩
    · next hkind =>
      cases h
      exact ⟨_, _, .failed hstate hkind, received_readFailed hr e⟩
  · cases h

theorem received_dropReceive (hr : c.receives[i]? = some r) {stepped : Stepped}
    (h : c.dropReceive i r = some stepped) :
    c.Received i { r with state := .dropped } [] stepped := by
  unfold dropReceive at h
  split at h
  · cases h
  · cases h
    exact Received.of_state hr _ .dropped

end received

/-! ### All steps -/

/-- What a step means to the receive streams and to the disposal. -/
inductive StepKind (c : Connection) (l : Label) (stepped : Stepped) : Prop where
  /-- Nothing. -/
  | aside (hl : ∀ j, l.receive? = some j → c.receives[j]? = none) (h : c.Aside stepped)
  /-- Stream `j` moves. -/
  | receive (j : Nat) (r r' : Receive) (answers : List ReceiveAnswer)
      (hl : l.receive? = some j) (hr : c.receives[j]? = some r)
      (hstep : ReceiveStep c j l r r' answers) (h : c.Received j r' answers stepped)
  /-- There is a new stream. -/
  | new (cancelled : Bool) (hl : l = .receive cancelled)
      (h : stepped = ({ c with receives := c.receives ++ [{ cancelled }] }, []))
  /-- The disposal is asked for. -/
  | dispose (hl : l = .dispose) (h : stepped = (c.dispose, []))
  /-- The teardown goes on. -/
  | torn (hl : l.receive? = none) (h : c.Torn stepped)

theorem step_kind {c : Connection} {l : Label} {stepped : Stepped}
    (h : c.step? l = some stepped) : StepKind c l stepped := by
  cases l with
  | send bytes cancelled =>
    cases h
    exact .aside (by simp [Label.receive?]) ⟨rfl, rfl, rfl, fun _ => rfl⟩
  | pollSend i =>
    obtain ⟨s, -, hs⟩ := Option.bind_eq_some_iff.1 h
    exact .aside (by simp [Label.receive?]) (aside_pollSend hs)
  | write i answer =>
    obtain ⟨s, -, hs⟩ := Option.bind_eq_some_iff.1 h
    exact .aside (by simp [Label.receive?]) (aside_write hs)
  | dropSend i =>
    obtain ⟨s, -, hs⟩ := Option.bind_eq_some_iff.1 h
    exact .aside (by simp [Label.receive?]) (aside_dropSend hs)
  | cancelSend i =>
    cases h
    exact .aside (by simp [Label.receive?]) ⟨rfl, rfl, rfl, fun _ => rfl⟩
  | receive cancelled =>
    cases h
    exact .new cancelled rfl rfl
  | pollReceive i =>
    obtain ⟨r, hr, hpoll⟩ := Option.bind_eq_some_iff.1 h
    obtain ⟨r', answers, hstep, hreceived⟩ := received_pollReceive hr hpoll
    exact .receive i r r' answers rfl hr hstep hreceived
  | read i answer =>
    obtain ⟨r, hr, hread⟩ := Option.bind_eq_some_iff.1 h
    obtain ⟨r', answers, hstep, hreceived⟩ := received_read hr hread
    exact .receive i r r' answers rfl hr hstep hreceived
  | dropReceive i =>
    obtain ⟨r, hr, hdrop⟩ := Option.bind_eq_some_iff.1 h
    exact .receive i r _ _ rfl hr .dropped (received_dropReceive hr hdrop)
  | cancelReceive i =>
    cases h
    cases hr : c.receives[i]? with
    | some r =>
      refine .receive i r _ _ rfl hr .cancelled ?_
      exact .of_modify (f := fun r => { r with cancelled := true }) hr (by rfl) (by rfl) (by rfl)
        (by rfl) fun _ _ => by rfl
    | none =>
      -- there is no such stream
      have hsame : c.receives.modify i (fun r => { r with cancelled := true }) = c.receives :=
        List.modify_eq_self (List.getElem?_eq_none_iff.1 hr)
      refine .aside ?_ ⟨hsame, rfl, rfl, fun _ => rfl⟩
      intro j hj
      cases hj
      exact hr
  | dispose =>
    cases h
    exact .dispose rfl rfl
  | teardown now => exact .torn rfl (torn_runTeardown h)
  | halfClose answer now => exact .torn rfl (torn_halfClose h)
  | drain answer => exact .torn rfl (torn_drain h)
  | expire now => exact .torn rfl (torn_expire h)
  | force answer => exact .torn rfl (torn_force h)
  | abort => exact .torn rfl (torn_abort h)

theorem dispose_receives (c : Connection) : c.dispose.receives = c.receives := by
  unfold dispose
  split <;> rfl

/-- What a step means to a receive stream. -/
theorem step_receive {c c' : Connection} {l : Label} {effects : List Effect} {i : Nat}
    {r : Receive} (h : c.step? l = some (c', effects)) (hr : c.receives[i]? = some r) :
    ∃ r', c'.receives[i]? = some r' ∧ ReceiveStep c i l r r' (answersOf i effects) := by
  cases step_kind h with
  | aside hl haside =>
    have hother : l.receive? ≠ some i := by
      intro hli
      rw [hl i hli] at hr
      cases hr
    refine ⟨r, ?_, ?_⟩
    · rw [← hr]
      exact congrArg (·[i]?) haside.receives
    · rw [show answersOf i effects = [] from haside.answers i]
      exact .other hother
  | receive j r₀ r' answers hl hr₀ hstep hreceived =>
    by_cases hji : j = i
    · subst hji
      rw [hr] at hr₀
      cases hr₀
      refine ⟨r', hreceived.self, ?_⟩
      rw [show answersOf j effects = answers from hreceived.answers]
      exact hstep
    · refine ⟨r, (hreceived.others i (Ne.symm hji)).trans hr, ?_⟩
      rw [show answersOf i effects = [] from hreceived.silent i (Ne.symm hji)]
      refine .other ?_
      rw [hl]
      intro heq
      cases heq
      exact hji rfl
  | new cancelled hl hnew =>
    cases hl
    cases hnew
    refine ⟨r, ?_, .other (by simp [Label.receive?])⟩
    exact (List.getElem?_append_left (List.getElem?_eq_some_iff.1 hr).1).trans hr
  | dispose hl hdispose =>
    cases hl
    cases hdispose
    refine ⟨r, ?_, .other (by simp [Label.receive?])⟩
    rw [dispose_receives]
    exact hr
  | torn hl htorn =>
    refine ⟨r, (congrArg (·[i]?) htorn.receives).trans hr, ?_⟩
    rw [show answersOf i effects = [] from htorn.answers i]
    exact .other (by simp [hl])

/-- A receive stream that was not made yet has no answers, and is new if it is made. -/
theorem step_unmade {c c' : Connection} {l : Label} {effects : List Effect} {i : Nat}
    (h : c.step? l = some (c', effects)) (hi : c.receives[i]? = none) :
    answersOf i effects = [] ∧
      ∀ r, c'.receives[i]? = some r → r.state = .idle ∧ r.Open := by
  have hnone {receives : List Receive} (hsame : receives = c.receives) :
      ∀ r, receives[i]? = some r → r.state = .idle ∧ r.Open := by
    intro r hr
    rw [hsame, hi] at hr
    cases hr
  cases step_kind h with
  | aside hl haside => exact ⟨haside.answers i, hnone haside.receives⟩
  | receive j r₀ r' answers hl hr₀ hstep hreceived =>
    have hji : i ≠ j := by
      intro hij
      rw [← hij, hi] at hr₀
      cases hr₀
    refine ⟨hreceived.silent i hji, ?_⟩
    intro r hr
    rw [hreceived.others i hji, hi] at hr
    cases hr
  | new cancelled hl hnew =>
    cases hnew
    refine ⟨rfl, ?_⟩
    intro r hr
    rw [List.getElem?_append_right (List.getElem?_eq_none_iff.1 hi)] at hr
    cases List.mem_singleton.1 (List.mem_of_getElem? hr)
    exact ⟨rfl, rfl, by simp⟩
  | dispose hl hdispose =>
    cases hdispose
    exact ⟨rfl, hnone c.dispose_receives⟩
  | torn hl htorn => exact ⟨htorn.answers i, hnone htorn.receives⟩

theorem run?_cons_eq_some {c c' : Connection} {l : Label} {rest : List Label}
    {effects : List Effect} :
    c.run? (l :: rest) = some (c', effects) ↔
      ∃ c₁ first others, c.step? l = some (c₁, first) ∧ c₁.run? rest = some (c', others) ∧
        effects = first ++ others := by
  simp only [run?, Option.bind_eq_bind, Option.bind_eq_some_iff, Option.pure_def,
    Option.some.injEq, Prod.mk.injEq, Prod.exists]
  constructor
  · rintro ⟨c₁, first, hstep, c₂, others, hrest, rfl, rfl⟩
    exact ⟨c₁, first, others, hstep, hrest, rfl⟩
  · rintro ⟨c₁, first, others, hstep, hrest, rfl⟩
    exact ⟨c₁, first, hstep, c', others, hrest, rfl, rfl⟩

/-! ### Streams that have ended -/

section gone

variable {c c' : Connection} {i : Nat} {r r' : Receive} {l : Label} {answers : List ReceiveAnswer}

/-- A stream that has given its error or is gone does not read any more, and all that it still has
    to give is its end. -/
theorem ReceiveStep.concluded_cases (h : ReceiveStep c i l r r' answers) (hr : r.Concluded) :
    (∀ answer, l ≠ .read i answer) ∧
    (answers = [] ∧ (r'.state = r.state ∧ r'.finished = r.finished ∨ r'.state = .dropped) ∨
      answers = [.ended] ∧ r.state = .idle ∧ r'.state = .exhausted) := by
  -- no pull is under way, and none can begin
  have hpull (h : r.state = .idle ∧ r.finished = false ∨ r.state = .waiting ∨
      r.state = .reading false) : False := by
    rcases hr with ⟨hfinished, hstate⟩ | hstate | hstate <;> simp [hstate] at h
    rw [hfinished] at h
    cases h
  have hread (h : r.state = .reading true) : False := by
    rcases hr with ⟨-, hstate⟩ | hstate | hstate <;> simp [hstate] at h
  cases h with
  | other hl => exact ⟨fun _ hread => hl (by rw [hread]; rfl), .inl ⟨rfl, .inl ⟨rfl, rfl⟩⟩⟩
  | cancelled | panics _ => exact ⟨by simp, .inl ⟨rfl, .inl ⟨rfl, rfl⟩⟩⟩
  | dropped => exact ⟨by simp, .inl ⟨rfl, .inr rfl⟩⟩
  | ended hstate _ => exact ⟨by simp, .inr ⟨rfl, hstate, rfl⟩⟩
  | interrupted hfinished hrests _ =>
    exact (hpull (hrests.imp_left fun hidle => ⟨hidle, hfinished hidle⟩)).elim
  | waits hstate _ | bereft hstate _ _ => exact (hpull (hstate.imp_right .inl)).elim
  | reads hstate _ => exact (hpull hstate).elim
  | blocked h | closed h => exact (hread h).elim
  | chunk h _ | failed h _ => exact (hread h).elim
  | retried h _ _ | stopped h _ _ => exact (hread h).elim

/-- A stream that has ended or was dropped stays so, answers nothing and reads nothing. -/
theorem ReceiveStep.gone (h : ReceiveStep c i l r r' answers) (hr : r.Gone) :
    r'.Gone ∧ (r'.state = .exhausted → r.state = .exhausted) ∧ answers = [] ∧
      ∀ answer, l ≠ .read i answer := by
  obtain ⟨hreads, ⟨hanswers, ⟨hstate, -⟩ | hdropped⟩ | ⟨-, hidle, -⟩⟩ := h.concluded_cases (.inr hr)
  · rw [Receive.Gone, hstate]
    exact ⟨hr, id, hanswers, hreads⟩
  · exact ⟨.inr hdropped, by simp [hdropped], hanswers, hreads⟩
  · rcases hr with hstate | hstate <;> simp [hstate] at hidle

/-- Whatever happens on the connection. -/
theorem run_of_gone {labels : List Label} {effects : List Effect} (hr : c.receives[i]? = some r)
    (hgone : r.Gone) (h : c.run? labels = some (c', effects)) :
    (∀ answer, .read i answer ∉ labels) ∧ answersOf i effects = [] := by
  induction labels generalizing c r effects with
  | nil =>
    cases h
    exact ⟨fun _ hmem => (by cases hmem), rfl⟩
  | cons l labels ih =>
    obtain ⟨c₁, first, others, hstep, hrest, rfl⟩ := run?_cons_eq_some.1 h
    obtain ⟨r', hr', hmove⟩ := step_receive hstep hr
    obtain ⟨hgone', -, hfirst, hread⟩ := hmove.gone hgone
    obtain ⟨hreads, hothers⟩ := ih hr' hgone' hrest
    constructor
    · intro answer hmem
      rcases List.mem_cons.1 hmem with hl | hmem
      · exact hread answer hl.symm
      · exact hreads answer hmem
    · rw [answersOf_append, hfirst, hothers, List.nil_append]

/-- The end is the last answer of a stream. -/
theorem ReceiveStep.gone_of_ended (h : ReceiveStep c i l r r' [.ended]) : r'.Gone := by
  have hconclude {answer : ReceiveAnswer} (hanswers : [Polled.ended] = [answer]) :
      (r.conclude answer).Gone := by
    cases hanswers
    exact .inl rfl
  generalize hanswers : [Polled.ended] = answers at h
  cases h with
  | ended _ _ => exact .inl rfl
  | interrupted _ _ _ | bereft _ _ _ | closed _ | stopped _ _ _ | failed _ _ =>
    exact hconclude hanswers
  | other _ | cancelled | dropped | panics _ | waits _ _ | reads _ _ | blocked _ | chunk _ _
  | retried _ _ _ => cases hanswers

/-- A stream that has given its error gives its end if it is polled, and does not read. -/
theorem ReceiveStep.concluded (h : ReceiveStep c i l r r' answers) (hr : r.Concluded) :
    r'.Concluded ∧
    (answers = [] ∧ (r'.state = .exhausted → r.state = .exhausted) ∨ answers = [.ended]) ∧
    ∀ answer, l ≠ .read i answer := by
  obtain ⟨hreads, ⟨hanswers, ⟨hstate, hfinished⟩ | hdropped⟩ | ⟨hanswers, -, hexhausted⟩⟩ :=
    h.concluded_cases hr
  · rw [Receive.Concluded, Receive.Gone, hstate, hfinished]
    exact ⟨hr, .inl ⟨hanswers, id⟩, hreads⟩
  · exact ⟨.inr (.inr hdropped), .inl ⟨hanswers, by simp [hdropped]⟩, hreads⟩
  · exact ⟨.inr (.inl hexhausted), .inr hanswers, hreads⟩

/-- Whatever happens on the connection, it gives its end once at most. -/
theorem run_of_concluded {labels : List Label} {effects : List Effect}
    (hr : c.receives[i]? = some r) (hconcluded : r.Concluded)
    (h : c.run? labels = some (c', effects)) :
    (∀ answer, .read i answer ∉ labels) ∧
      ∃ n ≤ 1, answersOf i effects = List.replicate n .ended := by
  induction labels generalizing c r effects with
  | nil =>
    cases h
    exact ⟨fun _ hmem => (by cases hmem), 0, Nat.zero_le 1, rfl⟩
  | cons l labels ih =>
    obtain ⟨c₁, first, others, hstep, hrest, rfl⟩ := run?_cons_eq_some.1 h
    obtain ⟨r', hr', hmove⟩ := step_receive hstep hr
    obtain ⟨hconcluded', hanswers, hread⟩ := hmove.concluded hconcluded
    obtain ⟨hreads, n, hle, hn⟩ := ih hr' hconcluded' hrest
    constructor
    · intro answer hmem
      rcases List.mem_cons.1 hmem with hl | hmem
      · exact hread answer hl.symm
      · exact hreads answer hmem
    · rw [answersOf_append]
      rcases hanswers with ⟨hnil, -⟩ | hended
      · exact ⟨n, hle, by rw [hnil, hn, List.nil_append]⟩
      · rw [hended] at hmove ⊢
        exact ⟨1, Nat.le_refl 1, by rw [(run_of_gone hr' hmove.gone_of_ended hrest).2]; rfl⟩

end gone

end Connection

end Duplex
