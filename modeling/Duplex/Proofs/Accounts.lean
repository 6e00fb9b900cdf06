import Duplex.Connection.Teardown

/-! # What a teardown can meet

  A teardown finds the connection up or down, and then meets what comes from outside: the answer to
  closing its direction, the answers to its reads, and its deadline (`Act`). `Account` is the table
  of what it can meet, with reads of any number, and of the outcome that each course has. How far a
  teardown has come says which part of the table it has met so far (`Stage`), and each of its moves
  (`Next`) takes it on in the table.
-/

namespace Duplex

/-- A teardown reads on after this answer. -/
def ReadAnswer.goesOn : ReadAnswer → Bool
  | .chunk _ | .blocked => true
  | .closed => false
  | .failed e => e.kind = .interrupted

namespace Connection

/-- What a teardown meets. -/
inductive Act where
  /-- It has closed its direction, with this answer. -/
  | halfClosed (answer : Except IoError Unit)
  /-- It has read, with this answer. -/
  | read (answer : ReadAnswer)
  /-- Its time is up. -/
  | expired
  /-- It has closed both directions, with this answer. -/
  | forced (answer : Except IoError Unit)

/-- The outcome that a teardown aims at once it has closed its direction. -/
def aim : Except IoError Unit → DisposeOutcome
  | .ok () => .graceful
  | .error _ => .forced

theorem lower_aim (answer : Except IoError Unit) : lower (aim answer) = .forced := by
  cases answer <;> rfl

theorem aim_ne_notConnected (answer : Except IoError Unit) : aim answer ≠ .notConnected := by
  cases answer <;> simp [aim]

theorem aim_eq_graceful_iff (answer : Except IoError Unit) :
    aim answer = .graceful ↔ answer = .ok () := by
  cases answer <;> simp [aim]

/-- `Account wasConnected acts outcome`: a teardown that finds the connection up, or down, may meet
    this, and returns this outcome then. -/
inductive Account : Bool → List Act → DisposeOutcome → Prop where
  /-- The connection was down, and the reading half was free in time. -/
  | down : Account false [] .notConnected
  /-- The connection was down, and somebody has kept the reading half. -/
  | downHeld (forced : Except IoError Unit) :
      Account false [.expired, .forced forced] .notConnected
  /-- The peer has closed. -/
  | closed (answer : Except IoError Unit) (reads : List ReadAnswer)
      (hreads : ∀ r ∈ reads, r.goesOn = true) :
      Account true (.halfClosed answer :: (reads.map .read ++ [.read .closed])) (aim answer)
  /-- A read has failed. -/
  | failed (answer : Except IoError Unit) (reads : List ReadAnswer) (e : IoError)
      (hreads : ∀ r ∈ reads, r.goesOn = true) (he : e.kind ≠ .interrupted) :
      Account true (.halfClosed answer :: (reads.map .read ++ [.read (.failed e)])) .forced
  /-- The time was up, before the teardown had the reading half or while it was reading. -/
  | expired (answer forced : Except IoError Unit) (reads : List ReadAnswer)
      (hreads : ∀ r ∈ reads, r.goesOn = true) :
      Account true (.halfClosed answer :: (reads.map .read ++ [.expired, .forced forced])) .forced

namespace Account

variable {wasConnected : Bool} {acts : List Act} {outcome : DisposeOutcome}

theorem closed_notMem {reads : List ReadAnswer} (hreads : ∀ r ∈ reads, r.goesOn = true) :
    ReadAnswer.closed ∉ reads := fun h => by cases hreads _ h

/-- The outcome is graceful where the half-close has succeeded and the peer's close was read. -/
theorem graceful_iff (h : Account wasConnected acts outcome) : outcome = .graceful ↔
    wasConnected = true ∧ .halfClosed (.ok ()) ∈ acts ∧ .read .closed ∈ acts := by
  cases h with
  | down | downHeld => simp
  | closed answer reads hreads => simp [aim_eq_graceful_iff, @eq_comm _ (Except.ok ())]
  | failed answer reads e hreads he => simp [closed_notMem hreads]
  | expired answer forced reads hreads => simp [closed_notMem hreads]

theorem notConnected_iff (h : Account wasConnected acts outcome) :
    outcome = .notConnected ↔ wasConnected = false := by
  cases h with
  | closed answer => simp [aim_ne_notConnected]
  | down | downHeld | failed | expired => simp

theorem ne_aborted (h : Account wasConnected acts outcome) : outcome ≠ .aborted := by
  cases h with
  | closed answer => cases answer <;> simp [aim]
  | down | downHeld | failed | expired => simp

/-- In all other cases it is forced. -/
theorem forced_iff (h : Account wasConnected acts outcome) : outcome = .forced ↔
    wasConnected = true ∧ ¬(.halfClosed (.ok ()) ∈ acts ∧ .read .closed ∈ acts) := by
  have hgraceful := h.graceful_iff
  have hnotConnected := h.notConnected_iff
  have hnotAborted := h.ne_aborted
  cases outcome with
  | graceful => simp [(hgraceful.1 rfl).2]
  | notConnected => simp [hnotConnected.1 rfl]
  | aborted => exact absurd rfl hnotAborted
  | forced =>
    have hwas : wasConnected = true := by
      cases wasConnected with
      | true => rfl
      | false => cases hnotConnected.2 rfl
    exact iff_of_true rfl ⟨hwas, fun hmet => by cases hgraceful.2 ⟨hwas, hmet⟩⟩

/-- A connection that was down is neither closed nor read. -/
theorem untouched (h : Account false acts outcome) {act : Act} (hact : act ∈ acts) :
    act = .expired ∨ ∃ answer, act = .forced answer := by
  cases h with
  | down => cases hact
  | downHeld forced =>
    rcases List.mem_cons.1 hact with rfl | hact
    · exact .inl rfl
    · exact .inr ⟨forced, List.mem_singleton.1 hact⟩

/-- When the time is up both directions are closed, and the peer's close was not read. -/
theorem shut (h : Account wasConnected acts outcome) (hexpired : .expired ∈ acts) :
    (∃ answer, .forced answer ∈ acts) ∧ .read .closed ∉ acts := by
  cases h with
  | down => cases hexpired
  | downHeld forced => exact ⟨⟨forced, by simp⟩, by simp⟩
  | closed => simp at hexpired
  | failed => simp at hexpired
  | expired answer forced reads hreads =>
    exact ⟨⟨forced, by simp⟩, by simp [closed_notMem hreads]⟩

end Account

/-! ### One move after the other -/

/-- What a teardown that is about to have the reading half has met, and what it aims at. -/
inductive Begun : Bool → List Act → DisposeOutcome → Prop where
  | down : Begun false [] .notConnected
  | up (answer : Except IoError Unit) : Begun true [.halfClosed answer] (aim answer)

/-- What a teardown that reads has met, and what it aims at. -/
inductive Reading : Bool → List Act → DisposeOutcome → Prop where
  | reads (answer : Except IoError Unit) (reads : List ReadAnswer)
      (hreads : ∀ r ∈ reads, r.goesOn = true) :
      Reading true (.halfClosed answer :: reads.map .read) (aim answer)

end Connection

namespace TeardownState

open Connection

/-- What a teardown that has come this far has met. -/
def Stage (wasConnected : Bool) (acts : List Act) : TeardownState → Prop
  | .absent | .requested => False
  | .awaitingWriter was => was = wasConnected ∧ acts = []
  | .halfClosing => wasConnected = true ∧ acts = []
  | .awaitingReader was outcome _ => was = wasConnected ∧ Begun wasConnected acts outcome
  | .draining outcome _ => Reading wasConnected acts outcome
  | .forcing outcome => ∃ before, acts = before ++ [.expired] ∧
      (Begun wasConnected before outcome ∨ Reading wasConnected before outcome)
  | .releasing outcome | .closing outcome => Account wasConnected acts outcome
  | .finished => ∃ outcome, Account wasConnected acts outcome

/-- What one move of a teardown makes of how far it has come, and what it meets with it. Both halves
    are where the teardown looks for them. -/
inductive Next : TeardownState → Option Act → TeardownState → Prop where
  | takes : Next (.awaitingWriter true) none .halfClosing
  | takesDown (deadline : Nat) :
      Next (.awaitingWriter false) none (.awaitingReader false .notConnected deadline)
  | halfCloses (answer : Except IoError Unit) (deadline : Nat) :
      Next .halfClosing (some (.halfClosed answer)) (.awaitingReader true (aim answer) deadline)
  | takesReader (outcome : DisposeOutcome) (deadline : Nat) :
      Next (.awaitingReader true outcome deadline) none (.draining outcome deadline)
  | skipsReader (outcome : DisposeOutcome) (deadline : Nat) :
      Next (.awaitingReader false outcome deadline) none (.releasing outcome)
  | drains (answer : ReadAnswer) (outcome : DisposeOutcome) (deadline : Nat)
      (hgoes : answer.goesOn = true) :
      Next (.draining outcome deadline) (some (.read answer)) (.draining outcome deadline)
  | closed (outcome : DisposeOutcome) (deadline : Nat) :
      Next (.draining outcome deadline) (some (.read .closed)) (.releasing outcome)
  | failed (e : IoError) (outcome : DisposeOutcome) (deadline : Nat) (he : e.kind ≠ .interrupted) :
      Next (.draining outcome deadline) (some (.read (.failed e)))
        (.releasing (lower outcome))
  | expiresAwaiting (was : Bool) (outcome : DisposeOutcome) (deadline : Nat) :
      Next (.awaitingReader was outcome deadline) (some .expired) (.forcing outcome)
  | expiresDraining (outcome : DisposeOutcome) (deadline : Nat) :
      Next (.draining outcome deadline) (some .expired) (.forcing outcome)
  | forces (answer : Except IoError Unit) (outcome : DisposeOutcome) :
      Next (.forcing outcome) (some (.forced answer)) (.releasing (lower outcome))
  | releases (outcome : DisposeOutcome) : Next (.releasing outcome) none (.closing outcome)
  | publishes (outcome : DisposeOutcome) : Next (.closing outcome) none .finished

/-- Each move leads to the next stage. -/
theorem Stage.next {wasConnected : Bool} {acts : List Act} {act : Option Act} {s s' : TeardownState}
    (h : s.Stage wasConnected acts) (hnext : Next s act s') :
    s'.Stage wasConnected (acts ++ act.toList) := by
  cases hnext with
  | takes =>
    obtain ⟨rfl, rfl⟩ := h
    exact ⟨rfl, rfl⟩
  | takesDown deadline =>
    obtain ⟨rfl, rfl⟩ := h
    exact ⟨rfl, .down⟩
  | halfCloses answer deadline =>
    obtain ⟨rfl, rfl⟩ := h
    exact ⟨rfl, .up answer⟩
  | takesReader outcome deadline =>
    obtain ⟨rfl, hbegun⟩ := h
    rw [Option.toList_none, List.append_nil]
    cases hbegun with
    | up answer => exact .reads answer [] (by simp)
  | skipsReader outcome deadline =>
    obtain ⟨rfl, hbegun⟩ := h
    cases hbegun with
    | down => exact .down
  | drains answer outcome deadline hgoes =>
    -- one more read, after which it reads on
    cases h with
    | reads first reads hreads =>
      have hreads' : ∀ r ∈ reads ++ [answer], r.goesOn = true := by
        simpa [or_imp, forall_and] using And.intro hreads hgoes
      rw [Stage]
      simpa using Reading.reads first (reads ++ [answer]) hreads'
  | closed outcome deadline =>
    cases h with
    | reads answer reads hreads => exact .closed answer reads hreads
  | failed e outcome deadline he =>
    cases h with
    | reads answer reads hreads =>
      rw [Stage, lower_aim]
      exact .failed answer reads e hreads he
  | expiresAwaiting was outcome deadline => exact ⟨acts, rfl, .inl h.2⟩
  | expiresDraining outcome deadline => exact ⟨acts, rfl, .inr h⟩
  | forces answer outcome =>
    -- the time was up before the first read or after some
    obtain ⟨before, rfl, hbegun | hreading⟩ := h
    · cases hbegun with
      | down => exact .downHeld answer
      | up first =>
        rw [Stage, lower_aim]
        exact .expired first answer [] (by simp)
    · cases hreading with
      | reads first reads hreads =>
        rw [Stage, lower_aim]
        simpa using Account.expired first answer reads hreads
  | releases outcome => simpa [Stage] using h
  | publishes outcome => exact ⟨outcome, by simpa [Stage] using h⟩

end TeardownState

end Duplex
