import Duplex.Proofs.Queueing
import Duplex.Proofs.Receiving

/-! # What a send does to its connection

  A send moves when it is polled, when the socket answers its write, and when it is dropped.
  `SendStep` lists these moves: in each the send comes to some state, the writing half passes to
  some lock, some octets go to the socket, and perhaps the send returns. `step_send` says that
  there are no others, and that such a move touches nothing else.
-/

namespace Duplex

/-- What a send returns. -/
abbrev SendResult := Except ConnectionError Nat

/-- The send waits for the writing half or holds it. -/
def SendState.engaged : SendState → Bool
  | .waiting | .writing _ _ => true
  | .created | .returned _ | .dropped => false

/-- What a send returns because a side has fired. -/
def refusal : CancelSource → SendResult
  | .disposal => .error .disposed
  | .external => .error (.cancelled Operation.write.name)

namespace Connection

/-- The send that a label is about. -/
def Label.send? : Label → Option Nat
  | .pollSend i | .write i _ | .dropSend i | .cancelSend i => some i
  | .send .. | .receive _ | .pollReceive _ | .read .. | .dropReceive _ | .cancelReceive _
  | .dispose | .teardown _ | .halfClose .. | .drain _ | .expire _ | .force _ | .abort => none

/-! ### What goes out -/

/-- The octets that an effect hands to the socket. -/
def Effect.octets : Effect → Bytes
  | .wrote bytes => bytes
  | .sent .. | .answered .. | .panicked _ | .writerDropped | .readerDropped | .recorded _ => []

/-- The octets that some effects hand to the socket. -/
def written (effects : List Effect) : Bytes := effects.flatMap Effect.octets

/-- What a send returns in an effect. -/
def Effect.result? : Effect → Option (Nat × SendResult)
  | .sent i result => some (i, result)
  | .wrote _ | .answered .. | .panicked _ | .writerDropped | .readerDropped | .recorded _ => none

/-- What sends return in some effects. -/
def results (effects : List Effect) : List (Nat × SendResult) := effects.filterMap Effect.result?

theorem written_append (effects more : List Effect) :
    written (effects ++ more) = written effects ++ written more := List.flatMap_append

theorem results_append (effects more : List Effect) :
    results (effects ++ more) = results effects ++ results more := List.filterMap_append

theorem mem_results {effects : List Effect} {i : Nat} {result : SendResult} :
    (i, result) ∈ results effects ↔ .sent i result ∈ effects := by
  have hsent (effect : Effect) :
      effect.result? = some (i, result) ↔ effect = .sent i result := by
    cases effect <;> simp [Effect.result?]
  simp [results, List.mem_filterMap, hsent]

/-- Some effects neither hand octets to the socket nor let a send return. -/
def Quiet (effects : List Effect) : Prop := written effects = [] ∧ results effects = []

theorem quiet_nil : Quiet [] := ⟨rfl, rfl⟩

theorem Quiet.append {effects more : List Effect} (h : Quiet effects) (hmore : Quiet more) :
    Quiet (effects ++ more) :=
  ⟨by rw [written_append, h.1, hmore.1]; rfl, by rw [results_append, h.2, hmore.2]; rfl⟩

theorem quiet_recorded (records : List LogRecord) : Quiet (records.map .recorded) := by
  induction records with
  | nil => exact quiet_nil
  | cons record records ih => exact ih

/-! ### Moves of a send -/

/-- Send `i`, which is `s`, asks for the writing half in its first poll or still waits for it, and
    the lock is this one then. -/
structure Asks (c : Connection) (i : Nat) (s : Send) (lock : Lock Actor) : Prop where
  fired : c.fired s.cancelled = none
  asks : (s.state = .created ∧ c.isDisposed = false ∧ s.bytes ≠ [] ∧
      lock = c.writer.request (.send i)) ∨
    (s.state = .waiting ∧ lock = c.writer)

/-- `SendStep c i s l state lock octets result`: with this label send `i` of `c`, which is `s`,
    comes to `state`, the lock on the writing half becomes `lock`, these octets go to the socket,
    and the send may return. -/
inductive SendStep (c : Connection) (i : Nat) (s : Send) :
    Label → SendState → Lock Actor → Bytes → Option SendResult → Prop where
  /-- Disposal was asked for before its first poll. -/
  | refused (hstate : s.state = .created) (hdisposed : c.isDisposed = true) :
      SendStep c i s (.pollSend i) (.returned (.error .disposed)) (c.writer.release (.send i)) []
        (some (.error .disposed))
  /-- There is nothing to send. -/
  | empty (hstate : s.state = .created) (hlive : c.isDisposed = false) (hempty : s.bytes = []) :
      SendStep c i s (.pollSend i) (.returned (.ok 0)) (c.writer.release (.send i)) []
        (some (.ok 0))
  /-- A side has fired before the poll. -/
  | interrupted {source : CancelSource}
      (hrests : (s.state = .created ∧ c.isDisposed = false ∧ s.bytes ≠ []) ∨
        s.state = .waiting ∨ ∃ rest, s.state = .writing rest false)
      (hfired : c.fired s.cancelled = some source) :
      SendStep c i s (.pollSend i) (.returned (refusal source)) (c.writer.release (.send i)) []
        (some (refusal source))
  /-- Somebody else holds the writing half. -/
  | waits {lock : Lock Actor} (hasks : c.Asks i s lock) (hheld : lock.holder ≠ some (.send i)) :
      SendStep c i s (.pollSend i) .waiting lock [] none
  | begins {lock : Lock Actor} (hasks : c.Asks i s lock) (hheld : lock.holder = some (.send i))
      (hhalf : c.writeHalf = true) :
      SendStep c i s (.pollSend i) (.writing s.bytes true) lock [] none
  /-- The teardown has taken the writing half away. -/
  | bereft {lock : Lock Actor} (hasks : c.Asks i s lock) (hhalf : c.writeHalf = false) :
      SendStep c i s (.pollSend i) (.returned (.error .disposed)) (lock.release (.send i)) []
        (some (.error .disposed))
  | resumed {rest : Bytes} (hstate : s.state = .writing rest false)
      (hfired : c.fired s.cancelled = none) :
      SendStep c i s (.pollSend i) (.writing rest true) c.writer [] none
  | paused {rest : Bytes} (hstate : s.state = .writing rest true) :
      SendStep c i s (.write i .blocked) (.writing rest false) c.writer [] none
  /-- The socket takes a part of what is left. -/
  | progressed {rest : Bytes} {n : Nat} (hstate : s.state = .writing rest true) (hpos : 0 < n)
      (hlt : n < rest.length) :
      SendStep c i s (.write i (.accepted n)) (.writing (rest.drop n) true) c.writer (rest.take n)
        none
  /-- The socket takes all that is left. -/
  | completed {rest : Bytes} (hstate : s.state = .writing rest true) (hne : rest ≠ []) :
      SendStep c i s (.write i (.accepted rest.length)) (.returned (.ok s.bytes.length))
        (c.writer.release (.send i)) rest (some (.ok s.bytes.length))
  | failed {rest : Bytes} {e : IoError} (hstate : s.state = .writing rest true) :
      SendStep c i s (.write i (.failed e))
        (.returned (.error (.ofIo Operation.write.name e))) (c.writer.release (.send i)) []
        (some (.error (.ofIo Operation.write.name e)))
  | dropped (hreturned : ∀ result, s.state ≠ .returned result) (hdropped : s.state ≠ .dropped) :
      SendStep c i s (.dropSend i) .dropped (c.writer.release (.send i)) [] none

/-- The connection after a step in which send `i` has come to `state`, the lock on the writing half
    has become `lock`, these octets were written and the send may have returned. Nothing else has
    changed, but that the connection may be down. -/
structure Sent (c : Connection) (i : Nat) (state : SendState) (lock : Lock Actor) (octets : Bytes)
    (result : Option SendResult) (stepped : Stepped) : Prop where
  connection : ∃ connected, (connected = true → c.connected = true) ∧
    stepped.1 = { c with
      sends := c.sends.modify i fun s => { s with state }
      writer := lock
      connected }
  written : written stepped.2 = octets
  results : results stepped.2 = (result.map (i, ·)).toList

/-- The step is a move of send `i`, which is `s`. -/
def Moves (c : Connection) (i : Nat) (s : Send) (l : Label) (stepped : Stepped) : Prop :=
  ∃ state lock octets result,
    SendStep c i s l state lock octets result ∧ c.Sent i state lock octets result stepped

section moves

variable {c : Connection} {i : Nat} {s : Send}

theorem sent_setSend (c : Connection) (i : Nat) (state : SendState) (lock : Lock Actor) :
    c.Sent i state lock [] none ({ c with writer := lock }.setSend i state, []) :=
  ⟨⟨c.connected, id, rfl⟩, rfl, rfl⟩

theorem sent_returnSend (c : Connection) (i : Nat) (lock : Lock Actor) (result : SendResult) :
    c.Sent i (.returned result) (lock.release (.send i)) [] (some result)
      ({ c with writer := lock }.returnSend i result) :=
  ⟨⟨c.connected, id, rfl⟩, rfl, rfl⟩

theorem moves_interruptSend
    (hrests : (s.state = .created ∧ c.isDisposed = false ∧ s.bytes ≠ []) ∨
      s.state = .waiting ∨ ∃ rest, s.state = .writing rest false)
    {source : CancelSource} (hfired : c.fired s.cancelled = some source) :
    c.Moves i s (.pollSend i) (c.interruptSend i source) := by
  refine ⟨_, _, _, _, .interrupted hrests hfired, ?_⟩
  cases source <;> exact c.sent_returnSend i c.writer _

theorem moves_enterWriter (lock : Lock Actor) (hasks : c.Asks i s lock) :
    c.Moves i s (.pollSend i) ({ c with writer := lock }.enterWriter i s.bytes) := by
  unfold enterWriter
  split
  · next hheld =>
    have hheld : lock.holder ≠ some (.send i) := by simpa [Lock.heldBy] using hheld
    exact ⟨_, _, _, _, .waits hasks hheld, c.sent_setSend i .waiting lock⟩
  · next hheld =>
    have hheld : lock.holder = some (.send i) := by simpa [Lock.heldBy] using hheld
    split
    · next hhalf =>
      exact ⟨_, _, _, _, .begins hasks hheld hhalf, c.sent_setSend i (.writing s.bytes true) lock⟩
    · next hhalf =>
      have hhalf : c.writeHalf = false := by simpa using hhalf
      exact ⟨_, _, _, _, .bereft hasks hhalf, c.sent_returnSend i lock _⟩

theorem moves_pollSend {stepped : Stepped} (h : c.pollSend i s = some stepped) :
    c.Moves i s (.pollSend i) stepped := by
  unfold pollSend at h
  split at h
  · next hstate =>
    split at h
    · next hdisposed =>
      cases h
      exact ⟨_, _, _, _, .refused hstate hdisposed, c.sent_returnSend i c.writer _⟩
    · next hlive =>
      have hlive : c.isDisposed = false := by simpa using hlive
      split at h
      · next hempty =>
        cases h
        exact ⟨_, _, _, _, .empty hstate hlive (List.isEmpty_iff.1 hempty),
          c.sent_returnSend i c.writer _⟩
      · next hne =>
        have hne : s.bytes ≠ [] := mt List.isEmpty_iff.2 hne
        split at h
        · next source hfired =>
          cases h
          exact moves_interruptSend (.inl ⟨hstate, hlive, hne⟩) hfired
        · next hfired =>
          cases h
          exact moves_enterWriter _ ⟨hfired, .inl ⟨hstate, hlive, hne, rfl⟩⟩
  · next hstate =>
    split at h
    · next source hfired =>
      cases h
      exact moves_interruptSend (.inr (.inl hstate)) hfired
    · next hfired =>
      cases h
      exact moves_enterWriter c.writer ⟨hfired, .inr ⟨hstate, rfl⟩⟩
  · next rest hstate =>
    split at h
    · next source hfired =>
      cases h
      exact moves_interruptSend (.inr (.inr ⟨rest, hstate⟩)) hfired
    · next hfired =>
      cases h
      exact ⟨_, _, _, _, .resumed hstate hfired, c.sent_setSend i (.writing rest true) c.writer⟩
  all_goals cases h

theorem moves_write {answer : WriteAnswer} {stepped : Stepped}
    (h : c.write i s answer = some stepped) : c.Moves i s (.write i answer) stepped := by
  unfold write at h
  split at h
  · next rest hstate =>
    cases h
    exact ⟨_, _, _, _, .paused hstate, c.sent_setSend i (.writing rest false) c.writer⟩
  · next rest n hstate =>
    split at h
    · cases h
    · next hn =>
      obtain ⟨hpos, hle⟩ : n ≠ 0 ∧ ¬rest.length < n := not_or.1 hn
      split at h
      · next hall =>
        -- nothing is left
        cases h
        subst hall
        have hne : rest ≠ [] := fun hnil => hpos (by rw [hnil]; rfl)
        refine ⟨_, _, _, _, .completed hstate hne, ⟨c.connected, id, rfl⟩, ?_, rfl⟩
        exact List.append_nil rest
      · next hpart =>
        cases h
        refine ⟨_, _, _, _, .progressed hstate (by omega) (by omega), ⟨c.connected, id, rfl⟩, ?_,
          rfl⟩
        exact List.append_nil _
  · next rest e hstate =>
    cases h
    exact ⟨_, _, _, _, .failed hstate, ⟨false, by simp, rfl⟩, rfl, rfl⟩
  · cases h

theorem moves_dropSend {stepped : Stepped} (h : c.dropSend i s = some stepped) :
    c.Moves i s (.dropSend i) stepped := by
  unfold dropSend at h
  split at h
  · cases h
  · cases h
  · next hreturned hdropped =>
    cases h
    exact ⟨_, _, _, _, .dropped hreturned hdropped, c.sent_setSend i .dropped _⟩

end moves

theorem step_pollSend {c : Connection} {i : Nat} {s : Send} (hs : c.sends[i]? = some s) :
    c.step? (.pollSend i) = c.pollSend i s := by
  show (c.sends[i]?).bind (c.pollSend i) = _
  rw [hs]
  rfl

/-- What a step with the label of a send is. -/
theorem step_send {c : Connection} {l : Label} {i : Nat} {stepped : Stepped}
    (hl : l.send? = some i) (h : c.step? l = some stepped) :
    (∃ s, c.sends[i]? = some s ∧ c.Moves i s l stepped) ∨
    (l = .cancelSend i ∧ stepped =
      ({ c with sends := c.sends.modify i fun s => { s with cancelled := true } }, [])) := by
  cases l with
  | pollSend j =>
    cases hl
    obtain ⟨s, hs, hpoll⟩ := Option.bind_eq_some_iff.1 h
    exact .inl ⟨s, hs, moves_pollSend hpoll⟩
  | write j answer =>
    cases hl
    obtain ⟨s, hs, hwrite⟩ := Option.bind_eq_some_iff.1 h
    exact .inl ⟨s, hs, moves_write hwrite⟩
  | dropSend j =>
    cases hl
    obtain ⟨s, hs, hdrop⟩ := Option.bind_eq_some_iff.1 h
    exact .inl ⟨s, hs, moves_dropSend hdrop⟩
  | cancelSend j =>
    cases hl
    cases h
    exact .inr ⟨rfl, rfl⟩
  | send _ _ | receive _ | pollReceive _ | read _ _ | dropReceive _ | cancelReceive _ | dispose
  | teardown _ | halfClose _ _ | drain _ | expire _ | force _ | abort => cases hl

end Connection

end Duplex
