import Duplex.Proofs.Deadlines
import Duplex.Socket.Connect

/-! # How a call that connects ends

  A call refuses endpoints that stand for no peer, before it looks at the token or the timeout. Any
  other call answers as its attempt does under the deadline (`Mirrors`), so that the law of
  deadlines is that of calls.
-/

namespace Duplex

variable {α : Type}

/-! ### Endpoints -/

/-- No connection can be made to the endpoint: it has no address or no port. -/
def Endpoint.Unreachable (e : Endpoint) : Prop := e.address.isUnspecified = true ∨ e.port = 0

namespace Connecting

variable {e : Endpoint} {timeout : Option Duration}

theorem begin_of_unreachable (h : e.Unreachable) (timeout : Option Duration) :
    ∃ reason, begin e timeout = .error (.invalidArgument reason) := by
  by_cases haddress : e.address.isUnspecified = true
  · exact ⟨_, by rw [begin, Endpoint.validateRemote, if_pos haddress]; rfl⟩
  · exact ⟨_, by
      rw [begin, Endpoint.validateRemote, if_neg haddress, if_pos (h.resolve_left haddress)]; rfl⟩

theorem begin_of_reachable (h : ¬e.Unreachable) (timeout : Option Duration) :
    begin e timeout = .ok (start e.text timeout) := by
  obtain ⟨haddress, hport⟩ := not_or.1 h
  rw [begin, Endpoint.validateRemote, if_neg haddress, if_neg hport]
  rfl

end Connecting

namespace ConnectCall

open Deadline (Event Answer InTurn TimeUp Elapsed Served GoesByMillis isCancelled isPolled clock
  since result)

/-- A call after the events. -/
def after (e : Endpoint) (timer : Timer) (timeout : Option Duration) (past : List (Event α)) :
    Run α :=
  afterEvents (fun r event => (r.step event).2) { timer, call := { endpoint := e, timeout } } past

/-- A call whose attempt was started and has come as far as this. -/
def started (e : Endpoint) (timeout : Option Duration) (d : Deadline) : ConnectCall :=
  { endpoint := e, timeout, state := .underWay ⟨e.text, d⟩ }

/-- What a poll is told. -/
def Run.answer (r : Run α) : Answer α := (r.call.poll r.timer r.cancelled r.now r.attempt).1

section

variable (timer : Timer) (cancelled : Bool) (now : Nat) (attempt : Option (Except IoError α))

theorem poll_of_refused (e : Endpoint) (timeout : Option Duration) :
    ({ endpoint := e, timeout, state := .refused } : ConnectCall).poll timer cancelled now attempt =
      (.done, { endpoint := e, timeout, state := .refused }, []) := by
  simp only [poll]

/-- A later poll of a call whose endpoint was accepted is one of its attempt. -/
theorem poll_of_underWay (e : Endpoint) (timeout : Option Duration) (d : Deadline) : ∃ records,
    (started e timeout d).poll timer cancelled now attempt =
      ((d.poll timer cancelled now attempt).1,
        started e timeout (d.poll timer cancelled now attempt).2, records) := by
  simp only [started, poll, pollAttempt, Connecting.poll]
  exact ⟨_, rfl⟩

/-- The first poll of a call whose endpoint is refused. -/
theorem poll_of_unreachable {e : Endpoint} (h : e.Unreachable) (timeout : Option Duration) :
    ∃ reason, ({ endpoint := e, timeout } : ConnectCall).poll timer cancelled now attempt =
      (.ended (.error (.invalidArgument reason)), { endpoint := e, timeout, state := .refused },
        []) := by
  obtain ⟨reason, hbegin⟩ := Connecting.begin_of_unreachable h timeout
  exact ⟨reason, by simp only [poll, hbegin]⟩

/-- The first poll of a call whose endpoint is accepted is the first poll of its attempt. -/
theorem poll_of_reachable {e : Endpoint} (h : ¬e.Unreachable) {timeout : Option Duration}
    {d : Deadline} (hd : d = { operation := Operation.connect.name, timeout }) : ∃ records,
      ({ endpoint := e, timeout } : ConnectCall).poll timer cancelled now attempt =
        ((d.poll timer cancelled now attempt).1,
          started e timeout (d.poll timer cancelled now attempt).2, records) := by
  simp only [started, poll, Connecting.begin_of_reachable h timeout, Connecting.start, ← hd,
    pollAttempt, Connecting.poll]
  exact ⟨_, rfl⟩

end

/-- All events but polls leave the call as it is. -/
theorem Run.step_eq {event : Event α} (h : event.isPoll = false) (r : Run α) :
    (r.step event).2 = { r with toSurroundings := (r.toSurroundings.step event).2 } := by
  cases event with
  | poll => cases h
  | cancel | advance | complete => rfl

/-! ### Endpoints that are refused -/

/-- The first poll refuses the endpoint, and the call is over then. -/
theorem call_after_of_unreachable {e : Endpoint} (h : e.Unreachable) (timer : Timer)
    (timeout : Option Duration) (past : List (Event α)) : (after e timer timeout past).call =
      { endpoint := e, timeout, state := if isPolled past then .refused else .idle } := by
  induction past using List.reverseRecOn with
  | nil => rfl
  | append_singleton past event ih =>
    rw [after, afterEvents_concat, ← after, Deadline.isPolled_append]
    generalize after e timer timeout past = r at ih ⊢
    cases hevent : event.isPoll with
    | false => simp [Run.step_eq hevent, ih, isPolled, hevent]
    | true =>
      obtain rfl := Deadline.eq_poll hevent
      have hstep : (r.step .poll).2.call =
          (r.call.poll r.timer r.cancelled r.now r.attempt).2.1 := rfl
      rw [hstep, ih]
      cases hpolled : isPolled past with
      | true => simp [poll_of_refused]
      | false =>
        obtain ⟨reason, hpoll⟩ := poll_of_unreachable r.timer r.cancelled r.now r.attempt h timeout
        simp [hpoll, isPolled, Event.isPoll]

/-! ### Endpoints that are accepted -/

/-- The call has come as far as an attempt under the deadline. -/
structure Mirrors (e : Endpoint) (timeout : Option Duration) (r : Run α) (d : Deadline.Run α) :
    Prop where
  around : r.toSurroundings = d.toSurroundings
  /-- Neither was polled, or the attempt of the call is this one. -/
  call : r.call = { endpoint := e, timeout } ∧
      d.deadline = { operation := Operation.connect.name, timeout } ∨
    r.call = started e timeout d.deadline

namespace Mirrors

variable {e : Endpoint} {timeout : Option Duration} {r : Run α} {d : Deadline.Run α}

/-- Whether it is the first poll or a later one, it is one of the attempt. -/
theorem poll_call (h : Mirrors e timeout r d) (he : ¬e.Unreachable) : ∃ records,
    r.call.poll r.timer r.cancelled r.now r.attempt = (d.answer,
      started e timeout (d.deadline.poll d.timer d.cancelled d.now d.attempt).2, records) := by
  rw [h.around, Deadline.Run.answer]
  obtain ⟨-, ⟨hcall, hdeadline⟩ | hcall⟩ := h
  · rw [hcall]
    exact poll_of_reachable d.timer d.cancelled d.now d.attempt he hdeadline
  · rw [hcall]
    exact poll_of_underWay d.timer d.cancelled d.now d.attempt e timeout d.deadline

theorem answer (h : Mirrors e timeout r d) (he : ¬e.Unreachable) : r.answer = d.answer := by
  obtain ⟨records, hpoll⟩ := h.poll_call he
  rw [Run.answer, hpoll]

theorem step (h : Mirrors e timeout r d) (he : ¬e.Unreachable) (event : Event α) :
    Mirrors e timeout (r.step event).2 (d.step event).2 := by
  cases hevent : event.isPoll with
  | false =>
    rw [Run.step_eq hevent, Deadline.Run.step_eq hevent, h.around]
    exact ⟨rfl, h.call⟩
  | true =>
    obtain rfl := Deadline.eq_poll hevent
    obtain ⟨records, hpoll⟩ := h.poll_call he
    refine ⟨h.around, .inr ?_⟩
    simp only [Run.step, hpoll, Deadline.Run.step]

theorem attempted (h : Mirrors e timeout r d) : r.call.attempted = d.deadline.attempted := by
  obtain ⟨-, ⟨hcall, hdeadline⟩ | hcall⟩ := h
  · rw [hcall, hdeadline]
    rfl
  · rw [hcall]
    rfl

end Mirrors

theorem mirrors_after {e : Endpoint} (he : ¬e.Unreachable) (timer : Timer)
    (timeout : Option Duration) (past : List (Event α)) :
    Mirrors e timeout (after e timer timeout past)
      (Deadline.after Operation.connect.name timer timeout past) := by
  induction past using List.reverseRecOn with
  | nil => exact ⟨rfl, .inl ⟨rfl, rfl⟩⟩
  | append_singleton past event ih =>
    rw [after, Deadline.after, afterEvents_concat, afterEvents_concat]
    exact ih.step he event

/-! ### The law -/

/-- What a poll of a call is told after the events, and whether its attempt was started. -/
structure ConnectsInTurn (e : Endpoint) (timer : Timer) (timeout : Option Duration)
    (past : List (Event α)) : Prop where
  /-- The first poll of a call to an endpoint that stands for no peer is told that the argument is
      invalid, whatever has happened and however much time there is, and no other poll is. -/
  refused : (∃ reason,
      (after e timer timeout past).answer = .ended (.error (.invalidArgument reason))) ↔
    e.Unreachable ∧ isPolled past = false
  /-- Nothing comes after that, -/
  last : e.Unreachable → isPolled past = true → (after e timer timeout past).answer = .done
  /-- and nothing was tried. -/
  untried : e.Unreachable → (after e timer timeout past).call.attempted = false
  /-- Any other call ends in turn, where the time is up when the timer has gone off. -/
  inTurn : ¬e.Unreachable →
    InTurn Operation.connect.name timeout (TimeUp timer timeout) past
      (after e timer timeout past).answer (after e timer timeout past).call.attempted
  /-- It is never up before so much time has passed, if the timer is made for it. -/
  patient : Served timer timeout past → TimeUp timer timeout past → Elapsed timeout past
  /-- If the clock goes by whole milliseconds besides, the call ends in turn where the time is up as
      soon as so much has passed. -/
  punctual : ¬e.Unreachable → Served timer timeout past → GoesByMillis past →
    InTurn Operation.connect.name timeout (Elapsed timeout) past
      (after e timer timeout past).answer (after e timer timeout past).call.attempted

theorem ofIo_ne_invalidArgument (operation reason : String) (e : IoError) :
    ConnectionError.ofIo operation e ≠ .invalidArgument reason := by
  unfold ConnectionError.ofIo
  split <;> simp

/-- What ends in turn does not end with an argument that is invalid. -/
theorem not_invalidArgument {operation : String} {timeout : Option Duration}
    {up : List (Event α) → Prop} {past : List (Event α)} {answer : Answer α} {attempted : Bool}
    (h : InTurn operation timeout up past answer attempted) (reason : String) :
    answer ≠ .ended (.error (.invalidArgument reason)) := by
  intro hanswer
  subst hanswer
  -- the law gives what the poll is told instead, whichever of the causes has come first in turn
  have hended : ¬Deadline.Ended up past := fun hended => by cases h.done.2 hended
  cases hcancelled : isCancelled past with
  | true => cases h.cancelled hended hcancelled
  | false =>
    by_cases hup : up past
    · cases h.timedOut hended hcancelled hup
    · cases hresult : result past with
      | none => cases h.pending.2 ⟨hcancelled, hup, hresult⟩
      | some r =>
        have hown := h.own hended hcancelled hup r hresult
        cases r with
        | ok value => cases hown
        | error e =>
          simp only [Except.mapError, Answer.ended.injEq, Except.error.injEq] at hown
          exact ofIo_ne_invalidArgument _ _ e hown.symm

/-- **A call that connects ends in turn**: an endpoint that stands for no peer is refused before all
    else; a cancellation goes before the timer, and the timer before what the attempt comes to. -/
theorem connectsInTurn {timer : Timer} (ht : timer.Promised) (e : Endpoint)
    (timeout : Option Duration) (past : List (Event α)) : ConnectsInTurn e timer timeout past := by
  by_cases he : e.Unreachable
  · have hcall := call_after_of_unreachable he timer timeout past
    have hanswer : (after e timer timeout past).answer = (ConnectCall.poll
        { endpoint := e, timeout, state := if isPolled past then .refused else .idle }
        (after e timer timeout past).timer (after e timer timeout past).cancelled
        (after e timer timeout past).now (after e timer timeout past).attempt).1 := by
      rw [Run.answer, hcall]
    -- the first poll has the call refused, and the later ones find it so
    refine ⟨?_, fun _ hpolled => ?_, fun _ => ?_, fun hnot => absurd he hnot,
      fun hserved hup => hup.elapsed ht hserved, fun hnot => absurd he hnot⟩
    · rw [hanswer]
      cases isPolled past with
      | true =>
        rw [if_pos rfl, poll_of_refused]
        simp
      | false =>
        obtain ⟨reason, hpoll⟩ := poll_of_unreachable (after e timer timeout past).timer
          (after e timer timeout past).cancelled (after e timer timeout past).now
          (after e timer timeout past).attempt he timeout
        rw [if_neg Bool.false_ne_true, hpoll]
        exact iff_of_true ⟨reason, rfl⟩ ⟨he, rfl⟩
    · rw [hanswer, hpolled, if_pos rfl, poll_of_refused]
    · rw [hcall]
      cases isPolled past <;> rfl
  · have hmirrors : Mirrors e timeout (after e timer timeout past) _ :=
      mirrors_after he timer timeout past
    -- the law of the attempt, read as one of the call
    have hturn := Deadline.inTurn_after Operation.connect.name timer timeout past
    rw [← hmirrors.answer he, ← hmirrors.attempted] at hturn
    refine ⟨?_, fun h => absurd h he, fun h => absurd h he, fun _ => hturn,
      fun hserved hup => hup.elapsed ht hserved,
      fun _ hserved hmillis => hturn.of_timeUp ht hserved hmillis⟩
    exact iff_of_false (fun ⟨reason, h⟩ => not_invalidArgument hturn reason h) fun h => he h.1

/-- The endpoint of the runs below, at which anybody may listen. -/
def loopback : Endpoint := ⟨.v4 #v[127, 0, 0, 1], 80⟩

/-- A timeout of two milliseconds, on the timer that goes by ticks. It is not up after one and a
    half milliseconds, and it goes before the result that comes with the second. -/
theorem connectsInTurn_of_ticks :
    let timeout := some (Duration.ofMillis 2)
    let before : List (Event Nat) := [.poll, .advance (.ofNanos 1500000)]
    let past : List (Event Nat) := [.poll, .advance (.ofMillis 2), .complete (.ok 7)]
    Timer.ofTicks.Promised ∧
      ConnectsInTurn loopback .ofTicks timeout before ∧
      (after loopback .ofTicks timeout before).answer = .pending ∧
      ConnectsInTurn loopback .ofTicks timeout past ∧
      Served .ofTicks timeout past ∧ GoesByMillis past ∧
      (after loopback .ofTicks timeout past).answer = .ended (.error (.timedOut "tcp connect")) :=
  ⟨Timer.promised_ofTicks, connectsInTurn Timer.promised_ofTicks _ _ _, rfl,
    connectsInTurn Timer.promised_ofTicks _ _ _, by decide, by decide, rfl⟩

/-- Where a timer that keeps its promise goes off before so much time has passed. It is not made for
    a timeout of more than thirty years, and not for instants after the last tick. -/
theorem timer_not_elapsed :
    (let limit := Duration.ofMillis 946080000001
      let past : List (Event Nat) := [.poll, .advance (.ofMillis 946080000000)]
      isCancelled past = false ∧ result past = none ∧ clock past < since past + limit.toNanos ∧
        (after loopback .ofTicks (some limit) past).answer =
          .ended (.error (.timedOut "tcp connect"))) ∧
    (let limit := Duration.ofMillis 100
      let past : List (Event Nat) := [.advance (.ofMillis 18446744073709551614)]
      isCancelled past = false ∧ result past = none ∧ clock past < since past + limit.toNanos ∧
        (after loopback .ofTicks (some limit) past).answer =
          .ended (.error (.timedOut "tcp connect"))) :=
  ⟨⟨rfl, rfl, by decide, rfl⟩, rfl, rfl, by decide, rfl⟩

end ConnectCall

end Duplex
