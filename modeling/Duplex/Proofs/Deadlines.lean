import Duplex.Proofs.Moments
import Duplex.Socket.Deadline
import Mathlib.Algebra.GroupWithZero.Nat
import Mathlib.Data.List.Infix
import Mathlib.Data.List.TakeWhile

/-! # How an attempt under a deadline ends

  What a poll answers is decided by what has happened before it: the cancellation goes before the
  timer and the timer before the attempt (`decided`), whichever came first. The first poll and later
  ones ask in different ways, and so do an attempt with a timeout and one without, and all of them
  come to the same decision (`Follows.poll`).

  The timer is set by the first poll (`since`), and the time is up when it has gone off (`TimeUp`).
  What timers promise relates that to the time that has passed since (`Elapsed`): it is never up
  before, and at a whole millisecond it is once so much has passed.
-/

namespace Duplex.Deadline

variable {α : Type}

/-! ### What has happened -/

/-- Whether the event is a poll. -/
def Event.isPoll : Event α → Bool
  | .poll => true
  | _ => false

theorem eq_poll {e : Event α} (h : e.isPoll = true) : e = .poll := by
  cases e with
  | poll => rfl
  | cancel | advance | complete => cases h

/-- Whether the event is a cancel. -/
def Event.isCancel : Event α → Bool
  | .cancel => true
  | _ => false

/-- The time that passes with the event. -/
def Event.time : Event α → Nat
  | .advance time => time.toNanos
  | _ => 0

/-- The result that the event brings. -/
def Event.result? : Event α → Option (Except IoError α)
  | .complete result => some result
  | _ => none

/-- Whether the caller has cancelled. -/
def isCancelled (past : List (Event α)) : Bool := past.any Event.isCancel

/-- The clock. -/
def clock (past : List (Event α)) : Nat := (past.map Event.time).sum

/-- The result of the attempt, if it has one. -/
def result (past : List (Event α)) : Option (Except IoError α) := latest Event.result? past

/-- Whether somebody has polled. -/
def isPolled (past : List (Event α)) : Bool := past.any Event.isPoll

/-- The instant of the first poll, or the clock where nobody has polled. -/
def since (past : List (Event α)) : Nat := clock (past.takeWhile fun e => !e.isPoll)

/-- So much time has passed since the first poll. -/
def Elapsed (timeout : Option Duration) (past : List (Event α)) : Prop :=
  ∃ limit ∈ timeout, since past + limit.toNanos ≤ clock past

/-- The time is up: there is a timeout, and it is none at all, or the timer that the first poll has
    set has gone off. -/
def TimeUp (timer : Timer) (timeout : Option Duration) (past : List (Event α)) : Prop :=
  ∃ limit ∈ timeout, limit.toNanos = 0 ∨ timer.expiry (since past) limit ≤ clock past

instance (timer : Timer) (timeout : Option Duration) (past : List (Event α)) :
    Decidable (TimeUp timer timeout past) :=
  inferInstanceAs (Decidable (∃ limit ∈ timeout, _))

/-- What the attempt comes to: a cancellation goes before the timer, and the timer before a result
    of the attempt. -/
def decided (operation : String) (timer : Timer) (timeout : Option Duration)
    (past : List (Event α)) : Option (Except ConnectionError α) :=
  if isCancelled past then some (.error (.cancelled operation))
  else if TimeUp timer timeout past then some (.error (.timedOut operation))
  else (result past).map (·.mapError (.ofIo operation))

/-- One of the three has happened that may end the attempt, where `up` says of a script whether the
    time is up after it. -/
def Happened (up : List (Event α) → Prop) (past : List (Event α)) : Prop :=
  isCancelled past = true ∨ up past ∨ result past ≠ none

/-- Some poll came when one of them had happened. -/
def Ended (up : List (Event α) → Prop) (past : List (Event α)) : Prop :=
  Came (fun before e => e.isPoll = true ∧ Happened up before) past

/-- Some poll came to the attempt itself. -/
def Attempted (up : List (Event α) → Prop) (past : List (Event α)) : Prop :=
  Came (fun before e => e.isPoll = true ∧ isCancelled before = false ∧ ¬up before) past

/-! ### One more event -/

section

variable {timer : Timer} {timeout : Option Duration} {past : List (Event α)} {e : Event α}

theorem clock_append (past more : List (Event α)) :
    clock (past ++ more) = clock past + clock more := by
  simp [clock]

theorem isPolled_append (past more : List (Event α)) :
    isPolled (past ++ more) = (isPolled past || isPolled more) :=
  List.any_append

theorem takeWhile_of_not_polled (h : isPolled past = false) :
    (past.takeWhile fun e => !e.isPoll) = past := by
  rw [List.takeWhile_eq_self_iff]
  intro e he
  rw [isPolled, List.any_eq_false] at h
  simpa using h e he

/-- Where nobody has polled, the timer would be set now. -/
theorem since_of_not_polled (h : isPolled past = false) : since past = clock past := by
  rw [since, takeWhile_of_not_polled h]

/-- Once somebody has polled, the timer is set. -/
theorem since_append (h : isPolled past = true) (more : List (Event α)) :
    since (past ++ more) = since past := by
  -- the poll is not among the events before the first one, so those are not the whole script
  obtain ⟨e, he, hpoll⟩ := List.any_eq_true.1 h
  have hstops : (past.takeWhile fun e => !e.isPoll).length ≠ past.length := by
    intro hlength
    have hall := (List.takeWhile_prefix _).eq_of_length hlength
    have := List.takeWhile_eq_self_iff.1 hall e he
    simp [hpoll] at this
  rw [since, List.takeWhile_append, if_neg hstops, since]

/-- The first poll sets it to where it would have been set. -/
theorem since_poll (past rest : List (Event α)) : since (past ++ .poll :: rest) = since past := by
  cases hpolled : isPolled past with
  | true => exact since_append hpolled (.poll :: rest)
  | false =>
    -- all events so far come before the first poll, and none of the others does
    rw [since, List.takeWhile_append, takeWhile_of_not_polled hpolled, since_of_not_polled hpolled]
    simp [Event.isPoll]

theorem clock_le_append (past more : List (Event α)) : clock past ≤ clock (past ++ more) := by
  rw [clock_append]
  exact Nat.le_add_right _ _

theorem isCancelled_append (h : isCancelled past = true) (more : List (Event α)) :
    isCancelled (past ++ more) = true := by
  rw [isCancelled, List.any_append]
  exact Bool.or_eq_true_iff.2 (.inl h)

theorem timeUp_of_zero (h : timeout.any (·.toNanos = 0) = true) (past : List (Event α)) :
    TimeUp timer timeout past := by
  obtain ⟨limit, hlimit, hzero⟩ := (Option.any_eq_true _ _).1 h
  exact ⟨limit, hlimit, .inl (of_decide_eq_true hzero)⟩

/-- Time that is up at a poll is up from then on. -/
theorem TimeUp.later (h : TimeUp timer timeout past) (rest : List (Event α)) :
    TimeUp timer timeout (past ++ .poll :: rest) := by
  obtain ⟨limit, hlimit, hup⟩ := h
  refine ⟨limit, hlimit, hup.imp_right fun hexpired => ?_⟩
  rw [since_poll]
  exact Nat.le_trans hexpired (clock_le_append past _)

theorem Happened.later (h : Happened (TimeUp timer timeout) past) (rest : List (Event α)) :
    Happened (TimeUp timer timeout) (past ++ .poll :: rest) := by
  rcases h with hcancelled | hup | hresult
  · exact .inl (isCancelled_append hcancelled _)
  · exact .inr (.inl (hup.later rest))
  · exact .inr (.inr (latest_append_ne_none hresult _))

theorem Ended.happened (h : Ended (TimeUp timer timeout) past) :
    Happened (TimeUp timer timeout) past := by
  obtain ⟨before, e, rest, rfl, hpoll, hhappened⟩ := h
  obtain rfl := eq_poll hpoll
  exact hhappened.later rest

section

variable {up : List (Event α) → Prop}

theorem ended_poll : Ended up (past ++ [.poll]) ↔ Ended up past ∨ Happened up past := by
  simp [Ended, came_concat, Event.isPoll]

theorem ended_concat (h : e.isPoll = false) : Ended up (past ++ [e]) ↔ Ended up past := by
  simp [Ended, came_concat, h]

theorem attempted_poll : Attempted up (past ++ [.poll]) ↔
    Attempted up past ∨ isCancelled past = false ∧ ¬up past := by
  simp [Attempted, came_concat, Event.isPoll]

theorem attempted_concat (h : e.isPoll = false) :
    Attempted up (past ++ [e]) ↔ Attempted up past := by
  simp [Attempted, came_concat, h]

end

/-- A timeout of none at all ends the attempt at the first poll. -/
theorem ended_of_zero (hpolled : isPolled past = true)
    (hzero : timeout.any (·.toNanos = 0) = true) : Ended (TimeUp timer timeout) past := by
  obtain ⟨e, he, hpoll⟩ := List.any_eq_true.1 hpolled
  obtain ⟨before, rest, rfl⟩ := List.append_of_mem he
  exact ⟨before, e, rest, rfl, hpoll, .inr (.inl (timeUp_of_zero hzero before))⟩

/-- An attempt that was ended before it was asked was ended before the attempt itself. -/
theorem Ended.attempted (h : Ended (TimeUp timer timeout) past)
    (hcancelled : isCancelled past = false) (hup : ¬TimeUp timer timeout past) :
    Attempted (TimeUp timer timeout) past := by
  obtain ⟨before, e, rest, rfl, hpoll, -⟩ := h
  refine ⟨before, e, rest, rfl, hpoll, Bool.eq_false_iff.2 fun hbefore => ?_, fun hbefore => ?_⟩
  · exact Bool.eq_false_iff.1 hcancelled (isCancelled_append hbefore _)
  · obtain rfl := eq_poll hpoll
    exact hup (hbefore.later rest)

end

/-! ### Polls -/

section

variable {timer : Timer} {timeout : Option Duration} {past : List (Event α)}

theorem decided_eq_none_iff (operation : String) : decided operation timer timeout past = none ↔
    isCancelled past = false ∧ ¬TimeUp timer timeout past ∧ result past = none := by
  unfold decided
  split
  next hcancelled => simp [hcancelled]
  next hcancelled => split <;> simp [*]

theorem decided_isSome_iff (operation : String) :
    (decided operation timer timeout past).isSome = true ↔
      Happened (TimeUp timer timeout) past := by
  rw [Option.isSome_iff_ne_none, ne_eq, decided_eq_none_iff, Happened, ← not_iff_not, not_not,
    not_or, not_or, not_not, Bool.not_eq_true]

/-- What has become of the attempt after a poll that was told the decision. -/
def settled (d : Deadline) (timer : Timer) (past : List (Event α)) : Answer α × Deadline :=
  ((decided d.operation timer d.timeout past).elim .pending .ended,
    { d with
      state :=
        if (decided d.operation timer d.timeout past).isSome then .ended else .running (since past)
      attempted := d.attempted || (!isCancelled past && !decide (TimeUp timer d.timeout past)) })

theorem isOver_iff {d : Deadline} {since now : Nat} :
    d.isOver timer since now = true ↔ ∃ limit ∈ d.timeout, timer.expiry since limit ≤ now := by
  unfold isOver
  cases d.timeout with
  | none => simp
  | some limit => rw [decide_eq_true_iff]; simp

/-- Where there is some time at all, the timer says whether it is up. -/
theorem isOver_since {d : Deadline} (hsome : d.timeout.any (·.toNanos = 0) = false) :
    d.isOver timer (since past) (clock past) = true ↔ TimeUp timer d.timeout past := by
  rw [isOver_iff, TimeUp]
  refine exists_congr fun limit => and_congr_right fun hlimit => ?_
  rw [or_iff_right]
  intro hzero
  rw [Option.any_eq_false] at hsome
  simpa [hzero] using hsome limit hlimit

theorem pollRunning_eq {d : Deadline}
    (hover : d.isOver timer (since past) (clock past) = true ↔ TimeUp timer d.timeout past) :
    d.pollRunning timer (isCancelled past) (since past) (clock past) (result past) =
      settled d timer past := by
  unfold pollRunning settled decided
  simp only [hover]
  by_cases hcancelled : isCancelled past = true
  · simp [hcancelled]
  · by_cases hup : TimeUp timer d.timeout past
    · simp [hcancelled, hup]
    · cases result past <;> simp [hcancelled, hup]

end

/-! ### What the attempt holds -/

/-- The attempt holds what the events have determined. -/
structure Follows (operation : String) (timer : Timer) (timeout : Option Duration)
    (past : List (Event α)) (d : Deadline) : Prop where
  named : d.operation = operation
  limited : d.timeout = timeout
  idle : d.state = .idle → isPolled past = false
  /-- The timer of an attempt that goes on counts from the first poll. -/
  running : ∀ instant, d.state = .running instant → isPolled past = true ∧ instant = since past
  ended : d.state = .ended ↔ Ended (TimeUp timer timeout) past
  attempted : d.attempted = true ↔ Attempted (TimeUp timer timeout) past

/-- An attempt that nobody has polled is as it was made. -/
theorem follows_of_not_polled (operation : String) (timer : Timer) (timeout : Option Duration)
    {past : List (Event α)} (h : isPolled past = false) :
    Follows operation timer timeout past { operation, timeout } where
  named := rfl
  limited := rfl
  idle _ := h
  running _ h := by cases h
  ended := iff_of_false (by simp) fun ⟨before, e, rest, hpast, hpoll, _⟩ => by
    simp [hpast, isPolled, hpoll] at h
  attempted := iff_of_false (by simp) fun ⟨before, e, rest, hpast, hpoll, _⟩ => by
    simp [hpast, isPolled, hpoll] at h

namespace Follows

variable {operation : String} {timer : Timer} {timeout : Option Duration}
  {past : List (Event α)} {d : Deadline}

/-- **The first poll and later ones decide alike**, with a timeout and without one. -/
theorem poll (h : Follows operation timer timeout past d)
    (hnot : ¬Ended (TimeUp timer timeout) past) :
    d.poll timer (isCancelled past) (clock past) (result past) = settled d timer past := by
  unfold Deadline.poll
  cases hstate : d.state with
  | ended => exact absurd (h.ended.1 hstate) hnot
  | running instant =>
    obtain ⟨hpolled, rfl⟩ := h.running instant hstate
    have hsome : d.timeout.any (·.toNanos = 0) = false := by
      rw [h.limited, Bool.eq_false_iff]
      exact fun hzero => hnot (ended_of_zero hpolled hzero)
    exact pollRunning_eq (isOver_since hsome)
  | idle =>
    have hsince : since past = clock past := since_of_not_polled (h.idle hstate)
    cases hzero : d.timeout.any (·.toNanos = 0) with
    | false =>
      -- a cancellation ends what is under way as well
      rw [← pollRunning_eq (isOver_since hzero), hsince]
      cases isCancelled past <;> simp [pollRunning]
    | true =>
      have hup : TimeUp timer d.timeout past := timeUp_of_zero hzero past
      cases hcancelled : isCancelled past <;> simp [settled, decided, hcancelled, hup]

theorem poll_of_ended (h : Follows operation timer timeout past d)
    (hended : Ended (TimeUp timer timeout) past) (cancelled : Bool) (now : Nat)
    (attempt : Option (Except IoError α)) :
    d.poll timer cancelled now attempt = (.done, d) := by
  rw [Deadline.poll, h.ended.2 hended]

/-! ### Steps -/

theorem event {e : Event α} (h : Follows operation timer timeout past d) (he : e.isPoll = false) :
    Follows operation timer timeout (past ++ [e]) d where
  named := h.named
  limited := h.limited
  idle hidle := by rw [isPolled_append, h.idle hidle]; simp [isPolled, he]
  running instant hrunning := by
    obtain ⟨hpolled, hinstant⟩ := h.running instant hrunning
    rw [isPolled_append, since_append hpolled, hpolled]
    exact ⟨rfl, hinstant⟩
  ended := h.ended.trans (ended_concat he).symm
  attempted := h.attempted.trans (attempted_concat he).symm

theorem polled (h : Follows operation timer timeout past d) :
    Follows operation timer timeout (past ++ [.poll])
      (d.poll timer (isCancelled past) (clock past) (result past)).2 := by
  by_cases hended : Ended (TimeUp timer timeout) past
  · rw [h.poll_of_ended hended]
    have hstate : d.state = .ended := h.ended.2 hended
    refine ⟨h.named, h.limited, by simp [hstate], by simp [hstate],
      iff_of_true hstate (ended_poll.2 (.inl hended)), ?_⟩
    rw [h.attempted, attempted_poll, or_iff_left_of_imp]
    -- a poll that comes too late starts nothing, and would have nothing left to start
    exact fun hopen => hended.attempted hopen.1 hopen.2
  · rw [h.poll hended]
    refine ⟨h.named, h.limited, ?_, ?_, ?_, ?_⟩
    · simp only [settled]
      split <;> simp
    · intro instant hrunning
      simp only [settled] at hrunning
      split at hrunning
      · cases hrunning
      · cases hrunning
        exact ⟨by simp [isPolled, Event.isPoll], (since_poll past []).symm⟩
    · rw [ended_poll, or_iff_right hended, ← decided_isSome_iff operation]
      simp only [settled, h.named, h.limited]
      split <;> simp [*]
    · simp [settled, attempted_poll, h.attempted, h.limited]

end Follows

/-! ### Runs -/

/-- What an attempt goes by after the events. -/
def surroundings (timer : Timer) (past : List (Event α)) : Surroundings α :=
  { timer, cancelled := isCancelled past, now := clock past, attempt := result past }

theorem surroundings_step (timer : Timer) (past : List (Event α)) (e : Event α) :
    ((surroundings timer past).step e).2 = surroundings timer (past ++ [e]) := by
  cases e <;> simp [surroundings, Surroundings.step, isCancelled, clock, result, latest,
    Event.isCancel, Event.time, Event.result?, List.filterMap_append, List.getLast?_append]

/-- An attempt under a deadline after the events. -/
def after (operation : String) (timer : Timer) (timeout : Option Duration)
    (past : List (Event α)) : Run α :=
  afterEvents (fun r e => (r.step e).2) { timer, deadline := { operation, timeout } } past

/-- All events but polls leave the attempt as it is. -/
theorem Run.step_eq {e : Event α} (h : e.isPoll = false) (r : Run α) :
    (r.step e).2 = { r with toSurroundings := (r.toSurroundings.step e).2 } := by
  cases e with
  | poll => cases h
  | cancel | advance | complete => rfl

/-- What a poll is told. -/
def Run.answer (r : Run α) : Answer α := (r.deadline.poll r.timer r.cancelled r.now r.attempt).1

/-- So the attempt holds, after any script, what the script has determined. -/
theorem follows_after (operation : String) (timer : Timer) (timeout : Option Duration)
    (past : List (Event α)) :
    (after operation timer timeout past).toSurroundings = surroundings timer past ∧
      Follows operation timer timeout past (after operation timer timeout past).deadline := by
  unfold after
  refine afterEvents_induction (P := fun (past : List (Event α)) (r : Run α) =>
    r.toSurroundings = surroundings timer past ∧ Follows operation timer timeout past r.deadline)
    ⟨rfl, follows_of_not_polled operation timer timeout rfl⟩ ?_ past
  rintro past e ⟨around, d⟩ ⟨rfl, hfollows⟩
  have hstep := surroundings_step timer past e
  cases hevent : e.isPoll with
  | false =>
    rw [Run.step_eq hevent]
    exact ⟨hstep, hfollows.event hevent⟩
  | true =>
    obtain rfl := eq_poll hevent
    exact ⟨hstep, hfollows.polled⟩

/-! ### The law -/

/-- What a poll is told after the events, and whether the attempt itself was started, where `up`
    says whether the time is up. -/
structure InTurn (operation : String) (timeout : Option Duration) (up : List (Event α) → Prop)
    (past : List (Event α)) (answer : Answer α) (attempted : Bool) : Prop where
  /-- A poll is pending where none of the three has happened, and only there. -/
  pending : answer = .pending ↔ isCancelled past = false ∧ ¬up past ∧ result past = none
  /-- The first other poll is told that the caller has cancelled, if so. -/
  cancelled : ¬Ended up past → isCancelled past = true →
    answer = .ended (.error (.cancelled operation))
  /-- Else that the time is up, if so. -/
  timedOut : ¬Ended up past → isCancelled past = false → up past →
    answer = .ended (.error (.timedOut operation))
  /-- Else the result of the attempt: its value, or what its error stands for. -/
  own : ¬Ended up past → isCancelled past = false → ¬up past →
    ∀ r, result past = some r → answer = .ended (r.mapError (.ofIo operation))
  /-- All polls after this one are told that it was so. -/
  done : answer = .done ↔ Ended up past
  /-- Without a timeout, a timeout is one that the attempt itself has met. -/
  unlimited : timeout = none → answer = .ended (.error (.timedOut operation)) →
    ∃ e, result past = some (.error e) ∧ e.kind = .timedOut
  /-- The attempt itself is started by a poll that finds no cancellation and some time left. -/
  attempted : attempted = true ↔ Attempted up past

/-- Two ways to say whether the time is up come to one law if they agree all along the script. -/
theorem InTurn.congr {operation : String} {timeout : Option Duration}
    {up up' : List (Event α) → Prop} {past : List (Event α)} {answer : Answer α} {attempted : Bool}
    (h : InTurn operation timeout up past answer attempted)
    (hsame : ∀ before, before <+: past → (up before ↔ up' before)) :
    InTurn operation timeout up' past answer attempted := by
  -- what has come depends on the moments of the polls, and these are moments of the script
  have hup : up past ↔ up' past := hsame past (List.prefix_refl past)
  have hended : Ended up past ↔ Ended up' past := came_congr fun before hbefore e =>
    and_congr_right fun _ => or_congr_right (or_congr_left (hsame before hbefore))
  have hattempted : Attempted up past ↔ Attempted up' past := came_congr fun before hbefore e =>
    and_congr_right fun _ => and_congr_right fun _ => not_congr (hsame before hbefore)
  exact
    { pending := h.pending.trans
        (and_congr_right fun _ => and_congr_left fun _ => not_congr hup)
      cancelled := fun hnot => h.cancelled (mt hended.1 hnot)
      timedOut := fun hnot hcancelled hnow => h.timedOut (mt hended.1 hnot) hcancelled (hup.2 hnow)
      own := fun hnot hcancelled hnow => h.own (mt hended.1 hnot) hcancelled (mt hup.1 hnow)
      done := h.done.trans hended
      unlimited := h.unlimited
      attempted := h.attempted.trans hattempted }

section

variable {operation : String} {timer : Timer} {timeout : Option Duration}
  {past : List (Event α)} {d : Deadline}

theorem kind_of_ofIo {e : IoError} (h : ConnectionError.ofIo operation e = .timedOut operation) :
    e.kind = .timedOut := by
  unfold ConnectionError.ofIo at h
  split at h
  case h_2 hkind => exact hkind
  all_goals cases h

theorem not_timeUp_none (timer : Timer) (past : List (Event α)) : ¬TimeUp timer none past := by
  simp [TimeUp]

/-- An attempt without a timeout comes to a timeout of its own only. -/
theorem kind_of_decided (operation : String) (timer : Timer)
    (h : decided operation timer none past = some (.error (.timedOut operation))) :
    ∃ e, result past = some (.error e) ∧ e.kind = .timedOut := by
  rw [decided, if_neg (not_timeUp_none timer past)] at h
  split at h
  · cases h
  · obtain ⟨r, hresult, hr⟩ := Option.map_eq_some_iff.1 h
    cases r with
    | ok value => cases hr
    | error e => exact ⟨e, hresult, kind_of_ofIo (Except.error.inj hr)⟩

theorem Follows.inTurn (h : Follows operation timer timeout past d) :
    InTurn operation timeout (TimeUp timer timeout) past
      (d.poll timer (isCancelled past) (clock past) (result past)).1 d.attempted := by
  by_cases hended : Ended (TimeUp timer timeout) past
  · have hsome := (decided_isSome_iff operation).2 hended.happened
    rw [h.poll_of_ended hended]
    refine ⟨?_, fun hnot => absurd hended hnot, fun hnot => absurd hended hnot,
      fun hnot => absurd hended hnot, iff_of_true rfl hended, fun _ hanswer => (by cases hanswer),
      h.attempted⟩
    rw [← decided_eq_none_iff operation]
    exact iff_of_false (by simp) (Option.isSome_iff_ne_none.1 hsome)
  · have hanswer : (d.poll timer (isCancelled past) (clock past) (result past)).1 =
        (decided operation timer timeout past).elim .pending .ended := by
      rw [h.poll hended, settled, h.named, h.limited]
    rw [hanswer]
    refine ⟨?_, fun _ hcancelled => ?_, fun _ hcancelled hup => ?_, fun _ hcancelled hup r hr => ?_,
      ?_, fun hnone htimedOut => ?_, h.attempted⟩
    · rw [← decided_eq_none_iff operation]
      cases decided operation timer timeout past <;> simp
    · simp [decided, hcancelled]
    · simp [decided, hcancelled, hup]
    · simp [decided, hcancelled, hup, hr]
    · refine iff_of_false ?_ hended
      cases decided operation timer timeout past <;> simp
    · refine kind_of_decided operation timer ?_
      subst hnone
      cases hdecided : decided operation timer none past with
      | none => simp [hdecided] at htimedOut
      | some r => simpa [hdecided] using htimedOut

end

/-- **An attempt under a deadline ends in turn**, whatever happens around it and in whatever
    order. -/
theorem inTurn_after (operation : String) (timer : Timer) (timeout : Option Duration)
    (past : List (Event α)) :
    InTurn operation timeout (TimeUp timer timeout) past
      (after operation timer timeout past).answer
      (after operation timer timeout past).deadline.attempted := by
  obtain ⟨haround, hfollows⟩ := follows_after operation timer timeout past
  rw [Run.answer, haround]
  exact hfollows.inTurn

/-! ### The time that has passed -/

/-- The timer is made for the timeout, at the instant at which it is set. -/
def Served (timer : Timer) (timeout : Option Duration) (past : List (Event α)) : Prop :=
  ∀ limit ∈ timeout, timer.Serves (since past) limit

instance (timer : Timer) (timeout : Option Duration) (past : List (Event α)) :
    Decidable (Served timer timeout past) :=
  inferInstanceAs (Decidable (∀ limit ∈ timeout, _))

/-- The clock goes by whole milliseconds. -/
def GoesByMillis (past : List (Event α)) : Prop :=
  ∀ before, before <+: past → Timer.millisecond ∣ clock before

instance (past : List (Event α)) : Decidable (GoesByMillis past) :=
  decidable_of_iff (∀ before ∈ past.inits, Timer.millisecond ∣ clock before)
    (forall_congr' fun before => imp_congr_left (List.mem_inits before past))

section

variable {timer : Timer} {timeout : Option Duration} {past : List (Event α)}

theorem since_le_clock (past : List (Event α)) : since past ≤ clock past := by
  have h := clock_le_append (past.takeWhile fun e => !e.isPoll) (past.dropWhile fun e => !e.isPoll)
  rwa [List.takeWhile_append_dropWhile] at h

theorem since_le_append (past more : List (Event α)) : since past ≤ since (past ++ more) := by
  cases hpolled : isPolled past with
  | true => rw [since_append hpolled]
  | false =>
    -- the timer would have been set now, and is set later
    rw [since_of_not_polled hpolled, since, List.takeWhile_append, takeWhile_of_not_polled hpolled,
      if_pos rfl]
    exact clock_le_append past _

theorem Served.of_prefix (h : Served timer timeout past) {before : List (Event α)}
    (hbefore : before <+: past) : Served timer timeout before := by
  obtain ⟨rest, rfl⟩ := hbefore
  exact fun limit hlimit => (h limit hlimit).of_le (since_le_append before rest)

/-- The time is never up before so much has passed. -/
theorem TimeUp.elapsed (ht : timer.Promised) (hserved : Served timer timeout past)
    (h : TimeUp timer timeout past) : Elapsed timeout past := by
  obtain ⟨limit, hlimit, hzero | hexpired⟩ := h
  · -- no timer is set for a timeout of none at all
    refine ⟨limit, hlimit, ?_⟩
    rw [hzero, Nat.add_zero]
    exact since_le_clock past
  · exact ⟨limit, hlimit, Nat.le_trans (ht.waits (hserved limit hlimit)) hexpired⟩

/-- At a whole millisecond it is up once so much has passed. -/
theorem Elapsed.timeUp (ht : timer.Promised) (hserved : Served timer timeout past)
    (hclock : Timer.millisecond ∣ clock past) (h : Elapsed timeout past) :
    TimeUp timer timeout past := by
  obtain ⟨limit, hlimit, helapsed⟩ := h
  exact ⟨limit, hlimit, .inr (ht.granular (hserved limit hlimit) hclock helapsed)⟩

/-- Where the timer keeps its promise and the clock goes by whole milliseconds, the attempt is timed
    out as soon as so much time has passed. -/
theorem InTurn.of_timeUp {operation : String} {answer : Answer α} {attempted : Bool}
    (ht : timer.Promised) (hserved : Served timer timeout past) (hmillis : GoesByMillis past)
    (h : InTurn operation timeout (TimeUp timer timeout) past answer attempted) :
    InTurn operation timeout (Elapsed timeout) past answer attempted :=
  h.congr fun before hbefore =>
    ⟨fun hup => hup.elapsed ht (hserved.of_prefix hbefore),
      fun helapsed => helapsed.timeUp ht (hserved.of_prefix hbefore) (hmillis before hbefore)⟩

end

end Duplex.Deadline
