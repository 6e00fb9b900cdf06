import Duplex.Cancellation.Race
import Duplex.Proofs.Cancelling
import Duplex.Proofs.Moments

/-! # What a race comes to

  What a poll of a race answers is decided by what has happened before it, not by the order in which
  it has happened (`ByPriority`). The first poll asks the flags of the two sides and later ones
  their signals; flag and signal of a token agree, so both come to the same decision
  (`Follows.poll`).

  The two sides of the link may be aliases of one token. A cancel of either is then one of both.
-/

namespace Duplex.Race

open Cancellation

variable {α : Type}

/-! ### What has happened -/

/-- Whether the event cancels the token with cell `n`. -/
def Event.cancels (link : Link) (n : Nat) : Event α → Bool
  | .cancelDisposal => link.disposal = n
  | .cancelExternal => link.external = n
  | _ => false

@[simp] theorem Event.cancels_poll (link : Link) (n : Nat) :
    (.poll : Event α).cancels link n = false := rfl

@[simp] theorem Event.cancels_complete (value : α) (link : Link) (n : Nat) :
    (Event.complete value).cancels link n = false := rfl

/-- The value with which the event completes the task. -/
def Event.value? : Event α → Option α
  | .complete value => some value
  | _ => none

/-- Whether the token with cell `n` is cancelled once the events have happened to the race. -/
def cancelled (r₀ : Race α) (past : List (Event α)) (n : Nat) : Bool :=
  r₀.tokens.isCancelled n || past.any (Event.cancels r₀.link n)

/-- The disposal side is cancelled. -/
def DisposalCancelled (r₀ : Race α) (past : List (Event α)) : Prop :=
  cancelled r₀ past r₀.link.disposal = true

/-- The side of the caller is cancelled. -/
def ExternalCancelled (r₀ : Race α) (past : List (Event α)) : Prop :=
  cancelled r₀ past r₀.link.external = true

/-- The value of the task, if it has completed. -/
def completion (past : List (Event α)) : Option α := latest Event.value? past

/-- One of the three has happened that may end the race. -/
def Happened (r₀ : Race α) (past : List (Event α)) : Prop :=
  DisposalCancelled r₀ past ∨ ExternalCancelled r₀ past ∨ completion past ≠ none

/-- Some poll came when one of them had happened. -/
def Resolved (r₀ : Race α) (past : List (Event α)) : Prop :=
  Came (fun before e => e = .poll ∧ Happened r₀ before) past

instance (r₀ : Race α) (past : List (Event α)) : Decidable (DisposalCancelled r₀ past) :=
  inferInstanceAs (Decidable (_ = true))

instance (r₀ : Race α) (past : List (Event α)) : Decidable (ExternalCancelled r₀ past) :=
  inferInstanceAs (Decidable (_ = true))

/-- The race after the events. -/
def after (r₀ : Race α) (past : List (Event α)) : Race α :=
  afterEvents (fun r e => (r.step e).2) r₀ past

section

variable {r₀ : Race α} {past : List (Event α)} {e : Event α}

theorem cancelled_append {n : Nat} (h : cancelled r₀ past n = true) (more : List (Event α)) :
    cancelled r₀ (past ++ more) n = true := by
  rw [cancelled, List.any_append, ← Bool.or_assoc]
  exact Bool.or_eq_true_iff.2 (.inl h)

theorem cancelled_concat (r₀ : Race α) (past : List (Event α)) (e : Event α) (n : Nat) :
    cancelled r₀ (past ++ [e]) n = (cancelled r₀ past n || e.cancels r₀.link n) := by
  simp [cancelled, Bool.or_assoc]

theorem happened_append (h : Happened r₀ past) (more : List (Event α)) :
    Happened r₀ (past ++ more) := by
  rcases h with hd | he | hc
  · exact .inl (cancelled_append hd more)
  · exact .inr (.inl (cancelled_append he more))
  · exact .inr (.inr (latest_append_ne_none hc more))

theorem Resolved.happened (h : Resolved r₀ past) : Happened r₀ past :=
  Came.holds (fun _ more h => happened_append h more) (fun _ _ h => h.2) h

theorem not_resolved_of_not_polled (h : .poll ∉ past) : ¬Resolved r₀ past := by
  rintro ⟨before, e, rest, rfl, rfl, -⟩
  exact h (by simp)

theorem resolved_poll : Resolved r₀ (past ++ [.poll]) ↔ Resolved r₀ past ∨ Happened r₀ past := by
  simp [Resolved, came_concat]

theorem resolved_concat (h : e ≠ .poll) : Resolved r₀ (past ++ [e]) ↔ Resolved r₀ past := by
  simp [Resolved, came_concat, h]

end

/-! ### The decision -/

/-- What the race comes to, from what has happened. -/
def decided (r₀ : Race α) (past : List (Event α)) : Option (Raced α) :=
  verdict (CancelSource.fired (cancelled r₀ past r₀.link.disposal)
    (cancelled r₀ past r₀.link.external)) (completion past)

section

variable {r₀ : Race α} {past : List (Event α)}

/-- What decides, by priority. -/
theorem decided_cases (r₀ : Race α) (past : List (Event α)) :
    (DisposalCancelled r₀ past ∧ decided r₀ past = some (.interrupted .disposal)) ∨
    (¬DisposalCancelled r₀ past ∧ ExternalCancelled r₀ past ∧
      decided r₀ past = some (.interrupted .external)) ∨
    (¬DisposalCancelled r₀ past ∧ ¬ExternalCancelled r₀ past ∧
      decided r₀ past = (completion past).map .completed) := by
  unfold decided CancelSource.fired DisposalCancelled ExternalCancelled
  by_cases hd : cancelled r₀ past r₀.link.disposal = true
  · exact .inl ⟨hd, by rw [if_pos hd, verdict]⟩
  · by_cases he : cancelled r₀ past r₀.link.external = true
    · exact .inr (.inl ⟨hd, he, by rw [if_neg hd, if_pos he, verdict]⟩)
    · exact .inr (.inr ⟨hd, he, by rw [if_neg hd, if_neg he, verdict]⟩)

theorem decided_eq_none : decided r₀ past = none ↔ ¬Happened r₀ past := by
  rcases decided_cases r₀ past with ⟨hd, h⟩ | ⟨hd, he, h⟩ | ⟨hd, he, h⟩ <;>
    simp [Happened, *]

theorem decided_eq_disposal :
    decided r₀ past = some (.interrupted .disposal) ↔ DisposalCancelled r₀ past := by
  rcases decided_cases r₀ past with ⟨hd, h⟩ | ⟨hd, he, h⟩ | ⟨hd, he, h⟩ <;> simp [h, hd]

theorem decided_eq_external :
    decided r₀ past = some (.interrupted .external) ↔
      ¬DisposalCancelled r₀ past ∧ ExternalCancelled r₀ past := by
  rcases decided_cases r₀ past with ⟨hd, h⟩ | ⟨hd, he, h⟩ | ⟨hd, he, h⟩ <;> simp [*]

theorem decided_eq_completed {value : α} :
    decided r₀ past = some (.completed value) ↔
      ¬DisposalCancelled r₀ past ∧ ¬ExternalCancelled r₀ past ∧ completion past = some value := by
  rcases decided_cases r₀ past with ⟨hd, h⟩ | ⟨hd, he, h⟩ | ⟨hd, he, h⟩ <;> simp [*]

end

/-! ### What the race holds -/

/-- A race that was not polled, over two tokens of which flag and signal agree. -/
structure Starts (r₀ : Race α) : Prop where
  /-- A signal is raised with its flag. -/
  agree : ∀ n, (r₀.tokens.cell n).signal = r₀.tokens.isCancelled n
  disposal_lt : r₀.link.disposal < r₀.tokens.cells.length
  external_lt : r₀.link.external < r₀.tokens.cells.length
  idle : r₀.state = .idle
  task : r₀.task = none

/-- The race holds what the events have determined. -/
structure Follows (r₀ : Race α) (past : List (Event α)) (r : Race α) : Prop where
  link : r.link = r₀.link
  count : r.tokens.cells.length = r₀.tokens.cells.length
  /-- Flag and signal of a token are both raised once it is cancelled. -/
  cells : ∀ n, r.tokens.cell n = ⟨cancelled r₀ past n, cancelled r₀ past n⟩
  ended : r.state = .ended ↔ Resolved r₀ past
  /-- The value of the task is not taken before the race has ended. -/
  task : ¬Resolved r₀ past → r.task = completion past

theorem Starts.follows {r₀ : Race α} (h : Starts r₀) : Follows r₀ [] r₀ where
  link := rfl
  count := rfl
  cells n := by
    have hflag : cancelled r₀ [] n = (r₀.tokens.cell n).flag := Bool.or_false _
    have hsignal : cancelled r₀ [] n = (r₀.tokens.cell n).signal := by rw [h.agree, hflag]; rfl
    rw [Cell.mk.injEq]
    exact ⟨hflag.symm, hsignal.symm⟩
  ended := by
    rw [h.idle]
    exact iff_of_false (by simp) not_came_nil
  task _ := h.task

namespace Follows

variable {r₀ r : Race α} {past : List (Event α)}

theorem isCancelled (h : Follows r₀ past r) (n : Nat) :
    r.tokens.isCancelled n = cancelled r₀ past n := by
  rw [Registry.isCancelled, h.cells]

/-- **The first poll and later ones decide alike**: flags and signals say the same. -/
theorem poll (h : Follows r₀ past r) (hres : ¬Resolved r₀ past) :
    r.poll = r.settle (decided r₀ past) := by
  have hsignalled : r.signalled = CancelSource.fired (cancelled r₀ past r₀.link.disposal)
      (cancelled r₀ past r₀.link.external) := by
    rw [signalled, h.link, h.cells, h.cells]
  have hfired : r.tokens.fired r.link = r.signalled := by
    rw [hsignalled, Registry.fired, h.link, h.isCancelled, h.isCancelled]
  have hdecided : verdict r.signalled r.task = decided r₀ past := by
    rw [hsignalled, h.task hres, decided]
  cases hstate : r.state with
  | ended => exact absurd (h.ended.1 hstate) hres
  | running => rw [Race.poll, hstate, ← hdecided]
  | idle =>
    rw [Race.poll, hstate, hfired, ← hdecided]
    cases r.signalled <;> rfl

theorem poll_of_resolved (h : Follows r₀ past r) (hres : Resolved r₀ past) :
    r.poll = (.done, r) := by
  rw [Race.poll, h.ended.2 hres]

/-! ### Steps -/

/-- An event other than a poll, that leaves all but the tokens and the task. -/
theorem event {e : Event α} {r' : Race α} (h : Follows r₀ past r) (he : e ≠ .poll)
    (hlink : r'.link = r.link) (hcount : r'.tokens.cells.length = r.tokens.cells.length)
    (hstate : r'.state = r.state)
    (hcells : ∀ n, r'.tokens.cell n = ⟨cancelled r₀ (past ++ [e]) n, cancelled r₀ (past ++ [e]) n⟩)
    (htask : r.task = completion past → r'.task = completion (past ++ [e])) :
    Follows r₀ (past ++ [e]) r' where
  link := hlink.trans h.link
  count := hcount.trans h.count
  cells := hcells
  ended := by rw [hstate, resolved_concat he, h.ended]
  task hres := htask (h.task fun hbefore => hres ((resolved_concat he).2 hbefore))

theorem complete (h : Follows r₀ past r) (value : α) :
    Follows r₀ (past ++ [.complete value]) { r with task := some value } :=
  have hvalue : Event.value? (.complete value) = some value := rfl
  h.event (by simp) rfl rfl rfl (fun n => by simp [h.cells, cancelled_concat])
    fun _ => (latest_concat_of_some hvalue).symm

/-- A cancel of a side of the link. -/
theorem cancel {e : Event α} {side : Nat} (h : Follows r₀ past r) (he : e ≠ .poll)
    (hvalue : e.value? = none) (hcancels : ∀ n, e.cancels r₀.link n = decide (side = n))
    (hside : side < r₀.tokens.cells.length) :
    Follows r₀ (past ++ [e]) (r.cancel side).2 := by
  refine h.event he rfl (Registry.length_cancel r.tokens side) rfl (fun n => ?_)
    fun htask => htask.trans (latest_concat_of_none hvalue).symm
  show (r.tokens.cancel side).2.cell n = _
  rw [cancelled_concat, hcancels]
  cases hbefore : cancelled r₀ past side with
  | true =>
    -- it was cancelled before, so nothing is raised
    rw [Registry.cancel_of_cancelled (by rw [h.isCancelled, hbefore]), h.cells]
    by_cases hn : side = n
    · rw [← hn, hbefore, Bool.true_or]
    · rw [decide_eq_false hn, Bool.or_false]
  | false =>
    rw [Registry.cell_cancel (h.count ▸ hside) (by rw [h.isCancelled, hbefore])]
    by_cases hn : side = n
    · rw [if_pos hn.symm, decide_eq_true hn, Bool.or_true]
    · rw [if_neg (Ne.symm hn), decide_eq_false hn, Bool.or_false, h.cells]

theorem polled (h : Follows r₀ past r) : Follows r₀ (past ++ [.poll]) r.poll.2 := by
  have hcells (n : Nat) : cancelled r₀ (past ++ [.poll]) n = cancelled r₀ past n := by
    simp [cancelled_concat]
  have hcompletion : completion (past ++ [.poll]) = completion past :=
    latest_concat_of_none rfl
  by_cases hres : Resolved r₀ past
  · rw [h.poll_of_resolved hres]
    have hres' : Resolved r₀ (past ++ [.poll]) := resolved_poll.2 (.inl hres)
    exact ⟨h.link, h.count, fun n => by rw [hcells, h.cells],
      iff_of_true (h.ended.2 hres) hres', fun hnot => absurd hres' hnot⟩
  · rw [h.poll hres]
    -- a poll that finds nothing decided goes on; any other is the one that ends the race
    cases hdecided : decided r₀ past with
    | none =>
      have hres' : ¬Resolved r₀ (past ++ [.poll]) := by
        rw [resolved_poll, not_or]
        exact ⟨hres, decided_eq_none.1 hdecided⟩
      exact ⟨h.link, h.count, fun n => by rw [hcells]; exact h.cells n,
        iff_of_false (by simp [settle]) hres', fun _ => by rw [hcompletion]; exact h.task hres⟩
    | some result =>
      have hhappened : Happened r₀ past := by
        by_contra hnot
        rw [decided_eq_none.2 hnot] at hdecided
        cases hdecided
      have hres' : Resolved r₀ (past ++ [.poll]) := resolved_poll.2 (.inr hhappened)
      cases result <;>
        exact ⟨h.link, h.count, fun n => by rw [hcells]; exact h.cells n, iff_of_true rfl hres',
          fun hnot => absurd hres' hnot⟩

theorem step (h : Follows r₀ past r) (hstart : Starts r₀) (e : Event α) :
    Follows r₀ (past ++ [e]) (r.step e).2 := by
  cases e with
  | poll => exact h.polled
  | complete value => exact h.complete value
  | cancelDisposal =>
    rw [Race.step, h.link]
    exact h.cancel (by simp) rfl (fun _ => rfl) hstart.disposal_lt
  | cancelExternal =>
    rw [Race.step, h.link]
    exact h.cancel (by simp) rfl (fun _ => rfl) hstart.external_lt

end Follows

/-- So the race holds, after any script, what the script has determined. -/
theorem Starts.follows_after {r₀ : Race α} (h : Starts r₀) (past : List (Event α)) :
    Follows r₀ past (after r₀ past) :=
  afterEvents_induction h.follows (fun _ e _ hfollows => hfollows.step h e) past

/-- A race is started over a link that a program has made. -/
theorem starts_of_link {calls : List Call} {name : String} {link : Link}
    (hlink : (Registry.run {} calls).2.links.get? name = some link) :
    Starts ({ tokens := (Registry.run {} calls).2, link } : Race α) := by
  obtain ⟨-, htracks⟩ := tracks_nil.run calls
  have hsides := sidesOf_lt (htracks.links name ▸ hlink)
  rw [← htracks.count] at hsides
  refine ⟨fun n => ?_, hsides.1, hsides.2, rfl, rfl⟩
  rw [Registry.isCancelled, htracks.cells]

/-! ### Polls -/

namespace Starts

variable {r₀ : Race α} {past : List (Event α)}

/-- A poll tells the decision, unless one before it has. -/
theorem answer (h : Starts r₀) (hres : ¬Resolved r₀ past) :
    (after r₀ past).poll.1 = (decided r₀ past).elim .pending .ended := by
  rw [(h.follows_after past).poll hres]
  rcases decided r₀ past with _ | (value | source) <;> rfl

theorem answer_of_resolved (h : Starts r₀) (hres : Resolved r₀ past) :
    (after r₀ past).poll.1 = .done := by
  rw [(h.follows_after past).poll_of_resolved hres]

theorem answer_eq_ended (h : Starts r₀) {result : Raced α} :
    (after r₀ past).poll.1 = .ended result ↔
      ¬Resolved r₀ past ∧ decided r₀ past = some result := by
  by_cases hres : Resolved r₀ past
  · simp [h.answer_of_resolved hres, hres]
  · rw [h.answer hres]
    cases decided r₀ past <;> simp [hres]

theorem answer_eq_pending (h : Starts r₀) :
    (after r₀ past).poll.1 = .pending ↔ ¬Happened r₀ past := by
  by_cases hres : Resolved r₀ past
  · simp [h.answer_of_resolved hres, hres.happened]
  · rw [h.answer hres, ← decided_eq_none]
    cases decided r₀ past <;> simp

end Starts

/-! ### After the end -/

theorem after_append (r₀ : Race α) (past more : List (Event α)) :
    after r₀ (past ++ more) = after (after r₀ past) more :=
  afterEvents_append _ r₀ past more

/-- An ended race stays so, and leaves the task alone. -/
theorem after_of_ended {r : Race α} (hended : r.state = .ended) (more : List (Event α)) :
    (after r more).state = .ended ∧ (after r more).task = (completion more).or r.task := by
  induction more using List.reverseRecOn with
  | nil => exact ⟨hended, rfl⟩
  | append_singleton past e ih =>
    obtain ⟨hstate, htask⟩ := ih
    rw [after, afterEvents_concat, ← after]
    cases e with
    | poll =>
      have hpoll : ((after r past).step .poll).2 = after r past := by
        simp [Race.step, Race.poll, hstate]
      rw [hpoll, completion, latest_concat_of_none rfl]
      exact ⟨hstate, htask⟩
    | complete value =>
      have hvalue : Event.value? (.complete value) = some value := rfl
      rw [completion, latest_concat_of_some hvalue]
      exact ⟨hstate, rfl⟩
    | cancelDisposal | cancelExternal =>
      rw [completion, latest_concat_of_none rfl]
      exact ⟨hstate, htask⟩

theorem completion_append (past more : List (Event α)) :
    completion (past ++ more) = (completion more).or (completion past) := by
  simp [completion, latest, List.getLast?_append]

/-! ### The law -/

/-- A race decides by what has happened, disposal first, then the caller, then the task. -/
structure ByPriority (r₀ : Race α) (past : List (Event α)) : Prop where
  /-- A poll is pending where none of the three has happened, and only there. -/
  pending : (after r₀ past).poll.1 = .pending ↔ ¬Happened r₀ past
  /-- The first other poll is told that disposal has interrupted the task, if it is cancelled. -/
  disposal : (after r₀ past).poll.1 = .ended (.interrupted .disposal) ↔
    ¬Resolved r₀ past ∧ DisposalCancelled r₀ past
  /-- Else that the caller has. -/
  external : (after r₀ past).poll.1 = .ended (.interrupted .external) ↔
    ¬Resolved r₀ past ∧ ¬DisposalCancelled r₀ past ∧ ExternalCancelled r₀ past
  /-- Else the value of the task. -/
  completed : ∀ value, (after r₀ past).poll.1 = .ended (.completed value) ↔
    ¬Resolved r₀ past ∧ ¬DisposalCancelled r₀ past ∧ ¬ExternalCancelled r₀ past ∧
      completion past = some value
  /-- Once a poll was told how the race has ended, no later one is told anything. -/
  last : ∀ result more, (after r₀ past).poll.1 = .ended result →
    (after r₀ (past ++ .poll :: more)).poll.1 = .done
  /-- The value of the task is there until the race has ended. -/
  kept : ¬Resolved r₀ past → (after r₀ past).task = completion past
  /-- The poll that is told the value has taken it. -/
  taken : ∀ value more, (after r₀ past).poll.1 = .ended (.completed value) →
    (after r₀ (past ++ .poll :: more)).task = completion more
  /-- One that is told of an interruption leaves it behind. -/
  left : ∀ source more, (after r₀ past).poll.1 = .ended (.interrupted source) →
    (after r₀ (past ++ .poll :: more)).task = completion (past ++ more)

/-- **A race resolves by priority**, whatever has happened in whatever order, and also where both
    sides of the link are one token. -/
theorem byPriority_of_link (calls : List Call) (name : String) (link : Link)
    (hlink : (Registry.run {} calls).2.links.get? name = some link) (past : List (Event α)) :
    ByPriority { tokens := (Registry.run {} calls).2, link } past := by
  have h : Starts ({ tokens := (Registry.run {} calls).2, link } : Race α) := starts_of_link hlink
  generalize ({ tokens := (Registry.run {} calls).2, link } : Race α) = r₀ at h ⊢
  -- what the script has determined decides the poll, and an ended race heeds nothing that follows
  have hfollows := h.follows_after past
  have hafter (more : List (Event α)) :
      after r₀ (past ++ .poll :: more) = after (after r₀ past).poll.2 more := after_append r₀ past _
  refine ⟨h.answer_eq_pending, ?_, ?_, fun value => ?_, fun result more hended => ?_,
    hfollows.task, fun value more hended => ?_, fun source more hended => ?_⟩
  · rw [h.answer_eq_ended, decided_eq_disposal]
  · rw [h.answer_eq_ended, decided_eq_external]
  · rw [h.answer_eq_ended, decided_eq_completed]
  · have hhappened : Happened r₀ past := by
      by_contra hnot
      rw [h.answer_eq_pending.2 hnot] at hended
      cases hended
    exact h.answer_of_resolved ⟨past, .poll, more, rfl, rfl, hhappened⟩
  all_goals
    obtain ⟨hres, hdecided⟩ := h.answer_eq_ended.1 hended
    rw [hafter, hfollows.poll hres, hdecided, (after_of_ended rfl more).2]
  · exact Option.or_none
  · rw [completion_append]
    exact congrArg _ (hfollows.task hres)

/-- Both sides are one token, which is cancelled through the side of the caller when the task has
    completed: the poll is told that disposal has interrupted it, and the value is left behind. -/
theorem byPriority_of_aliases :
    (Registry.run {} [.token "t", .link "l" "t" "t"]).2.links.get? "l" = some ⟨0, 0⟩ ∧
      let r₀ : Race Nat :=
        ⟨(Registry.run {} [.token "t", .link "l" "t" "t"]).2, ⟨0, 0⟩, none, .idle⟩
      (after r₀ [.complete 7, .cancelExternal]).poll.1 = .ended (.interrupted .disposal) ∧
        (after r₀ [.complete 7, .cancelExternal, .poll]).task = some 7 := by
  have hlink :
      (Registry.run {} [.token "t", .link "l" "t" "t"]).2.links.get? "l" = some ⟨0, 0⟩ := by decide
  have hlaw := byPriority_of_link _ "l" ⟨0, 0⟩ hlink [.complete 7, .cancelExternal]
  have hanswer := hlaw.disposal.2 ⟨not_resolved_of_not_polled (by simp), by decide⟩
  exact ⟨hlink, hanswer, hlaw.left .disposal [] hanswer⟩

end Duplex.Race
