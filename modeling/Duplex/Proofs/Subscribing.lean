import Duplex.Proofs.Conservation

/-! # Subscriptions

  To drive a source is to subscribe an observer to it. Nothing obliges the source to stay at its
  first failure or end, and it may pause anywhere. The observer is told what the polls have
  answered (`exists_drive_eq`): the items before the first failure or end, each once and in order,
  and then that failure or end (`heard_lifetime`). What comes behind it is not polled for.

  A pause is no answer, so scripts that differ in pauses alone come to the same outcome
  (`outcome_withoutPauses`), and an observer cannot tell them apart.
-/

namespace Duplex

open Source (afterPolls heard)

variable {α ε : Type}

/-- Whether an answer is a pause. -/
def Polled.isPending : Polled α ε → Bool
  | .pending => true
  | .next _ | .failed _ | .ended => false

/-- A failure and the end are no pauses. -/
theorem Polled.isPending_of_isFinal {answer : Polled α ε} (h : answer.isFinal = true) :
    answer.isPending = false := by
  cases answer with
  | pending => cases h
  | next _ | failed _ | ended => rfl

/-! ### Any source -/

namespace Source

variable {σ : Type} [Source σ α ε]

theorem heard_succ (s : σ) (k : Nat) :
    heard s (k + 1) =
      if (poll s).1.isPending then heard (poll s).2 k else (poll s).1 :: heard (poll s).2 k := by
  simp only [heard]
  rcases poll s with ⟨_ | _ | _ | _, s'⟩ <;> rfl

/-- Whoever is subscribed to a source, it is polled the same number of times, and the observer is
    told the answers of these polls. -/
theorem exists_drive_eq (s : σ) :
    ∃ n, ∀ {ο : Type} [Observer ο α ε] (o : ο),
      drive s o = (afterPolls s n, (heard s n).foldl Observer.tell o) := by
  induction s using poll_induction with
  | step s ih =>
    cases hfinal : (poll s).1.isFinal with
    | true =>
      refine ⟨1, ?_⟩
      intro ο _ o
      rw [drive_of_final hfinal, heard_succ, Polled.isPending_of_isFinal hfinal]
      rfl
    | false =>
      obtain ⟨n, hn⟩ := ih hfinal
      refine ⟨n + 1, ?_⟩
      intro ο _ o
      rw [drive_of_not_final hfinal, hn, heard_succ]
      -- a pause is told to nobody
      cases hanswer : (poll s).1 with
      | pending | next _ | failed _ | ended => rfl

end Source

/-! ### Scripts -/

namespace Script

/-- What a list of answers comes to: the items before its first failure or end, and that failure or
    end. After the list there is an end. -/
def outcome (answers : List (Polled α ε)) : Outcome α ε where
  items := (answers.takeWhile (!·.isFinal)).filterMap Polled.item?
  final := (answers.find? Polled.isFinal).getD .ended

/-- The answers behind the first failure or end. -/
def behind (answers : List (Polled α ε)) : List (Polled α ε) :=
  (answers.dropWhile (!·.isFinal)).tail

/-- The answers that are no pauses. -/
def withoutPauses (answers : List (Polled α ε)) : List (Polled α ε) :=
  answers.filter (!·.isPending)

theorem outcome_cons (answer : Polled α ε) (rest : List (Polled α ε)) :
    outcome (answer :: rest) =
      if answer.isFinal then ⟨[], answer⟩
      else (outcome rest).prepend answer.item?.toList := by
  cases answer with
  | pending | next _ | failed _ | ended => rfl

theorem isFinal_outcome (answers : List (Polled α ε)) :
    (outcome answers).final.isFinal = true := by
  induction answers with
  | nil => rfl
  | cons answer rest ih =>
    rw [outcome_cons]
    cases hfinal : answer.isFinal with
    | true => exact hfinal
    | false => exact ih

/-- Pauses do not show in what a list of answers comes to. -/
theorem outcome_withoutPauses (answers : List (Polled α ε)) :
    outcome (withoutPauses answers) = outcome answers := by
  induction answers with
  | nil => rfl
  | cons answer rest ih =>
    cases answer with
    | pending => exact ih
    | next item =>
      show outcome (.next item :: withoutPauses rest) = _
      rw [outcome_cons, outcome_cons, ih]
    | failed e | ended => rfl

/-- The polls up to the first failure or end answer the items before it, and it. -/
theorem heard_lifetime (s : Script α ε) :
    heard s (lifetime s.answers) = (outcome s.answers).answers ∧
      (afterPolls s (lifetime s.answers)).answers = behind s.answers := by
  obtain ⟨answers, pulled⟩ := s
  induction answers generalizing pulled with
  | nil => exact ⟨rfl, rfl⟩
  | cons answer rest ih =>
    cases answer with
    | pending => exact ih pulled
    | next item =>
      obtain ⟨hheard, hbehind⟩ := ih (pulled + 1)
      exact ⟨congrArg (Polled.next item :: ·) hheard, hbehind⟩
    | failed e | ended => exact ⟨rfl, rfl⟩

/-- A script counts the polls that it has answered by something else than a pause. -/
theorem pulled_poll (s : Script α ε) :
    s.poll.2.pulled = if s.poll.1.isPending then s.pulled else s.pulled + 1 := by
  match s with
  | ⟨[], _⟩ => rfl
  | ⟨answer :: _, _⟩ => cases answer <;> rfl

theorem pulled_afterPolls (s : Script α ε) (k : Nat) :
    (afterPolls s k).pulled = s.pulled + (heard s k).length := by
  induction k generalizing s with
  | zero => rfl
  | succ k ih =>
    have hpoll := pulled_poll s
    rw [Source.heard_succ, show afterPolls s (k + 1) = afterPolls s.poll.2 k from rfl, ih, hpoll]
    cases hpending : s.poll.1.isPending with
    | true => simp [Source.poll]
    | false =>
      simp only [Source.poll, Bool.false_eq_true, if_false, List.length_cons]
      omega

end Script

/-! ### The contract of a subscription -/

open Script (behind outcome withoutPauses)

/-- What an observer `o` that is subscribed to a script is told, and how far the script is polled
    for it. -/
structure Subscribed {ο : Type} [Observer ο α ε] (s : Script α ε) (o : ο) : Prop where
  /-- The observer is told the items before the first failure or end, each once and in order, then
      that failure or end, and nothing else. -/
  told : (drive s o).2 = (outcome s.answers).answers.foldl Observer.tell o
  /-- The script is polled a certain number of times. Pauses apart, the polls answer one item after
      the other, and the last one the failure or end. -/
  polled : ∃ n, (∀ k, (drive s o).1 = afterPolls s k ↔ k = n) ∧
    heard s n = (outcome s.answers).answers
  /-- So as many polls are no pauses as there are items, and one more. -/
  pulled : (drive s o).1.pulled = s.pulled + ((outcome s.answers).items.length + 1)
  /-- What comes behind the first failure or end is left as it is. -/
  unpolled : (drive s o).1.answers = behind s.answers

theorem subscribed {ο : Type} [Observer ο α ε] (s : Script α ε) (o : ο) : Subscribed s o := by
  obtain ⟨n, hdrive⟩ := Source.exists_drive_eq s
  -- the number of polls is that of the answers up to the first failure or end
  have hn : n = Script.lifetime s.answers := by
    rw [← Script.afterPolls_inj s, ← Script.drive_eq_afterPolls s o, hdrive o]
  obtain ⟨hheard, hbehind⟩ := Script.heard_lifetime s
  rw [← hn] at hheard hbehind
  have hrun := hdrive o
  constructor
  case told => rw [hrun, hheard]
  case polled =>
    refine ⟨n, fun k => ?_, hheard⟩
    rw [hrun]
    exact (Script.afterPolls_inj s).trans eq_comm
  case pulled =>
    rw [hrun, Script.pulled_afterPolls, hheard]
    simp [Outcome.answers]
  case unpolled => rw [hrun, hbehind]

/-- **Subscriptions keep their contract.** Whatever a script answers, and whatever it has behind its
    first failure or end,

    - any observer is told the items before that, and that, and the script is not polled further;
    - a recorder has these items and, behind them, one failure or the completion;
    - pauses that are put in or taken out anywhere change neither what an observer is told nor the
      number of polls that are no pauses. -/
theorem drive_keeps_contract (s : Script α ε) :
    (∀ {ο : Type} [Observer ο α ε] (o : ο), Subscribed s o) ∧
    (∃ last : Notice α ε,
      ((outcome s.answers).final = .ended ∧ last = .completed ∨
        ∃ e, (outcome s.answers).final = .failed e ∧ last = .failed e) ∧
      (drive s ({} : Recorder α ε)).2.notices.toList =
        (outcome s.answers).items.map .next ++ [last]) ∧
    ∀ t : Script α ε, withoutPauses t.answers = withoutPauses s.answers →
      ∀ {ο : Type} [Observer ο α ε] (o : ο), (drive t o).2 = (drive s o).2 ∧
        ∃ count, (drive s o).1.pulled = s.pulled + count ∧
          (drive t o).1.pulled = t.pulled + count := by
  refine ⟨fun o => subscribed s o, ?_, ?_⟩
  · rw [(subscribed s ({} : Recorder α ε)).told]
    exact Outcome.notices_foldl_tell (Script.isFinal_outcome s.answers)
  · intro t hpauses ο _ o
    have hsame : outcome t.answers = outcome s.answers := by
      rw [← Script.outcome_withoutPauses t.answers, hpauses, Script.outcome_withoutPauses]
    have hs := subscribed s o
    have ht := subscribed t o
    rw [Subscribed.told ht, Subscribed.told hs, hsame]
    refine ⟨rfl, _, hs.pulled, ?_⟩
    rw [ht.pulled, hsame]

/-- A script that has an item and an end behind its failure, and the same one with other pauses. -/
theorem drive_keeps_contract_of_pauses :
    let s : Script Nat String := ⟨[.next 1, .pending, .next 2, .failed "bad", .next 3, .ended], 0⟩
    let t : Script Nat String :=
      ⟨[.pending, .next 1, .next 2, .pending, .pending, .failed "bad", .next 3, .ended], 5⟩
    withoutPauses t.answers = withoutPauses s.answers ∧
    (drive s ({} : Recorder Nat String)).2.notices.toList =
      [.next 1, .next 2, .failed "bad"] ∧
    (drive s ({} : Recorder Nat String)).1 = ⟨[.next 3, .ended], 3⟩ ∧
    (drive t ({} : Recorder Nat String)).2 = (drive s ({} : Recorder Nat String)).2 := by
  intro s t
  obtain ⟨htold, -, hpauses⟩ := drive_keeps_contract s
  have hsame : withoutPauses t.answers = withoutPauses s.answers := rfl
  have hs := htold ({} : Recorder Nat String)
  refine ⟨hsame, ?_, ?_, (hpauses t hsame ({} : Recorder Nat String)).1⟩
  · rw [hs.told]
    rfl
  · have hunpolled : (drive s ({} : Recorder Nat String)).1.answers = [.next 3, .ended] :=
      hs.unpolled
    have hpulled : (drive s ({} : Recorder Nat String)).1.pulled = 3 := hs.pulled
    rw [← hunpolled, ← hpulled]

end Duplex
