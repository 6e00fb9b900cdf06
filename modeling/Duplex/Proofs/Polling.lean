import Duplex.Stream.Observer

/-! # What polling a source comes to

  A source that is polled again and again answers some items and then something final. The
  two together are its `Outcome`. An outcome is itself a small machine (`Outcome.Step`), in
  which a poll that finds nothing changes nothing, and `Foretells` says that a source is
  simulated by it. What repeated polls answer (`answers_of_foretells`) and what an observer
  is told (`drive_of_foretells`) follow from the simulation alone.

  The last sections are about scripts: what a script carries, and how many polls lead to its
  first failure or end.
-/

namespace Duplex

/-! ### Outcomes -/

/-- What a source answers in the end: its items, and then the first failure or end. -/
structure Outcome (α ε : Type) where
  /-- The items, in order. -/
  items : List α
  /-- The answer after the last item. -/
  final : Polled α ε

namespace Outcome

variable {α ε : Type}

/-- The outcome of a source that has nothing more to answer. -/
def finished : Outcome α ε := ⟨[], .ended⟩

/-- The outcome with an item in front. -/
def cons (item : α) (o : Outcome α ε) : Outcome α ε := ⟨item :: o.items, o.final⟩

/-- The outcome with items in front. -/
def prepend (items : List α) (o : Outcome α ε) : Outcome α ε := ⟨items ++ o.items, o.final⟩

@[simp] theorem prepend_nil (o : Outcome α ε) : o.prepend [] = o := rfl

/-- The items as answers, and the final answer after them. -/
def answers (o : Outcome α ε) : List (Polled α ε) := o.items.map .next ++ [o.final]

/-- `o.Step answer o'`: a source with outcome `o` may answer this and has outcome `o'`
    afterwards. -/
def Step (o : Outcome α ε) : Polled α ε → Outcome α ε → Prop
  | .pending, o' => o = o'
  | .next item, o' => o = o'.cons item
  | .failed e, o' => o = ⟨[], .failed e⟩ ∧ o' = finished
  | .ended, o' => o = finished ∧ o' = finished

/-- A final answer is the whole outcome. -/
theorem Step.eq_of_final {o o' : Outcome α ε} {answer : Polled α ε} (h : o.Step answer o')
    (hfinal : answer.isFinal = true) : o = ⟨[], answer⟩ := by
  cases answer with
  | pending | next item => cases hfinal
  | failed e | ended => exact h.1

/-- A step if there is an answer; otherwise the outcome is the same. -/
def StepOrStay (o : Outcome α ε) : Option (Polled α ε) → Outcome α ε → Prop
  | some answer, o' => o.Step answer o'
  | none, o' => o = o'

section telling

variable {ο : Type} [Observer ο α ε]

/-- An observer of the answers is told the items and then the final answer. -/
theorem foldl_tell_answers (o : Outcome α ε) (x : ο) :
    o.answers.foldl Observer.tell x =
      Observer.tell (o.items.foldl (Observer.onNext (ε := ε)) x) o.final := by
  rw [answers, List.foldl_append, List.foldl_map]
  rfl

theorem foldl_tell_prepend (items : List α) (o : Outcome α ε) (x : ο) :
    (o.prepend items).answers.foldl Observer.tell x =
      o.answers.foldl Observer.tell (items.foldl (Observer.onNext (ε := ε)) x) := by
  simp only [foldl_tell_answers, prepend, List.foldl_append]

end telling

theorem notices_foldl_onNext (items : List α) (r : Recorder α ε) :
    (items.foldl (Observer.onNext (ε := ε)) r).notices.toList =
      r.notices.toList ++ items.map .next := by
  induction items generalizing r with
  | nil => simp
  | cons item rest ih =>
    rw [List.foldl_cons, ih]
    simp [Observer.onNext]

/-- A recorder of an outcome has the items and then the failure or the completion. -/
theorem notices_foldl_tell {o : Outcome α ε} (h : o.final.isFinal = true) :
    ∃ last : Notice α ε,
      (o.final = .ended ∧ last = .completed ∨ ∃ e, o.final = .failed e ∧ last = .failed e) ∧
      (o.answers.foldl Observer.tell ({} : Recorder α ε)).notices.toList =
        o.items.map .next ++ [last] := by
  rw [Outcome.foldl_tell_answers]
  have hitems := notices_foldl_onNext o.items ({} : Recorder α ε)
  cases hfinal : o.final with
  | pending | next _ => rw [hfinal] at h; cases h
  | failed e =>
    refine ⟨.failed e, .inr ⟨e, rfl, rfl⟩, ?_⟩
    simp [Observer.tell, Observer.onError, hitems]
  | ended =>
    refine ⟨.completed, .inl ⟨rfl, rfl⟩, ?_⟩
    simp [Observer.tell, Observer.onCompleted, hitems]

end Outcome

namespace Source

variable {σ α ε : Type} [Source σ α ε]

/-! ### Repeated polls -/

/-- What `k` polls in a row answer, `pending` left out. -/
def heard (s : σ) : Nat → List (Polled α ε)
  | 0 => []
  | k + 1 =>
    match poll s with
    | (.pending, s) => heard s k
    | (answer, s) => answer :: heard s k

/-- The source after `k` polls. -/
def afterPolls (s : σ) : Nat → σ
  | 0 => s
  | k + 1 => afterPolls (poll s).2 k

theorem afterPolls_add (s : σ) (k l : Nat) :
    afterPolls s (k + l) = afterPolls (afterPolls s k) l := by
  induction k generalizing s with
  | zero => simp [afterPolls]
  | succ k ih => rw [Nat.succ_add]; exact ih (poll s).2

theorem heard_add (s : σ) (k l : Nat) :
    heard s (k + l) = heard s k ++ heard (afterPolls s k) l := by
  induction k generalizing s with
  | zero => simp [heard, afterPolls]
  | succ k ih =>
    rw [Nat.succ_add]
    simp only [heard, afterPolls]
    rcases poll s with ⟨_ | _ | _ | _, s'⟩ <;> simp [ih]

/-- Induction along the polls of a source, up to its first failure or end. -/
theorem poll_induction {motive : σ → Prop}
    (step : ∀ s, ((poll s).1.isFinal = false → motive (poll s).2) → motive s) (s : σ) :
    motive s := by
  -- a poll that is not final lowers the bound on the answers that are left
  induction hn : left s using Nat.strongRecOn generalizing s with
  | ind n ih =>
    apply step s
    intro hfinal
    exact ih _ (hn ▸ poll_left s hfinal) _ rfl

/-- A source does not answer `pending` for ever. -/
theorem exists_heard_ne_nil (s : σ) : ∃ k, heard s k ≠ [] := by
  induction s using poll_induction with
  | step s ih =>
    rcases hp : poll s with ⟨answer, s'⟩
    rw [hp] at ih
    cases answer with
    | pending =>
      obtain ⟨k, hk⟩ := ih rfl
      exact ⟨k + 1, by simpa [heard, hp] using hk⟩
    | next _ | failed _ | ended => exact ⟨1, by simp [heard, hp]⟩

theorem exists_le_length_heard (s : σ) (n : Nat) : ∃ k, n ≤ (heard s k).length := by
  induction n with
  | zero => exact ⟨0, Nat.zero_le _⟩
  | succ n ih =>
    obtain ⟨k, hk⟩ := ih
    obtain ⟨l, hl⟩ := exists_heard_ne_nil (afterPolls s k)
    have hpos := List.length_pos_iff.2 hl
    refine ⟨k + l, ?_⟩
    rw [heard_add, List.length_append]
    omega

/-- The source answers the items of `o`, then its final answer, and nothing but the end after
    that, with `pending` anywhere in between but not for ever. -/
structure Answers (s : σ) (o : Outcome α ε) : Prop where
  /-- However often it is polled, it has answered the first so many of these. -/
  heard_le : ∀ k, heard s k <+: o.answers ++ List.replicate k .ended
  /-- Polling it often enough gets as many answers as one likes. -/
  unbounded : ∀ n, ∃ k, n ≤ (heard s k).length

/-! ### Simulation by the outcome -/

/-- In the states that satisfy `Inv`, the source moves as the outcome that `outlook` foretells. -/
structure Foretells (Inv : σ → Prop) (outlook : σ → Outcome α ε) : Prop where
  /-- A poll keeps the invariant. -/
  inv_poll : ∀ s, Inv s → Inv (poll s).2
  /-- A poll is a step of the outcome. -/
  step_poll : ∀ s, Inv s → (outlook s).Step (poll s).1 (outlook (poll s).2)

variable {Inv : σ → Prop} {outlook : σ → Outcome α ε}

theorem answers_of_foretells (hf : Foretells Inv outlook) {s : σ} (h : Inv s) :
    Answers s (outlook s) := by
  refine ⟨fun k => ?_, exists_le_length_heard s⟩
  induction k generalizing s with
  | zero => exact List.nil_prefix
  | succ k ih =>
    have ih := ih (hf.inv_poll s h)
    have hstep := hf.step_poll s h
    -- the answers after a final one
    have hfinished : (Outcome.finished : Outcome α ε).answers ++ List.replicate k .ended =
        List.replicate k .ended ++ [.ended] := by
      rw [← List.replicate_succ']
      rfl
    rw [List.replicate_succ', ← List.append_assoc]
    simp only [heard]
    rcases hp : poll s with ⟨answer, s'⟩
    rw [hp] at ih hstep
    cases answer with
    | pending =>
      rw [show outlook s = outlook s' from hstep]
      exact ih.trans (List.prefix_append _ _)
    | next item =>
      rw [show outlook s = (outlook s').cons item from hstep]
      exact (List.prefix_cons_inj _).2 (ih.trans (List.prefix_append _ _))
    | failed e =>
      rw [hstep.2, hfinished] at ih
      rw [hstep.1]
      exact (List.prefix_cons_inj _).2 ih
    | ended =>
      rw [hstep.2, hfinished] at ih
      rw [hstep.1]
      exact (List.prefix_cons_inj _).2 ih

theorem drive_of_final {ο : Type} [Observer ο α ε] {s : σ} (h : (poll s).1.isFinal = true)
    (o : ο) : drive s o = ((poll s).2, Observer.tell o (poll s).1) := by
  rw [drive]
  split
  next answer s' hp =>
    rw [hp] at h ⊢
    exact dif_pos h

theorem drive_of_not_final {ο : Type} [Observer ο α ε] {s : σ}
    (h : (poll s).1.isFinal = false) (o : ο) :
    drive s o = drive (poll s).2 (Observer.tell o (poll s).1) := by
  rw [drive]
  split
  next answer s' hp =>
    rw [hp] at h ⊢
    exact dif_neg (by simp [h])

/-- An observer is told the items and then the final answer. -/
theorem drive_of_foretells {ο : Type} [Observer ο α ε] (hf : Foretells Inv outlook) {s : σ}
    (h : Inv s) (o : ο) : (drive s o).2 = (outlook s).answers.foldl Observer.tell o := by
  induction s using poll_induction generalizing o with
  | step s ih =>
    have hstep := hf.step_poll s h
    have ih := fun hfinal => ih hfinal (hf.inv_poll s h)
    cases hfinal : (poll s).1.isFinal with
    | true =>
      rw [drive_of_final hfinal]
      rcases hp : poll s with ⟨_ | _ | _ | _, s'⟩ <;> rw [hp] at hstep hfinal
      · cases hfinal
      · cases hfinal
      · rw [hstep.1]; rfl
      · rw [hstep.1]; rfl
    | false =>
      rw [drive_of_not_final hfinal, ih hfinal]
      rcases hp : poll s with ⟨_ | _ | _ | _, s'⟩ <;> rw [hp] at hstep hfinal
      · rw [show outlook s = outlook s' from hstep]; rfl
      · rw [show outlook s = (outlook s').cons _ from hstep]; rfl
      · cases hfinal
      · cases hfinal

end Source

/-! ### Scripts -/

namespace Script

variable {α ε : Type}

/-- What an answer carries, with what is carried `later`: octets before a failure or end, and
    the failure if it is one. -/
def carriedBy (answer : Polled Bytes ε) (later : Bytes × Option ε) : Bytes × Option ε :=
  match answer with
  | .pending => later
  | .next chunk => (chunk ++ later.1, later.2)
  | .failed e => ([], some e)
  | .ended => ([], none)

/-- What a list of answers carries before its first failure or end. Neither `pending` nor the
    way the octets are cut shows in it, and after the list there is an end. -/
def carried (answers : List (Polled Bytes ε)) : Bytes × Option ε :=
  answers.foldr carriedBy ([], none)

theorem carried_eq_poll (s : Script Bytes ε) :
    carried s.answers = carriedBy s.poll.1 (carried s.poll.2.answers) := by
  match s with
  | ⟨[], _⟩ => rfl
  | ⟨answer :: _, _⟩ => cases answer <;> rfl

/-- How many polls there are up to the first failure or end. -/
def lifetime : List (Polled α ε) → Nat
  | [] => 1
  | answer :: rest => if answer.isFinal then 1 else lifetime rest + 1

theorem lifetime_eq_poll (s : Script α ε) :
    lifetime s.answers = if s.poll.1.isFinal then 1 else lifetime s.poll.2.answers + 1 := by
  match s with
  | ⟨[], _⟩ => rfl
  | ⟨answer :: _, _⟩ => cases answer <;> rfl

/-- A script is driven to its first failure or end. -/
theorem drive_eq_afterPolls {ο : Type} [Observer ο α ε] (s : Script α ε) (o : ο) :
    (drive s o).1 = Source.afterPolls s (lifetime s.answers) := by
  induction s using Source.poll_induction generalizing o with
  | step s ih =>
    have hlife := lifetime_eq_poll s
    cases hfinal : (Source.poll s).1.isFinal with
    | true =>
      rw [if_pos (show s.poll.1.isFinal = true from hfinal)] at hlife
      rw [Source.drive_of_final hfinal, hlife]
      rfl
    | false =>
      rw [if_neg (by rw [show s.poll.1.isFinal = false from hfinal]; decide)] at hlife
      rw [Source.drive_of_not_final hfinal, ih hfinal, hlife]
      rfl

/-- The polls that a script has answered, counted from where its `pending`s would all have been
    answered already. -/
def tally (s : Script α ε) : Int :=
  s.pulled - s.answers.countP (fun answer => answer matches .pending)

theorem tally_poll (s : Script α ε) : s.poll.2.tally = s.tally + 1 := by
  match s with
  | ⟨[], _⟩ => simp [poll, tally]
  | ⟨answer :: _, _⟩ => cases answer <;> simp [poll, tally] <;> omega

theorem tally_afterPolls (s : Script α ε) (k : Nat) :
    (Source.afterPolls s k).tally = s.tally + k := by
  induction k generalizing s with
  | zero => simp [Source.afterPolls]
  | succ k ih =>
    have hpoll : (Source.poll s).2.tally = s.tally + 1 := tally_poll s
    simp only [Source.afterPolls, ih, hpoll]
    omega

/-- A script shows how often it has been polled. -/
theorem afterPolls_inj (s : Script α ε) {k l : Nat} :
    Source.afterPolls s k = Source.afterPolls s l ↔ k = l := by
  refine ⟨fun h => ?_, fun h => h ▸ rfl⟩
  have hk := tally_afterPolls s k
  have hl := tally_afterPolls s l
  rw [h] at hk
  omega

end Script

end Duplex
