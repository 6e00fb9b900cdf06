import Mathlib.Data.List.Induction
import Duplex.Disposal.Callers

/-! # The course of a disposal

  However the callers of a disposal are polled and dropped, and on however many threads, the
  disposal takes one course: it is claimed, the token fires, the teardown is made, it runs, the
  coordinator is closed, and the outcome is announced. If the teardown cannot be made, the
  caller that tried closes and announces instead. A `Course` says how far this has come and
  whose teardown it is, and that alone determines the shared state (`Course.Describes`).

  Each step of the system leaves the course where it is or moves it on by one (`step_course`),
  so a run has a course at its end, and what that says of the run holds (`run_course`).
-/

namespace Duplex.Disposal

/-! ### Courses -/

/-- How far a disposal has come. The number is that of the caller that has claimed it, and the
    ending that of its teardown. -/
inductive Course where
  /-- Nobody has claimed it. -/
  | vacant
  | claimed (i : Nat) (ending : Ending)
  /-- The token has fired. -/
  | armed (i : Nat) (ending : Ending)
  /-- The teardown is made, and no task runs it yet. -/
  | made (i : Nat) (ending : Ending)
  | running (i : Nat) (ending : Ending)
  /-- The task has closed the coordinator. -/
  | closing (i : Nat) (ending : Ending) (o : DisposeOutcome)
  | announced (i : Nat) (ending : Ending) (o : DisposeOutcome)
  /-- The teardown could not be made. -/
  | failing (i : Nat)
  /-- The caller has closed the coordinator. -/
  | failed (i : Nat)
  | givenUp (i : Nat)

namespace Course

/-- The caller that has claimed the disposal, with its teardown. -/
def winner : Course → Option (Nat × Ending)
  | vacant => none
  | claimed i e | armed i e | made i e | running i e | closing i e _ | announced i e _ =>
    some (i, e)
  | failing i | failed i | givenUp i => some (i, .failsToStart)

/-- What the winner still has to do, as long as it has not given the duty to the task. -/
def act : Course → Option (Nat × Act)
  | claimed i e => some (i, .fire e)
  | armed i e => some (i, .make e)
  | made i e => some (i, .spawn e)
  | failing i => some (i, .close)
  | failed i => some (i, .announce)
  | vacant | running .. | closing .. | announced .. | givenUp _ => none

def phase : Course → DisposalPhase
  | vacant => .active
  | claimed .. | armed .. | made .. | running .. | failing _ => .disposeRequested
  | closing .. | announced .. | failed _ | givenUp _ => .disposed

def outcome : Course → Option DisposeOutcome
  | announced _ _ o => some o
  | givenUp _ => some .aborted
  | _ => none

def task : Course → Task
  | running _ e => .running e
  | closing _ _ o => .closing o
  | announced .. => .finished
  | _ => .absent

/-- The teardowns that were made: after the token has fired, and only one. -/
def teardowns : Course → List (Nat × Bool)
  | vacant | claimed .. | armed .. => []
  | made i _ | running i _ | closing i _ _ | announced i _ _
  | failing i | failed i | givenUp i => [(i, true)]

/-- Whether the token must have fired. -/
def fired : Course → Bool
  | vacant | claimed .. => false
  | _ => true

/-- What the course says about caller `j`. -/
structure Allows (k : Course) (j : Nat) (c : Caller) : Prop where
  /-- It does nothing but look for the outcome, unless it is the winner. -/
  act : ∀ a, c.act = some a → a ≠ .look → k.act = some (j, a)
  acting : ∀ a, k.act = some (j, a) → c.act = some a
  purpose : ∀ e, k.winner = some (j, e) → c.purpose = .dispose e
  /-- It returns nothing but the outcome that was announced. -/
  returned : ∀ o, c.progress = .returned o → k.outcome = some o

/-- The state that all parties share is what the course says. -/
structure Shares (k : Course) (s : System) : Prop where
  phase : s.coordinator.phase = k.phase
  outcome : s.coordinator.outcome = k.outcome
  task : s.task = k.task
  made : s.made = k.teardowns
  token : k.fired = true → s.coordinator.token = true

/-- The system is where the course says. -/
structure Describes (k : Course) (s : System) : Prop extends k.Shares s where
  callers : ∀ j c, s.callers[j]? = some c → k.Allows j c
  winner : ∀ i e, k.winner = some (i, e) → i < s.callers.length

/-- `Step l k k'`: with this label the course goes from `k` to `k'`. -/
inductive Step : System.Label → Course → Course → Prop where
  | stay {l : System.Label} {k : Course} (h : l ≠ .abandon) : Step l k k
  | claim (i : Nat) (e : Ending) : Step (.turn i) vacant (claimed i e)
  | fire (i : Nat) (e : Ending) : Step (.turn i) (claimed i e) (armed i e)
  | make (i : Nat) (e : Ending) : Step (.turn i) (armed i e) (made i e)
  | spawn (i : Nat) (e : Ending) : Step (.turn i) (made i e) (running i e)
  | finish (i : Nat) (e : Ending) : Step .finish (running i e) (closing i e e.published)
  | abandon (i : Nat) (e : Ending) : Step .abandon (running i e) (closing i e .aborted)
  | announce (i : Nat) (e : Ending) (o : DisposeOutcome) :
      Step .announce (closing i e o) (announced i e o)
  | fail (i : Nat) : Step (.turn i) (armed i .failsToStart) (failing i)
  | close (i : Nat) : Step (.turn i) (failing i) (failed i)
  | giveUp (i : Nat) : Step (.turn i) (failed i) (givenUp i)

theorem act_ne_look (k : Course) (j : Nat) : k.act ≠ some (j, .look) := by
  cases k <;> simp [act]

/-- Only the winner has anything to do for the disposal. -/
theorem winner_of_act {k : Course} {j : Nat} {a : Act} (h : k.act = some (j, a)) :
    ∃ e, k.winner = some (j, e) := by
  cases k <;> simp_all [act, winner]

variable {k k' : Course} {l : System.Label} {i j : Nat} {c : Caller} {s : System}

/-- What a course says about a caller holds on along the course, as long as that caller has
    nothing else to do in it. -/
theorem Allows.mono (h : k.Allows j c) (hact : ∀ a, k'.act = some (j, a) ↔ k.act = some (j, a))
    (hwinner : ∀ e, k'.winner = some (j, e) → k.winner = some (j, e))
    (houtcome : ∀ o, k.outcome = some o → k'.outcome = some o) : k'.Allows j c where
  act a ha hne := (hact a).2 (h.act a ha hne)
  acting a ha := h.acting a ((hact a).1 ha)
  purpose e he := h.purpose e (hwinner e he)
  returned o ho := houtcome o (h.returned o ho)

/-- The winner goes on to its next act. -/
theorem Allows.next (h : k.Allows i c) {a : Act} (hact : k'.act = some (i, a))
    (hwinner : ∀ e, k'.winner = some (i, e) → c.purpose = .dispose e)
    (houtcome : k'.outcome = k.outcome) : k'.Allows i { c with act := some a } where
  act a' ha' _ := by
    cases ha'
    exact hact
  acting a' ha' := by
    rw [hact] at ha'
    cases ha'
    rfl
  purpose := hwinner
  returned o ho := by
    rw [houtcome]
    exact h.returned o ho

/-- A caller has nothing to do but to look, or nothing at all. -/
theorem Allows.idle {a : Option Act} (ha : a = none ∨ a = some .look)
    (hact : ∀ a, k.act ≠ some (i, a))
    (hwinner : ∀ e, k.winner = some (i, e) → c.purpose = .dispose e)
    (hreturned : ∀ o, c.progress = .returned o → k.outcome = some o) :
    k.Allows i { c with act := a } where
  act a' ha' hne := by
    rcases ha with rfl | rfl
    · cases ha'
    · cases ha'
      exact absurd rfl hne
  acting a' ha' := absurd ha' (hact a')
  purpose := hwinner
  returned := hreturned

/-- A step of the course changes nothing for a caller that does not take it. -/
theorem Step.allows_other (hstep : Step l k k') (hl : l ≠ .turn j) (h : k.Allows j c) :
    k'.Allows j c := by
  apply h.mono
  · intro a
    cases hstep <;> simp_all [Course.act]
  · intro e he
    cases hstep <;> simp_all [Course.winner]
  · intro o ho
    cases hstep <;> simp_all [Course.outcome]

theorem Step.winner_eq (hstep : Step l k k') {e : Ending} (h : k'.winner = some (i, e)) :
    k.winner = some (i, e) ∨ l = .turn i := by
  cases hstep <;> simp_all [Course.winner]

/-! ### One step -/

/-- What a caller does in the course of its poll is a step of the course. -/
theorem step_perform (h : k.Describes s) (hc : s.callers[i]? = some c) {a : Act}
    (ha : c.act = some a) :
    ∃ k', Step (.turn i) k k' ∧ k'.Shares (s.perform i c a).1 ∧
      k'.Allows i (s.perform i c a).2 := by
  have hallows := h.callers i c hc
  have hne : (System.Label.turn i) ≠ .abandon := by simp
  cases a with
  | look =>
    -- nothing happens to the disposal, and what the caller sees is what was announced
    refine ⟨k, .stay hne, h.toShares, ?_⟩
    have hact : ∀ a, k.act ≠ some (i, a) := by
      intro a hka
      have heq := hallows.acting a hka
      rw [ha] at heq
      cases heq
      exact act_ne_look k i hka
    simp only [System.perform, System.look]
    split
    · next o ho =>
      refine (Allows.idle (c := { c with progress := .returned o }) (.inl rfl) hact
        hallows.purpose ?_)
      intro o' ho'
      cases ho'
      rw [← h.outcome]
      exact ho
    · refine (Allows.idle (c := { c with progress := .waiting }) (.inl rfl) hact
        hallows.purpose ?_)
      intro o' ho'
      cases ho'
  | fire e =>
    have hk := hallows.act _ ha (by simp)
    cases k <;> cases hk
    refine ⟨.armed i e, .fire i e, ?_, hallows.next rfl (hallows.purpose) rfl⟩
    exact ⟨h.phase, h.outcome, h.task, h.made, fun _ => rfl⟩
  | make e =>
    have hk := hallows.act _ ha (by simp)
    cases k <;> cases hk
    have htoken : s.coordinator.token = true := h.token rfl
    have hmade : s.made ++ [(i, s.coordinator.token)] = [(i, true)] := by
      rw [h.made, htoken]
      rfl
    by_cases he : e = .failsToStart
    · subst he
      refine ⟨.failing i, .fail i, ?_, hallows.next rfl hallows.purpose rfl⟩
      exact ⟨h.phase, h.outcome, h.task, hmade, fun _ => htoken⟩
    · refine ⟨.made i e, .make i e, ?_, ?_⟩
      · exact ⟨h.phase, h.outcome, h.task, hmade, fun _ => htoken⟩
      · simp only [System.perform, System.make, if_neg he]
        exact hallows.next rfl hallows.purpose rfl
  | spawn e =>
    have hk := hallows.act _ ha (by simp)
    cases k <;> cases hk
    refine ⟨.running i e, .spawn i e, ?_, ?_⟩
    · exact ⟨h.phase, h.outcome, rfl, h.made, h.token⟩
    · exact .idle (.inr rfl) (by simp [act]) hallows.purpose hallows.returned
  | close =>
    have hk := hallows.act _ ha (by simp)
    cases k <;> cases hk
    refine ⟨.failed i, .close i, ?_, hallows.next rfl hallows.purpose rfl⟩
    exact ⟨rfl, h.outcome, h.task, h.made, h.token⟩
  | announce =>
    have hk := hallows.act _ ha (by simp)
    cases k <;> cases hk
    refine ⟨.givenUp i, .giveUp i, ?_, ?_⟩
    · exact ⟨h.phase, rfl, h.task, h.made, h.token⟩
    · exact .idle (c := { c with progress := .panicked }) (.inl rfl) (by simp [act])
        hallows.purpose (by simp)

/-- So is beginning a poll. -/
theorem step_startPoll (h : k.Describes s) (hc : s.callers[i]? = some c) (hact : c.act = none)
    {t : System} {c' : Caller} (hstart : s.startPoll c = some (t, c')) :
    ∃ k', Step (.turn i) k k' ∧ k'.Shares t ∧ k'.Allows i c' := by
  have hallows := h.callers i c hc
  have hne : (System.Label.turn i) ≠ .abandon := by simp
  have hnone : ∀ a, k.act ≠ some (i, a) := by
    intro a hka
    rw [hallows.acting a hka] at hact
    cases hact
  have hlook : k.Allows i { c with act := some .look } :=
    .idle (.inr rfl) hnone hallows.purpose hallows.returned
  unfold System.startPoll at hstart
  split at hstart
  · next e hprogress hpurpose =>
    by_cases hphase : s.coordinator.phase = .active
    · -- nobody has claimed the disposal, so this caller has nothing to return either
      rw [Coordinator.claim_of_active hphase] at hstart
      cases hstart
      have hk : k = .vacant := by
        have heq := h.phase.symm.trans hphase
        cases k <;> cases heq
        rfl
      subst hk
      refine ⟨.claimed i e, .claim i e, ?_, ?_⟩
      · exact ⟨rfl, h.outcome, h.task, h.made, by simp [fired]⟩
      · apply hallows.next rfl
        · intro e' he'
          cases he'
          exact hpurpose
        · rfl
    · rw [Coordinator.claim_of_not_active hphase] at hstart
      cases hstart
      exact ⟨k, .stay hne, h.toShares, hlook⟩
  · cases hstart
    exact ⟨k, .stay hne, h.toShares, hlook⟩
  · cases hstart
    exact ⟨k, .stay hne, h.toShares, hlook⟩
  all_goals cases hstart

/-- A step that no caller takes. -/
theorem Describes.of_other (h : k.Describes s) (hstep : Step l k k') (hl : ∀ j, l ≠ .turn j)
    {s' : System} (hshares : k'.Shares s') (hcallers : s'.callers = s.callers) :
    k'.Describes s' where
  toShares := hshares
  callers j c hc := by
    rw [hcallers] at hc
    exact hstep.allows_other (hl j) (h.callers j c hc)
  winner i e he := by
    rw [hcallers]
    exact h.winner i e ((hstep.winner_eq he).resolve_right (hl i))

/-- A change of one caller, with whatever else it brings about. -/
theorem Describes.set (h : k.Describes s) (hc : s.callers[i]? = some c) {c' : Caller} {t : System}
    (hstep : Step l k k') (hl : ∀ j, j ≠ i → l ≠ .turn j) (hshares : k'.Shares t)
    (hself : k'.Allows i c') : k'.Describes { t with callers := s.callers.set i c' } where
  phase := hshares.phase
  outcome := hshares.outcome
  task := hshares.task
  made := hshares.made
  token := hshares.token
  callers j d hd := by
    by_cases hj : j = i
    · subst hj
      have hlt := (List.getElem?_eq_some_iff.1 hc).1
      rw [List.getElem?_set_self hlt] at hd
      cases hd
      exact hself
    · rw [List.getElem?_set_ne (Ne.symm hj)] at hd
      exact hstep.allows_other (hl j hj) (h.callers j d hd)
  winner j e he := by
    rw [List.length_set]
    by_cases hj : j = i
    · subst hj
      exact (List.getElem?_eq_some_iff.1 hc).1
    · exact h.winner j e ((hstep.winner_eq he).resolve_right (hl j hj))

/-- Every step of the system leaves the course where it is or moves it on by one. -/
theorem step_course (h : k.Describes s) {s' : System} (hstep : s.step? l = some s') :
    ∃ k', Step l k k' ∧ k'.Describes s' := by
  cases l with
  | create purpose =>
    cases hstep
    refine ⟨k, .stay (by simp), ⟨h.phase, h.outcome, h.task, h.made, h.token⟩, ?_, ?_⟩
    · intro j d hd
      by_cases hj : j < s.callers.length
      · rw [List.getElem?_append_left hj] at hd
        exact h.callers j d hd
      · -- the new caller was never polled, and is not the winner
        obtain rfl : d = { purpose } := by
          rw [List.getElem?_append_right (Nat.le_of_not_lt hj)] at hd
          exact (List.mem_singleton.1 (List.mem_of_getElem? hd))
        have hwinner : ∀ e, k.winner ≠ some (j, e) := fun e he => hj (h.winner j e he)
        refine ⟨by simp, ?_, ?_, by simp⟩
        · intro a ha
          obtain ⟨e, he⟩ := winner_of_act ha
          exact absurd he (hwinner e)
        · intro e he
          exact absurd he (hwinner e)
    · intro i e he
      have hlt := h.winner i e he
      rw [List.length_append]
      omega
  | turn i =>
    obtain ⟨c, t, c', hc, hturn, rfl⟩ := System.step_turn_eq_some.1 hstep
    have hother : ∀ j, j ≠ i → System.Label.turn i ≠ .turn j := by
      intro j hj hl
      cases hl
      exact hj rfl
    cases hact : c.act with
    | some a =>
      obtain ⟨k', hk', hshares, hself⟩ := step_perform h hc hact
      have heq : s.perform i c a = (t, c') := by
        simp only [System.turn, hact, Option.some.injEq] at hturn
        exact hturn
      rw [heq] at hshares hself
      exact ⟨k', hk', h.set hc hk' hother hshares hself⟩
    | none =>
      simp only [System.turn, hact] at hturn
      obtain ⟨k', hk', hshares, hself⟩ := step_startPoll h hc hact hturn
      exact ⟨k', hk', h.set hc hk' hother hshares hself⟩
  | drop i =>
    simp only [System.step?, Option.bind_eq_bind, Option.bind_eq_some_iff] at hstep
    obtain ⟨c, hc, hdrop⟩ := hstep
    split at hdrop
    · cases hdrop
      have hallows := h.callers i c hc
      have hstay : Step (.drop i) k k := .stay (by simp)
      refine ⟨k, hstay, h.set hc hstay (by simp) h.toShares ?_⟩
      exact ⟨hallows.act, hallows.acting, hallows.purpose, by simp⟩
    · cases hdrop
  | fireToken =>
    cases hstep
    have hstay : Step .fireToken k k := .stay (by simp)
    refine ⟨k, hstay, h.of_other hstay (by simp) ?_ rfl⟩
    exact ⟨h.phase, h.outcome, h.task, h.made, fun _ => rfl⟩
  | finish =>
    simp only [System.step?] at hstep
    split at hstep
    · next e htask =>
      cases hstep
      have hk := h.task.symm.trans htask
      cases k <;> cases hk
      next i =>
      have hmove : Step .finish (.running i e) (.closing i e e.published) := .finish i e
      refine ⟨_, hmove, h.of_other hmove (by simp) ?_ rfl⟩
      exact ⟨rfl, h.outcome, rfl, h.made, h.token⟩
    · cases hstep
  | abandon =>
    simp only [System.step?] at hstep
    split at hstep
    · next e htask =>
      cases hstep
      have hk := h.task.symm.trans htask
      cases k <;> cases hk
      next i =>
      have hmove : Step .abandon (.running i e) (.closing i e .aborted) := .abandon i e
      refine ⟨_, hmove, h.of_other hmove (by simp) ?_ rfl⟩
      exact ⟨rfl, h.outcome, rfl, h.made, h.token⟩
    · cases hstep
  | announce =>
    simp only [System.step?] at hstep
    split at hstep
    · next o htask =>
      cases hstep
      have hk := h.task.symm.trans htask
      cases k <;> cases hk
      next i e =>
      have hmove : Step .announce (.closing i e o) (.announced i e o) := .announce i e o
      refine ⟨_, hmove, h.of_other hmove (by simp) ?_ rfl⟩
      exact ⟨h.phase, rfl, rfl, h.made, h.token⟩
    · cases hstep

/-! ### Runs -/

/-- What the labels so far say about the outcome that is to be announced: it is that of the
    teardown, unless its task was dropped. -/
def Told (labels : List System.Label) : Course → Prop
  | closing _ e o | announced _ e o => o = if .abandon ∈ labels then .aborted else e.published
  | _ => .abandon ∉ labels

theorem Step.told (hstep : Step l k k') {labels : List System.Label} (h : k.Told labels) :
    k'.Told (labels ++ [l]) := by
  cases hstep with
  | stay hl =>
    have hmem : System.Label.abandon ∈ labels ++ [l] ↔ .abandon ∈ labels := by
      simp [Ne.symm hl]
    cases k <;> simpa only [Told, hmem] using h
  | abandon i e => simp [Told]
  | finish i e =>
    -- the teardown has ended as it would, since its task was not dropped
    have hmem : System.Label.abandon ∉ labels ++ [.finish] := by simpa [Told] using h
    exact (if_neg hmem).symm
  | announce i e o => simpa [Told] using h
  | claim i e | fire i e | make i e | spawn i e => simpa [Told] using h
  | fail i | close i | giveUp i => simpa [Told] using h

/-- The phase goes forward by one, or stays. -/
theorem Step.phase (hstep : Step l k k') :
    k'.phase = k.phase ∨ (k.phase = .active ∧ k'.phase = .disposeRequested) ∨
      (k.phase = .disposeRequested ∧ k'.phase = .disposed) := by
  cases hstep <;> simp [Course.phase]

/-- An outcome that was announced stays. -/
theorem Step.outcome (hstep : Step l k k') : k'.outcome = k.outcome ∨ k.outcome = none := by
  cases hstep <;> simp [Course.outcome]

end Course

namespace System

theorem run?_append (s : System) (before after : List Label) :
    s.run? (before ++ after) = (s.run? before).bind (·.run? after) := by
  induction before generalizing s with
  | nil => rfl
  | cons l before ih =>
    simp only [List.cons_append, run?]
    cases s.step? l with
    | none => rfl
    | some t => exact ih t

theorem run?_concat (s : System) (before : List Label) (l : Label) :
    s.run? (before ++ [l]) = (s.run? before).bind (·.step? l) := by
  rw [run?_append]
  congr 1
  funext t
  simp only [run?]
  cases t.step? l <;> rfl

end System

/-- Among these steps is the one by which caller `i` has asked for the disposal first. -/
def Won (labels : List System.Label) (i : Nat) : Prop :=
  ∃ before after s s', labels = before ++ .turn i :: after ∧ System.run? {} before = some s ∧
    s.step? (.turn i) = some s' ∧
    s.coordinator.phase = .active ∧ s'.coordinator.phase = .disposeRequested

theorem Won.append {labels : List System.Label} {i : Nat} (h : Won labels i)
    (more : List System.Label) : Won (labels ++ more) i := by
  obtain ⟨before, after, s, s', rfl, hwon⟩ := h
  exact ⟨before, after ++ more, s, s', by simp, hwon⟩

/-- What a run has come to: a course that says where the system is, whose winner has won, and
    whose outcome is the one that the labels tell. -/
theorem run_course {labels : List System.Label} {s : System} (h : System.run? {} labels = some s) :
    ∃ k : Course, k.Describes s ∧ (∀ i e, k.winner = some (i, e) → Won labels i) ∧
      k.Told labels := by
  -- by induction along the run, with the last step taken off
  induction labels using List.reverseRecOn generalizing s with
  | nil =>
    cases h
    refine ⟨.vacant, ⟨⟨rfl, rfl, rfl, rfl, by simp [Course.fired]⟩, by simp, ?_⟩, ?_, ?_⟩
    · intro i e he
      cases he
    · intro i e he
      cases he
    · simp [Course.Told]
  | append_singleton labels l ih =>
    rw [System.run?_concat, Option.bind_eq_some_iff] at h
    obtain ⟨t, hrun, hstep⟩ := h
    obtain ⟨k, hdescribes, hwon, htold⟩ := ih hrun
    obtain ⟨k', hk', hdescribes'⟩ := Course.step_course hdescribes hstep
    refine ⟨k', hdescribes', ?_, hk'.told htold⟩
    intro i e he
    cases hk' with
    | claim i' e' =>
      -- this is the step that wins
      cases he
      exact ⟨labels, [], t, s, rfl, hrun, hstep, hdescribes.phase, hdescribes'.phase⟩
    | stay _ => exact (hwon i e he).append _
    | fire _ _ | make _ _ | spawn _ _ | finish _ _ | abandon _ _ | announce _ _ _
    | fail _ | close _ | giveUp _ =>
      cases he
      exact (hwon _ _ rfl).append _

end Duplex.Disposal
