import Duplex.Disposal.Scenario
import Duplex.Proofs.Course

/-! # A resource is disposed of once

  What the course of a disposal determines is settled by looking at its moves: the teardown is
  made once, by the caller that claimed the disposal, and the outcome is announced once. What
  it does not determine is what the callers would do without one of them. For that the run is
  compared with one in which a caller was dropped (`SameBut`).
-/

namespace Duplex.Disposal

/-! ### Dropping a caller -/

namespace System

/-- What a caller does depends on no other caller. -/
theorem perform_withCallers (s : System) (callers : List Caller) (i : Nat) (c : Caller) (a : Act) :
    perform { s with callers } i c a =
      ({ (s.perform i c a).1 with callers }, (s.perform i c a).2) := by
  cases a <;> rfl

theorem startPoll_withCallers (s : System) (callers : List Caller) (c : Caller) :
    startPoll { s with callers } c =
      (s.startPoll c).map fun (s', c') => ({ s' with callers }, c') := by
  unfold startPoll
  split
  · dsimp only
    rcases s.coordinator.claim with ⟨_ | _, coordinator⟩ <;> rfl
  all_goals rfl

theorem turn_withCallers (s : System) (callers : List Caller) (i : Nat) (c : Caller) :
    turn { s with callers } i c =
      (s.turn i c).map fun (s', c') => ({ s' with callers }, c') := by
  unfold turn
  cases c.act with
  | some a => exact congrArg some (perform_withCallers s callers i c a)
  | none => exact startPoll_withCallers s callers c

end System

/-- The caller that moves with this label. -/
def System.Label.caller? : System.Label → Option Nat
  | .turn i | .drop i => some i
  | .create _ | .fireToken | .finish | .abandon | .announce => none

/-- The two systems are the same but for the state of caller `i`. -/
structure SameBut (i : Nat) (s t : System) : Prop where
  coordinator : t.coordinator = s.coordinator
  task : t.task = s.task
  made : t.made = s.made
  length : t.callers.length = s.callers.length
  others : ∀ j, j ≠ i → t.callers[j]? = s.callers[j]?

/-- The caller has been polled and has nothing to do for the disposal. -/
structure Caller.Waits (c : Caller) : Prop where
  act : c.act = none ∨ c.act = some .look
  progress : c.progress ≠ .created

namespace SameBut

variable {i : Nat} {s t : System}

theorem refl (i : Nat) (s : System) : SameBut i s s := ⟨rfl, rfl, rfl, rfl, fun _ _ => rfl⟩

theorem symm (h : SameBut i s t) : SameBut i t s where
  coordinator := h.coordinator.symm
  task := h.task.symm
  made := h.made.symm
  length := h.length.symm
  others j hj := (h.others j hj).symm

/-- A change of caller `i` alone. -/
theorem of_set (h : SameBut i s t) (c : Caller) :
    SameBut i { s with callers := s.callers.set i c } t where
  coordinator := h.coordinator
  task := h.task
  made := h.made
  length := by
    rw [List.length_set]
    exact h.length
  others j hj := by
    rw [List.getElem?_set_ne (Ne.symm hj)]
    exact h.others j hj

theorem eq_with (h : SameBut i s t) : t = { s with callers := t.callers } := by
  obtain ⟨coordinator, callers, task, made⟩ := s
  obtain ⟨coordinator', callers', task', made'⟩ := t
  obtain ⟨rfl, rfl, rfl, -, -⟩ := h
  rfl

/-- A change elsewhere that is the same in both. -/
theorem of_shared (h : SameBut i s t) {coordinator : Coordinator} {task : Task}
    {made : List (Nat × Bool)} {callers callers' : List Caller}
    (hlength : callers'.length = callers.length)
    (hothers : ∀ j, j ≠ i → t.callers[j]? = s.callers[j]? → callers'[j]? = callers[j]?) :
    SameBut i ⟨coordinator, callers, task, made⟩ ⟨coordinator, callers', task, made⟩ where
  coordinator := rfl
  task := rfl
  made := rfl
  length := hlength
  others j hj := hothers j hj (h.others j hj)

/-- A step of anybody else goes the same way in both systems. -/
theorem step_other (h : SameBut i s t) (hi : i < s.callers.length) {l : System.Label}
    (hl : l.caller? ≠ some i) {s' : System} (hstep : s.step? l = some s') :
    s'.callers[i]? = s.callers[i]? ∧ ∃ t', t.step? l = some t' ∧ SameBut i s' t' := by
  rw [h.eq_with]
  cases l with
  | create purpose =>
    cases hstep
    refine ⟨List.getElem?_append_left hi, _, rfl, h.of_shared ?_ ?_⟩
    · simp [h.length]
    · intro j hj heq
      simp only [List.getElem?_append, h.length, heq]
  | turn j =>
    have hj : j ≠ i := fun hji => hl (by rw [hji]; rfl)
    obtain ⟨c, u, c', hc, hturn, rfl⟩ := System.step_turn_eq_some.1 hstep
    refine ⟨List.getElem?_set_ne hj, { u with callers := t.callers.set j c' }, ?_, ?_⟩
    · refine System.step_turn_eq_some.2 ⟨c, { u with callers := t.callers }, c', ?_, ?_, rfl⟩
      · rw [← hc]
        exact h.others j hj
      · rw [System.turn_withCallers, hturn]
        rfl
    · refine h.of_shared (by simp [h.length]) ?_
      intro m hm heq
      simp only [List.getElem?_set, h.length, heq]
  | drop j =>
    have hj : j ≠ i := fun hji => hl (by rw [hji]; rfl)
    simp only [System.step?, Option.bind_eq_bind, Option.bind_eq_some_iff] at hstep ⊢
    obtain ⟨c, hc, hdrop⟩ := hstep
    split at hdrop
    · next hdroppable =>
      cases hdrop
      refine ⟨List.getElem?_set_ne hj, _, ⟨c, ?_, if_pos hdroppable⟩, ?_⟩
      · rw [← hc]
        exact h.others j hj
      · refine h.of_shared (by simp [h.length]) ?_
        intro m hm heq
        simp only [List.getElem?_set, h.length, heq]
    · cases hdrop
  | fireToken =>
    cases hstep
    exact ⟨rfl, _, rfl, h.of_shared h.length fun _ _ heq => heq⟩
  | finish | abandon | announce =>
    simp only [System.step?] at hstep ⊢
    split at hstep
    · cases hstep
      exact ⟨rfl, _, rfl, h.of_shared h.length fun _ _ heq => heq⟩
    · cases hstep

end SameBut

/-- A caller that waits does nothing but look for the outcome. -/
theorem Caller.Waits.turn {c c' : Caller} (h : c.Waits) {s t : System} {i : Nat}
    (hturn : s.turn i c = some (t, c')) : t = s ∧ c'.Waits := by
  rcases h.act with hact | hact
  · -- its next poll
    simp only [System.turn, hact, System.startPoll] at hturn
    split at hturn
    · next hprogress _ => exact absurd hprogress h.progress
    · next hprogress _ => exact absurd hprogress h.progress
    · next hprogress =>
      cases hturn
      exact ⟨rfl, .inr rfl, h.progress⟩
    all_goals cases hturn
  · simp only [System.turn, hact, System.perform, System.look, Option.some.injEq,
      Prod.mk.injEq] at hturn
    obtain ⟨rfl, rfl⟩ := hturn
    refine ⟨rfl, ?_⟩
    split <;> exact ⟨.inl rfl, by simp⟩

/-- It leaves everything as it is but itself. -/
theorem SameBut.step_waits {i : Nat} {s t : System} (h : SameBut i s t) {c : Caller}
    (hc : s.callers[i]? = some c) (hw : c.Waits) {l : System.Label} (hl : l.caller? = some i)
    {s' : System} (hstep : s.step? l = some s') :
    SameBut i s' t ∧ ∃ c', s'.callers[i]? = some c' ∧ c'.Waits := by
  have hlt : i < s.callers.length := (List.getElem?_eq_some_iff.1 hc).1
  cases l with
  | turn j =>
    cases hl
    obtain ⟨d, u, c', hd, hturn, rfl⟩ := System.step_turn_eq_some.1 hstep
    rw [hc] at hd
    cases hd
    obtain ⟨rfl, hw'⟩ := hw.turn hturn
    exact ⟨h.of_set c', c', List.getElem?_set_self hlt, hw'⟩
  | drop j =>
    cases hl
    simp only [System.step?, Option.bind_eq_bind, Option.bind_eq_some_iff] at hstep
    obtain ⟨d, hd, hdrop⟩ := hstep
    rw [hc] at hd
    cases hd
    split at hdrop
    · cases hdrop
      refine ⟨h.of_set _, _, List.getElem?_set_self hlt, hw.act, by simp⟩
    · cases hdrop
  | create _ | fireToken | finish | abandon | announce => cases hl

/-- The labels of everybody but caller `i`. -/
def without (i : Nat) (labels : List System.Label) : List System.Label :=
  labels.filter fun l => l.caller? ≠ some i

/-- Where caller `i` waits, what the others do is the same without it. -/
theorem SameBut.run_without {i : Nat} {s t : System} (h : SameBut i s t) {c : Caller}
    (hc : s.callers[i]? = some c) (hw : c.Waits) {after : List System.Label} {s' : System}
    (hrun : s.run? after = some s') :
    ∃ t', t.run? (without i after) = some t' ∧ SameBut i s' t' := by
  induction after generalizing s t c with
  | nil =>
    cases hrun
    exact ⟨t, rfl, h⟩
  | cons l after ih =>
    simp only [System.run?, Option.bind_eq_some_iff] at hrun
    obtain ⟨u, hstep, hrest⟩ := hrun
    by_cases hl : l.caller? = some i
    · have hfilter : without i (l :: after) = without i after :=
        List.filter_cons_of_neg (by simp [hl])
      obtain ⟨hsame, c', hc', hw'⟩ := h.step_waits hc hw hl hstep
      rw [hfilter]
      exact ih hsame hc' hw' hrest
    · have hfilter : without i (l :: after) = l :: without i after :=
        List.filter_cons_of_pos (by simp [hl])
      obtain ⟨hself, u', hstep', hsame⟩ :=
        h.step_other (List.getElem?_eq_some_iff.1 hc).1 hl hstep
      obtain ⟨t', hrun', hsame'⟩ := ih hsame (hself.trans hc) hw hrest
      refine ⟨t', ?_, hsame'⟩
      rw [hfilter, System.run?, hstep']
      exact hrun'

/-- A caller that was dropped does nothing any more, so others cannot miss it. -/
theorem SameBut.run_dropped {i : Nat} {s t : System} (h : SameBut i s t) {c : Caller}
    (hc : t.callers[i]? = some c) (hdropped : c.progress = .dropped) (hact : c.act = none)
    {after : List System.Label} {t' : System} (hrun : t.run? after = some t') :
    ∃ s', s.run? after = some s' ∧ SameBut i s' t' := by
  induction after generalizing s t with
  | nil =>
    cases hrun
    exact ⟨s, rfl, h⟩
  | cons l after ih =>
    simp only [System.run?, Option.bind_eq_some_iff] at hrun
    obtain ⟨u, hstep, hrest⟩ := hrun
    have hl : l.caller? ≠ some i := by
      intro hl
      cases l with
      | turn j =>
        cases hl
        obtain ⟨d, v, c', hd, hturn, -⟩ := System.step_turn_eq_some.1 hstep
        rw [hc] at hd
        cases hd
        simp [System.turn, hact, System.startPoll, hdropped] at hturn
      | drop j =>
        cases hl
        simp [System.step?, hc, Caller.droppable, hdropped] at hstep
      | create _ | fireToken | finish | abandon | announce => cases hl
    obtain ⟨hself, u', hstep', hsame⟩ :=
      h.symm.step_other (List.getElem?_eq_some_iff.1 hc).1 hl hstep
    obtain ⟨s', hrun', hsame'⟩ := ih hsame.symm (hself.trans hc) hrest
    refine ⟨s', ?_, hsame'⟩
    rw [System.run?, hstep']
    exact hrun'

/-! ### Safety -/

/-- What the callers are owed after these steps, for a teardown that comes to this. -/
inductive Owed (labels : List System.Label) : Ending → DisposeOutcome → Prop where
  /-- A teardown that ends owes them its own outcome, if its task was not dropped. -/
  | own {o : DisposeOutcome} : .abandon ∉ labels → Owed labels (.outcome o) o
  /-- They learn that one which panics while it runs was cut short, -/
  | panicked : Owed labels .panics .aborted
  /-- and so they do if it panics while it is being made, -/
  | notMade : Owed labels .failsToStart .aborted
  /-- or if its task was dropped. -/
  | abandoned {ending : Ending} : .abandon ∈ labels → Owed labels ending .aborted

theorem owed_published {labels : List System.Label} (h : .abandon ∉ labels) (ending : Ending) :
    Owed labels ending ending.published := by
  cases ending with
  | outcome o => exact .own h
  | panics => exact .panicked
  | failsToStart => exact .notMade

/-- What is true wherever the steps `labels` have led to. -/
structure Safe (labels : List System.Label) (s : System) : Prop where
  /-- At most one teardown was made: by the caller that asked first, after the token fired. -/
  once : s.made = [] ∨ ∃ i, s.made = [(i, true)] ∧ Won labels i
  /-- Only one caller asked first. -/
  winner : ∀ i j, Won labels i → Won labels j → i = j
  /-- In each step so far the phase went forward by one or stayed, and an outcome that was
      announced stayed. -/
  forward : ∀ before l after t t', labels = before ++ l :: after →
    System.run? {} before = some t → t.step? l = some t' →
    (t'.coordinator.phase = t.coordinator.phase ∨
      (t.coordinator.phase = .active ∧ t'.coordinator.phase = .disposeRequested) ∨
      (t.coordinator.phase = .disposeRequested ∧ t'.coordinator.phase = .disposed)) ∧
    (t'.coordinator.outcome = t.coordinator.outcome ∨ t.coordinator.outcome = none)
  /-- Where an outcome was announced the coordinator is closed. -/
  closed : ∀ o, s.coordinator.outcome = some o → s.coordinator.phase = .disposed
  /-- That outcome is what the teardown of the caller that asked first owes to all of them. -/
  outcome : ∀ o, s.coordinator.outcome = some o → ∃ i c ending, Won labels i ∧
    s.callers[i]? = some c ∧ c.purpose = .dispose ending ∧ Owed labels ending o
  /-- A caller returns only what was announced. -/
  returned : ∀ (j : Nat) (c : Caller) o, s.callers[j]? = some c → c.progress = .returned o →
    s.coordinator.outcome = some o
  /-- A caller that waits may be dropped: what the others do afterwards and where it leads for
      them is the same as without that. -/
  dropped : ∀ (i : Nat) (c : Caller), s.callers[i]? = some c → c.progress = .waiting →
    c.act = none → ∀ after,
      (∀ s', s.run? after = some s' →
        ∃ t', s.run? (.drop i :: without i after) = some t' ∧ SameBut i s' t') ∧
      (∀ t', s.run? (.drop i :: after) = some t' →
        ∃ s', s.run? after = some s' ∧ SameBut i s' t')

/-- A step of a run moves the phase forward by one or not at all, and leaves an outcome that was
    announced. -/
theorem step_forward {before : List System.Label} {t t' : System} {l : System.Label}
    (hrun : System.run? {} before = some t) (hstep : t.step? l = some t') :
    (t'.coordinator.phase = t.coordinator.phase ∨
      (t.coordinator.phase = .active ∧ t'.coordinator.phase = .disposeRequested) ∨
      (t.coordinator.phase = .disposeRequested ∧ t'.coordinator.phase = .disposed)) ∧
    (t'.coordinator.outcome = t.coordinator.outcome ∨ t.coordinator.outcome = none) := by
  obtain ⟨k, hk, -, -⟩ := run_course hrun
  obtain ⟨k', hmove, hk'⟩ := Course.step_course hk hstep
  rw [hk.phase, hk.outcome, hk'.phase, hk'.outcome]
  exact ⟨hmove.phase, hmove.outcome⟩

/-- Once the disposal was asked for it stays asked for. -/
theorem ne_active_of_run {before after : List System.Label} {t u : System}
    (hrun : System.run? {} before = some t) (ht : t.coordinator.phase ≠ .active)
    (hafter : t.run? after = some u) : u.coordinator.phase ≠ .active := by
  induction after generalizing before t with
  | nil =>
    cases hafter
    exact ht
  | cons l after ih =>
    simp only [System.run?, Option.bind_eq_some_iff] at hafter
    obtain ⟨t', hstep, hrest⟩ := hafter
    have hrun' : System.run? {} (before ++ [l]) = some t' := by
      rw [System.run?_concat, hrun]
      exact hstep
    have ht' : t'.coordinator.phase ≠ .active := by
      rcases (step_forward hrun hstep).1 with hsame | ⟨hactive, -⟩ | ⟨-, hdisposed⟩
      · rw [hsame]
        exact ht
      · exact absurd hactive ht
      · rw [hdisposed]
        decide
    exact ih hrun' ht' hrest

/-- Nobody can ask first after somebody has. -/
theorem not_active_after_claim {before between : List System.Label} {i : Nat} {s s' u : System}
    (hrun : System.run? {} before = some s) (hstep : s.step? (.turn i) = some s')
    (hs' : s'.coordinator.phase = .disposeRequested)
    (hu : System.run? {} (before ++ .turn i :: between) = some u) :
    u.coordinator.phase ≠ .active := by
  have hrun' : System.run? {} (before ++ [.turn i]) = some s' := by
    rw [System.run?_concat, hrun]
    exact hstep
  rw [show before ++ .turn i :: between = (before ++ [.turn i]) ++ between by simp,
    System.run?_append, hrun'] at hu
  exact ne_active_of_run hrun' (by rw [hs']; decide) hu

theorem Won.unique {labels : List System.Label} {i j : Nat} (hi : Won labels i)
    (hj : Won labels j) : i = j := by
  obtain ⟨b, a, s, s', hlabels, hrun, hstep, hactive, hasked⟩ := hi
  obtain ⟨b₂, a₂, s₂, s₂', hlabels₂, hrun₂, hstep₂, hactive₂, hasked₂⟩ := hj
  rw [hlabels] at hlabels₂
  -- one of the two comes first, unless they are the same step
  rcases List.append_eq_append_iff.1 hlabels₂ with ⟨m, hm, hrest⟩ | ⟨m, hm, hrest⟩
  · cases m with
    | nil =>
      cases hrest
      rfl
    | cons l m =>
      cases hrest
      rw [hm] at hrun₂
      exact absurd hactive₂ (not_active_after_claim hrun hstep hasked hrun₂)
  · cases m with
    | nil =>
      cases hrest
      rfl
    | cons l m =>
      cases hrest
      rw [hm] at hrun
      exact absurd hactive (not_active_after_claim hrun₂ hstep₂ hasked₂ hrun)

/-- **A resource is disposed of once.** Wherever its callers, its task and whoever fires the
    token have brought it, one step at a time and in any order, the disposal is safe. -/
theorem safe_of_run {labels : List System.Label} {s : System}
    (h : System.run? {} labels = some s) : Safe labels s := by
  obtain ⟨k, hk, hwon, htold⟩ := run_course h
  refine ⟨?_, fun i j => Won.unique, ?_, ?_, ?_, ?_, ?_⟩
  · rw [hk.made]
    cases k with
    | vacant | claimed _ _ | armed _ _ => exact .inl rfl
    | made i _ | running i _ | closing i _ _ | announced i _ _ | failing i | failed i
    | givenUp i => exact .inr ⟨i, rfl, hwon i _ rfl⟩
  · intro before l after t t' _ hrun hstep
    exact step_forward hrun hstep
  · intro o ho
    rw [hk.outcome] at ho
    rw [hk.phase]
    cases k <;> cases ho <;> rfl
  · intro o ho
    rw [hk.outcome] at ho
    obtain ⟨i, e, hwinner, howed⟩ : ∃ i e, k.winner = some (i, e) ∧ Owed labels e o := by
      cases k with
      | announced i e o' =>
        cases ho
        -- the task has announced what the teardown came to, unless it was dropped before that
        have hpublished : o = if .abandon ∈ labels then .aborted else e.published := htold
        refine ⟨i, e, rfl, ?_⟩
        rw [hpublished]
        split
        · next habandoned => exact .abandoned habandoned
        · next hkept => exact owed_published hkept e
      | givenUp i =>
        cases ho
        exact ⟨i, .failsToStart, rfl, .notMade⟩
      | _ => cases ho
    have hlt : i < s.callers.length := hk.winner i e hwinner
    have hc : s.callers[i]? = some s.callers[i] := List.getElem?_eq_getElem hlt
    exact ⟨i, s.callers[i], e, hwon i e hwinner, hc, (hk.callers i _ hc).purpose e hwinner, howed⟩
  · intro j c o hc ho
    rw [hk.outcome]
    exact (hk.callers j c hc).returned o ho
  · intro i c hc hwaiting hact after
    have hlt : i < s.callers.length := (List.getElem?_eq_some_iff.1 hc).1
    let t : System := { s with callers := s.callers.set i { c with progress := .dropped } }
    have hdrop : s.step? (.drop i) = some t := by
      simp [System.step?, hc, Caller.droppable, hwaiting, hact, t]
    have hsame : SameBut i s t := ((SameBut.refl i s).of_set _).symm
    constructor
    · intro s' hrun
      have hw : c.Waits := ⟨.inl hact, by rw [hwaiting]; simp⟩
      obtain ⟨t', hrun', hsame'⟩ := hsame.run_without hc hw hrun
      refine ⟨t', ?_, hsame'⟩
      rw [System.run?, hdrop]
      exact hrun'
    · intro t' hrun
      rw [System.run?, hdrop] at hrun
      exact hsame.run_dropped (List.getElem?_set_self hlt) rfl hact hrun

/-- One caller asks first, another in the middle of that poll, and a third one waits. The first
    one is dropped, the task ends, and the others return its outcome. In the second run the task
    panics, and in the third one it is dropped. -/
theorem safe_of_dropped_winner :
    (let labels : List System.Label :=
      [.create (.dispose (.outcome .forced)), .create (.dispose .panics), .create .wait,
        .turn 0, .turn 1, .turn 2, .turn 0, .turn 0, .turn 1, .turn 0, .turn 0, .drop 0, .finish,
        .turn 2, .announce, .turn 1, .turn 2, .turn 1, .turn 2]
    let s : System :=
      ⟨⟨.disposed, true, some .forced⟩,
        [⟨.dispose (.outcome .forced), .dropped, none⟩,
          ⟨.dispose .panics, .returned .forced, none⟩,
          ⟨.wait, .returned .forced, none⟩],
        .finished, [(0, true)]⟩
    System.run? {} labels = some s ∧ Safe labels s) ∧
    (let labels : List System.Label :=
      [.create (.dispose .panics), .turn 0, .turn 0, .turn 0, .turn 0, .finish, .announce, .turn 0]
    let s : System :=
      ⟨⟨.disposed, true, some .aborted⟩, [⟨.dispose .panics, .returned .aborted, none⟩], .finished,
        [(0, true)]⟩
    System.run? {} labels = some s ∧ Safe labels s) ∧
    (let labels : List System.Label :=
      [.create (.dispose (.outcome .graceful)), .turn 0, .turn 0, .turn 0, .turn 0, .abandon,
        .announce, .turn 0]
    let s : System :=
      ⟨⟨.disposed, true, some .aborted⟩,
        [⟨.dispose (.outcome .graceful), .returned .aborted, none⟩], .finished, [(0, true)]⟩
    System.run? {} labels = some s ∧ Safe labels s) :=
  ⟨⟨by decide, safe_of_run (by decide)⟩, ⟨by decide, safe_of_run (by decide)⟩, by decide,
    safe_of_run (by decide)⟩

/-! ### Programs -/

/-- Some steps lead to this system. -/
def System.Reached (s : System) : Prop := ∃ labels, System.run? {} labels = some s

namespace System.Reached

variable {s : System}

theorem step (h : s.Reached) {s' : System} {l : Label} (hstep : s.step? l = some s') :
    s'.Reached := by
  obtain ⟨labels, hrun⟩ := h
  refine ⟨labels ++ [l], ?_⟩
  rw [run?_concat, hrun]
  exact hstep

theorem advance (h : s.Reached) (l : Label) : (s.advance l).Reached := by
  unfold System.advance
  cases hstep : s.step? l with
  | none => exact h
  | some s' => exact h.step hstep

theorem poll (h : s.Reached) (i : Nat) : (s.poll i).Reached := by
  fun_induction System.poll s i with
  | case1 s _ => exact h
  | case2 s s' hstep _ => exact h.step hstep
  | case3 s s' hstep _ ih => exact ih (h.step hstep)

theorem pollAll (h : s.Reached) : s.pollAll.Reached := by
  unfold System.pollAll
  generalize List.range s.callers.length = turns
  induction turns generalizing s with
  | nil => exact h
  | cons i turns ih => exact ih (h.poll i)

theorem settle (h : s.Reached) (mayFinish : System → Bool) : (s.settle mayFinish).Reached := by
  unfold System.settle
  dsimp only
  split
  · exact ((h.pollAll.advance .finish).advance .announce).pollAll
  · exact h.pollAll.pollAll

end System.Reached

namespace Scenario

theorem sites_noteResults (s : Scenario) (tasks : List (String × TaskRef)) :
    (tasks.foldl (fun s (name, ref) => s.noteResult name ref) s).sites = s.sites := by
  induction tasks generalizing s with
  | nil => rfl
  | cons task tasks ih =>
    rw [List.foldl_cons, ih]
    simp only [noteResult]
    split <;> rfl

/-- Every resource of the program is where steps of its own lead. -/
def Reached (s : Scenario) : Prop := ∀ site ∈ s.sites, site.Reached

namespace Reached

variable {s : Scenario}

theorem settle (h : s.Reached) : s.settle.Reached := by
  intro site hsite
  unfold Scenario.settle at hsite
  rw [sites_noteResults] at hsite
  obtain ⟨i, hi, rfl⟩ := List.mem_mapIdx.1 hsite
  exact (h _ (List.getElem_mem hi)).settle _

theorem modifySite (h : s.Reached) (i : Nat) (l : System.Label) :
    (s.modifySite i (·.advance l)).Reached := by
  intro site hsite
  obtain ⟨j, hj, rfl⟩ := List.mem_iff_getElem.1 hsite
  have hlt : j < s.sites.length := by simpa [Scenario.modifySite] using hj
  simp only [Scenario.modifySite, List.getElem_modify]
  split
  · exact (h _ (List.getElem_mem hlt)).advance l
  · exact h _ (List.getElem_mem hlt)

theorem step (h : s.Reached) (st : Step) : (s.step st).2.Reached := by
  cases st with
  | start name teardown gated => exact settle (h.modifySite _ (.create (.dispose teardown)))
  | wait name => exact settle (h.modifySite _ (.create .wait))
  | openGate => exact settle (s := { s with gateOpen := true }) h
  | fireToken => exact (h.modifySite _ .fireToken).settle
  | abort name =>
    simp only [Scenario.step]
    split
    · exact h
    · exact (h.modifySite _ (.drop _)).settle
  | next =>
    intro site hsite
    rcases List.mem_append.1 hsite with hold | hnew
    · exact h site hold
    · cases List.mem_singleton.1 hnew
      exact ⟨[], rfl⟩
  | look => exact h

end Reached

/-- Whatever a program does, each of its resources is where a run leads. -/
theorem reached_afterSteps (steps : List Step) :
    (steps.foldl (fun s st => (s.step st).2) ({} : Scenario)).Reached := by
  have hstart : ({} : Scenario).Reached := by
    intro site hsite
    cases List.mem_singleton.1 hsite
    exact ⟨[], rfl⟩
  revert hstart
  generalize ({} : Scenario) = s
  intro hs
  induction steps generalizing s with
  | nil => exact hs
  | cons st steps ih => exact ih _ (hs.step st)

end Scenario

end Duplex.Disposal
