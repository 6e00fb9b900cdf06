import Duplex.Disposal.Coordinator

/-! # Callers of a disposal

  The parties around one coordinator as a transition system. A caller is a future: it is
  created, polled any number of times, and may be dropped whenever it is not being polled. Any
  number of callers may be in the middle of a poll at once, on threads of their own: a poll is
  a sequence of acts, and a step of the system is one act of one party.

  The caller that wins the request fires the token and makes the teardown in the same poll. The
  teardown then runs as a task of its own, so it does not depend on the caller that made it. A
  panic while the teardown is being made reaches that caller alone; a panic of the task reaches
  nobody. Whoever has to publish the outcome, the task when it ends, panics or is dropped, or
  the caller that could not make the teardown, does so in two acts: it closes the coordinator,
  then it announces the outcome.
-/

namespace Duplex.Disposal

/-- What a teardown comes to. -/
inductive Ending where
  /-- It ends with an outcome. -/
  | outcome (o : DisposeOutcome)
  /-- It panics while it runs. -/
  | panics
  /-- It panics while it is being made. -/
  | failsToStart
  deriving DecidableEq, Repr

/-- The outcome that is published for a teardown. -/
def Ending.published : Ending → DisposeOutcome
  | .outcome o => o
  | .panics | .failsToStart => .aborted

/-- What a caller wants. -/
inductive Purpose where
  /-- To dispose, with this teardown if the caller wins. -/
  | dispose (teardown : Ending)
  /-- To wait for the disposal. -/
  | wait
  deriving DecidableEq, Repr

/-- How far a caller has come. -/
inductive Progress where
  /-- It was never polled. -/
  | created
  /-- It waits for the outcome. -/
  | waiting
  /-- It has returned an outcome. -/
  | returned (o : DisposeOutcome)
  /-- It has panicked. -/
  | panicked
  /-- It was dropped before it returned. -/
  | dropped
  deriving DecidableEq, Repr

/-- What a caller does next in the poll that is under way. -/
inductive Act where
  /-- It has won, and fires the token. -/
  | fire (teardown : Ending)
  /-- It makes the teardown. -/
  | make (teardown : Ending)
  /-- It starts the task that runs the teardown. -/
  | spawn (teardown : Ending)
  /-- It could not make the teardown, and closes the coordinator. -/
  | close
  /-- It tells all parties that the teardown was cut short, and panics. -/
  | announce
  /-- It looks for the outcome. -/
  | look
  deriving DecidableEq, Repr

/-- A bound on the acts that are left of a poll in which this is the next one. -/
def Act.left : Act → Nat
  | .fire _ => 5
  | .make _ => 4
  | .spawn _ => 3
  | .close => 3
  | .announce => 2
  | .look => 1

/-- A caller. -/
structure Caller where
  purpose : Purpose
  progress : Progress := .created
  /-- What it does next, while it is being polled. -/
  act : Option Act := none
  deriving DecidableEq, Repr

/-- Whether a caller can be dropped: it has not returned, and it is not being polled. -/
def Caller.droppable (c : Caller) : Bool :=
  c.act.isNone && (c.progress = .created || c.progress = .waiting)

/-- The task that runs the teardown. -/
inductive Task where
  /-- No teardown was made. -/
  | absent
  /-- The teardown runs. -/
  | running (ending : Ending)
  /-- The coordinator is closed and the outcome is still to be announced. -/
  | closing (o : DisposeOutcome)
  /-- The outcome is announced. -/
  | finished
  deriving DecidableEq, Repr

/-- A coordinator and the parties around it. -/
structure System where
  coordinator : Coordinator := {}
  /-- All callers so far, by number. -/
  callers : List Caller := []
  /-- The task that runs the teardown. -/
  task : Task := .absent
  /-- For each teardown that was made: by which caller, and whether the token had fired. -/
  made : List (Nat × Bool) := []
  deriving DecidableEq, Repr

namespace System

/-! ### Acts -/

/-- A caller begins a poll. The first poll of one that wants to dispose asks for the disposal. -/
def startPoll (s : System) (c : Caller) : Option (System × Caller) :=
  match c.progress, c.purpose with
  | .created, .dispose ending =>
    match s.coordinator.claim with
    | (true, coordinator) => some ({ s with coordinator }, { c with act := some (.fire ending) })
    | (false, _) => some (s, { c with act := some .look })
  | .created, .wait | .waiting, _ => some (s, { c with act := some .look })
  | .returned _, _ | .panicked, _ | .dropped, _ => none

/-- Caller `i` makes its teardown. -/
def make (s : System) (i : Nat) (c : Caller) (ending : Ending) : System × Caller :=
  ({ s with made := s.made ++ [(i, s.coordinator.token)] },
    { c with act := some (if ending = .failsToStart then .close else .spawn ending) })

/-- A caller looks for the outcome, which ends its poll. -/
def look (s : System) (c : Caller) : Caller :=
  match s.coordinator.outcome with
  | some o => { c with progress := .returned o, act := none }
  | none => { c with progress := .waiting, act := none }

/-- Caller `i` does something in the course of a poll. -/
def perform (s : System) (i : Nat) (c : Caller) : Act → System × Caller
  | .fire ending =>
    ({ s with coordinator := s.coordinator.fireToken.2 }, { c with act := some (.make ending) })
  | .make ending => s.make i c ending
  | .spawn ending => ({ s with task := .running ending }, { c with act := some .look })
  | .close => ({ s with coordinator := s.coordinator.close }, { c with act := some .announce })
  | .announce =>
    ({ s with coordinator := s.coordinator.announce .aborted },
      { c with progress := .panicked, act := none })
  | .look => (s, s.look c)

/-- Caller `i` goes on with its poll, or begins one. -/
def turn (s : System) (i : Nat) (c : Caller) : Option (System × Caller) :=
  match c.act with
  | some act => some (s.perform i c act)
  | none => s.startPoll c

/-! ### Steps -/

/-- What can happen. -/
inductive Label where
  /-- A caller is created. -/
  | create (purpose : Purpose)
  /-- A caller goes on with its poll, or begins one. -/
  | turn (i : Nat)
  /-- A caller is dropped. -/
  | drop (i : Nat)
  /-- The token is fired by somebody else. -/
  | fireToken
  /-- The teardown ends as it will. -/
  | finish
  /-- The task is dropped with the teardown unfinished. -/
  | abandon
  /-- The task announces the outcome. -/
  | announce
  deriving DecidableEq, Repr

/-- The state after a step, where the step is possible. -/
def step? (s : System) : Label → Option System
  | .create purpose => some { s with callers := s.callers ++ [{ purpose }] }
  | .turn i => do
    let c ← s.callers[i]?
    let (s', c') ← s.turn i c
    return { s' with callers := s.callers.set i c' }
  | .drop i => do
    let c ← s.callers[i]?
    if c.droppable then some { s with callers := s.callers.set i { c with progress := .dropped } }
    else none
  | .fireToken => some { s with coordinator := s.coordinator.fireToken.2 }
  | .finish =>
    match s.task with
    | .running ending =>
      some { s with coordinator := s.coordinator.close, task := .closing ending.published }
    | _ => none
  | .abandon =>
    match s.task with
    | .running _ => some { s with coordinator := s.coordinator.close, task := .closing .aborted }
    | _ => none
  | .announce =>
    match s.task with
    | .closing o => some { s with coordinator := s.coordinator.announce o, task := .finished }
    | _ => none

/-- The state after a sequence of steps, where they are possible. -/
def run? (s : System) : List Label → Option System
  | [] => some s
  | l :: rest => (s.step? l).bind (·.run? rest)

/-- Takes the step, where it is possible. -/
def advance (s : System) (l : Label) : System := (s.step? l).getD s

/-! ### Whole polls -/

/-- What a caller does next in its poll. -/
def act (s : System) (i : Nat) : Option Act := s.callers[i]?.bind Caller.act

/-- A bound on the acts that are left of a poll, or of the next one if none is under way. -/
def actsLeft : Option Act → Nat
  | some a => a.left
  | none => 6

theorem actsLeft_perform (s : System) (i : Nat) (c : Caller) (a : Act) :
    (s.perform i c a).2.act = none ∨ actsLeft (s.perform i c a).2.act < a.left := by
  cases a with
  | fire ending => exact .inr (Nat.lt_succ_self 4)
  | make ending =>
    refine .inr ?_
    simp only [perform, make]
    split <;> exact Nat.lt_succ_self 3
  | spawn ending => exact .inr (Nat.lt_of_lt_of_le (Nat.lt_succ_self 1) (Nat.le_succ 2))
  | close => exact .inr (Nat.lt_succ_self 2)
  | announce => exact .inl rfl
  | look =>
    refine .inl ?_
    simp only [perform, look]
    split <;> rfl

theorem actsLeft_turn {s s' : System} {i : Nat} {c c' : Caller} (h : s.turn i c = some (s', c'))
    (hact : c'.act ≠ none) : actsLeft c'.act < actsLeft c.act := by
  cases hc : c.act with
  | some a =>
    have hperform := actsLeft_perform s i c a
    simp only [turn, hc, Option.some.injEq] at h
    rw [h] at hperform
    exact hperform.resolve_left hact
  | none =>
    -- every act is nearer to the end of its poll than the beginning of a poll is
    obtain ⟨a, ha⟩ := Option.ne_none_iff_exists'.1 hact
    rw [ha]
    cases a <;> simp [actsLeft, Act.left]

/-- A step of a caller is what the caller does, and its new state. -/
theorem step_turn_eq_some {s s' : System} {i : Nat} :
    s.step? (.turn i) = some s' ↔ ∃ c t c', s.callers[i]? = some c ∧ s.turn i c = some (t, c') ∧
      s' = { t with callers := s.callers.set i c' } := by
  simp only [step?, Option.bind_eq_bind, Option.bind_eq_some_iff, Option.pure_def,
    Option.some.injEq, Prod.exists]
  constructor
  · rintro ⟨c, hc, t, c', hturn, rfl⟩
    exact ⟨c, t, c', hc, hturn, rfl⟩
  · rintro ⟨c, t, c', hc, hturn, rfl⟩
    exact ⟨c, hc, t, c', hturn, rfl⟩

theorem actsLeft_step {s s' : System} {i : Nat} (h : s.step? (.turn i) = some s')
    (hact : s'.act i ≠ none) : actsLeft (s'.act i) < actsLeft (s.act i) := by
  obtain ⟨c, t, c', hc, hturn, rfl⟩ := step_turn_eq_some.1 h
  obtain ⟨hi, -⟩ := List.getElem?_eq_some_iff.1 hc
  have hafter : act { t with callers := s.callers.set i c' } i = c'.act := by simp [act, hi]
  rw [hafter] at hact ⊢
  rw [show s.act i = c.act by simp [act, hc]]
  exact actsLeft_turn hturn hact

/-- Polls caller `i`, without anybody else doing anything meanwhile. -/
def poll (s : System) (i : Nat) : System :=
  match _h : s.step? (.turn i) with
  | none => s
  | some s' => if _hact : s'.act i = none then s' else s'.poll i
termination_by actsLeft (s.act i)
decreasing_by exact actsLeft_step _h _hact

/-- Polls every caller. -/
def pollAll (s : System) : System := (List.range s.callers.length).foldl poll s

/-- Lets everybody run until nobody can go on. The teardown ends only if it may by then. -/
def settle (s : System) (mayFinish : System → Bool) : System :=
  let s := s.pollAll
  (if mayFinish s then (s.advance .finish).advance .announce else s).pollAll

end System

end Duplex.Disposal
