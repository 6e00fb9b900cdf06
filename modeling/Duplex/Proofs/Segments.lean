import Duplex.Proofs.WritingHalf

/-! # What each send adds to the wire

  A run passes the writing half from send to send (`lockOrder`), and each step of it hands octets to
  the socket for at most one send, the one that holds the half (`written_of_step`). A send moves
  only with labels of its own, and whatever else happens it stays as it is and keeps the half if it
  has it (`fate_of_step`). So what it has handed over so far (`segment`) can be told from its own
  state (`Send.Written`).
-/

namespace Duplex.Connection

/-! ### What a run shows -/

/-- What the steps of a run show one after another, where `f` says what a step shows. -/
def traced {α : Type} (f : Connection → Label → Stepped → List α) (c : Connection) :
    List Label → List α
  | [] => []
  | l :: rest =>
    match c.step? l with
    | none => []
    | some stepped => f c l stepped ++ stepped.1.traced f rest

/-- The send to which a step has passed the writing half. -/
def passedTo (c c' : Connection) : List Nat :=
  match c'.writer.holder with
  | some (.send i) => if c.writer.holder = some (.send i) then [] else [i]
  | some (.receive _) | some .teardown | none => []

/-- The sends that get the writing half in a run of `c`, in the order in which they get it. -/
def lockOrder (c : Connection) (labels : List Label) : List Nat :=
  c.traced (fun c _ stepped => c.passedTo stepped.1) labels

/-- The octets that send `i` hands to the socket in a step with this label. -/
def handed (i : Nat) (l : Label) (effects : List Effect) : Bytes :=
  if l.send? = some i then written effects else []

/-- The octets that send `i` hands to the socket in a run of `c`. -/
def segment (c : Connection) (labels : List Label) (i : Nat) : Bytes :=
  c.traced (fun _ l stepped => handed i l stepped.2) labels

section traced

variable {c c₁ : Connection} {l : Label} {before : List Label} {effects : List Effect}

theorem traced_concat {α : Type} (f : Connection → Label → Stepped → List α) {stepped : Stepped}
    (hbefore : c.run? before = some (c₁, effects)) (hstep : c₁.step? l = some stepped) :
    c.traced f (before ++ [l]) = c.traced f before ++ f c₁ l stepped := by
  induction before generalizing c effects with
  | nil =>
    cases hbefore
    simp [traced, hstep]
  | cons l₀ before ih =>
    obtain ⟨c₂, first, others, hfirst, hrest, -⟩ := run?_cons_eq_some.1 hbefore
    simp only [List.cons_append, traced, hfirst, ih hrest, List.append_assoc]

theorem passedTo_eq (c c' : Connection) : c.passedTo c' = [] ∨
    ∃ i, c.passedTo c' = [i] ∧ c'.writer.holder = some (.send i) ∧
      c.writer.holder ≠ some (.send i) := by
  unfold passedTo
  split
  · next i hholder =>
    split
    · exact .inl rfl
    · next hbefore => exact .inr ⟨i, rfl, hholder, hbefore⟩
  all_goals exact .inl rfl

/-- Whoever holds the half after a step held it before or got it in the step. -/
theorem passedTo_of_holder {c' : Connection} {i : Nat} (h : c'.writer.holder = some (.send i)) :
    c.writer.holder = some (.send i) ∨ c.passedTo c' = [i] := by
  by_cases hbefore : c.writer.holder = some (.send i)
  · exact .inl hbefore
  · refine .inr ?_
    unfold passedTo
    rw [h]
    exact if_neg hbefore

end traced

/-! ### One send in one step -/

/-- What a step with label `l` from `c` to `c'` is to send `i`, which was `s` and is `s'` after
    it. -/
inductive SendFate (c : Connection) (l : Label) (c' : Connection) (effects : List Effect) (i : Nat)
    (s s' : Send) : Prop where
  /-- It does nothing, and keeps the writing half if it holds it. -/
  | rests (hstate : s'.state = s.state) (hhanded : handed i l effects = [])
      (hresults : ∀ result, .sent i result ∉ effects)
      (hholder : c.writer.holder = some (.send i) → c'.writer.holder = some (.send i))
  /-- It moves. -/
  | moves {lock : Lock Actor} {octets : Bytes} {result : Option SendResult}
      (hstep : SendStep c i s l s'.state lock octets result) (hlock : c'.writer = lock)
      (hhanded : handed i l effects = octets)
      (hresults : ∀ r, .sent i r ∈ effects ↔ result = some r)

/-- A step hands octets to the socket only for the send that moves. -/
theorem Sent.handed {c : Connection} {i : Nat} {state : SendState} {lock : Lock Actor}
    {octets : Bytes} {result : Option SendResult} {stepped : Stepped} {l : Label}
    (h : c.Sent i state lock octets result stepped) (hl : l.send? = some i) :
    Connection.handed i l stepped.2 = octets := by
  rw [Connection.handed, if_pos hl]
  exact h.written

theorem handed_of_written {effects : List Effect} (h : written effects = []) (i : Nat)
    (l : Label) : handed i l effects = [] := by
  unfold handed
  split
  · exact h
  · rfl

theorem handed_of_quiet {effects : List Effect} (h : Quiet effects) (i : Nat) (l : Label) :
    handed i l effects = [] := handed_of_written h.1 i l

theorem Quiet.not_sent {effects : List Effect} (h : Quiet effects) (i : Nat) (result : SendResult) :
    .sent i result ∉ effects := by
  rw [← mem_results, h.2]
  simp

theorem Sent.results_iff {c : Connection} {i j : Nat} {state : SendState} {lock : Lock Actor}
    {octets : Bytes} {result : Option SendResult} {stepped : Stepped}
    (h : c.Sent i state lock octets result stepped) (r : SendResult) :
    .sent j r ∈ stepped.2 ↔ j = i ∧ result = some r := by
  rw [← mem_results, h.results]
  cases result with
  | none => simp
  | some result =>
    simp only [Option.map_some, Option.toList_some, List.mem_singleton, Prod.mk.injEq,
      Option.some.injEq]
    exact and_congr_right fun _ => eq_comm

section fate

variable {c c' : Connection} {l : Label} {effects : List Effect} {i : Nat} {s : Send}

/-- What any step is to a send. -/
theorem fate_of_step (hc : c.WriterKept) (h : c.step? l = some (c', effects))
    (hs : c.sends[i]? = some s) :
    ∃ s', c'.sends[i]? = some s' ∧ s'.bytes = s.bytes ∧
      (s.cancelled = true → s'.cancelled = true) ∧ SendFate c l c' effects i s s' := by
  have hquiet (hquiet : Quiet effects)
      (hholder : c.writer.holder = some (.send i) → c'.writer.holder = some (.send i)) :
      SendFate c l c' effects i s s :=
    .rests rfl (handed_of_quiet hquiet i l) (hquiet.not_sent i) hholder
  cases step_cases h with
  | made bytes cancelled _ hc' heffects =>
    subst hc' heffects
    have hlt : i < c.sends.length := (List.getElem?_eq_some_iff.1 hs).1
    exact ⟨s, (List.getElem?_append_left hlt).trans hs, rfl, id, hquiet quiet_nil id⟩
  | send j s₀ hl hs₀ hmoves =>
    obtain ⟨state, lock, octets, result, hstep, hsent⟩ := hmoves
    have hget := hsent.getElem? hs₀ i
    have hwriter : c'.writer = lock := by
      obtain ⟨connected, -, (rfl : c' = _)⟩ := hsent.connection
      rfl
    by_cases hij : i = j
    · subst hij
      rw [hs] at hs₀
      cases hs₀
      rw [if_pos rfl] at hget
      refine ⟨_, hget, rfl, id, .moves hstep hwriter (hsent.handed hl) fun r => ?_⟩
      rw [hsent.results_iff]
      simp
    · -- another send moves, and if this one holds the half it goes on holding it
      rw [if_neg hij] at hget
      refine ⟨s, hget.trans hs, rfl, id, .rests rfl ?_ ?_ ?_⟩
      · exact if_neg (by rw [hl]; simpa using Ne.symm hij)
      · intro r hr
        exact hij ((hsent.results_iff r).1 hr).1
      · intro hheld
        rw [hwriter]
        exact (hstep.passes hc hs₀).holder _ (by simpa using hij) hheld
  | cancelled j _ hc' heffects =>
    subst hc' heffects
    refine ⟨if j = i then { s with cancelled := true } else s, ?_, ?_, ?_, ?_⟩
    · simp only [List.getElem?_modify, hs]
      rfl
    · split <;> rfl
    · intro hcancelled
      split
      · rfl
      · exact hcancelled
    · refine .rests ?_ (handed_of_quiet quiet_nil i l) (quiet_nil.not_sent i) id
      split <;> rfl
  | receive j _ _ hapart =>
    have hsilent := hapart.quiet
    obtain ⟨receives, reader, connected, -, (rfl : c' = _)⟩ := hapart.connection
    exact ⟨s, hs, rfl, id, hquiet hsilent id⟩
  | dispose _ hc' heffects =>
    subst hc' heffects
    obtain ⟨coordinator, teardown, hdispose⟩ := c.dispose_eq_with
    refine ⟨s, ?_, rfl, id, hquiet quiet_nil ?_⟩ <;> rw [hdispose]
    · exact hs
    · exact id
  | teardown _ hteardown =>
    refine ⟨s, by rw [hteardown.sends]; exact hs, rfl, id, hquiet hteardown.quiet ?_⟩
    intro hheld
    cases hteardown with
    | asks _ => exact Lock.holder_request_of_some hheld _
    | takes _ _ _ | takesDown _ _ _ | bereft _ _ _ | aborts _ _ _ =>
      exact Lock.holder_release_of_ne hheld (by simp)
    | _ => exact hheld

/-- Only the send that holds the writing half hands octets to the socket. -/
theorem written_of_step (hc : c.WriterKept) (h : c.step? l = some (c', effects)) :
    written effects = [] ∨
      ∃ i, (c.writer.holder = some (.send i) ∧ c.writeHalf = true) ∧
        ∀ j, handed j l effects = if j = i then written effects else [] := by
  cases step_cases h with
  | made _ _ _ _ heffects | cancelled _ _ _ heffects | dispose _ _ heffects =>
    subst heffects
    exact .inl rfl
  | receive _ _ _ hapart => exact .inl hapart.quiet.1
  | teardown _ hteardown => exact .inl hteardown.quiet.1
  | send i s hl hs hmoves =>
    obtain ⟨state, lock, octets, result, hstep, hsent⟩ := hmoves
    have hhanded (j : Nat) : handed j l effects = if j = i then written effects else [] := by
      unfold handed
      simp only [hl, Option.some.injEq, eq_comm]
    rw [show written effects = octets from hsent.written] at hhanded ⊢
    cases hstep with
    | progressed hstate _ _ => exact .inr ⟨i, hc.writes i s _ _ hs hstate, hhanded⟩
    | completed hstate _ => exact .inr ⟨i, hc.writes i s _ _ hs hstate, hhanded⟩
    | _ => exact .inl rfl

/-- A send that was not made yet does nothing, and is new if it is made. -/
theorem fate_of_unmade (h : c.step? l = some (c', effects)) (hs : c.sends[i]? = none) :
    handed i l effects = [] ∧ (∀ result, .sent i result ∉ effects) ∧
      ∀ s', c'.sends[i]? = some s' → s'.state = .created := by
  cases step_cases h with
  | made bytes cancelled _ hc' heffects =>
    subst hc' heffects
    refine ⟨handed_of_quiet quiet_nil i l, quiet_nil.not_sent i, ?_⟩
    intro s' hs'
    rw [List.getElem?_append_right (List.getElem?_eq_none_iff.1 hs)] at hs'
    cases List.mem_singleton.1 (List.mem_of_getElem? hs')
    rfl
  | send j s₀ hl hs₀ hmoves =>
    obtain ⟨state, lock, octets, result, -, hsent⟩ := hmoves
    have hij : i ≠ j := by
      rintro rfl
      rw [hs] at hs₀
      cases hs₀
    refine ⟨if_neg (by rw [hl]; simpa using Ne.symm hij), ?_, ?_⟩
    · intro r hr
      exact hij ((hsent.results_iff r).1 hr).1
    · intro s' hs'
      rw [show c'.sends[i]? = _ from hsent.getElem? hs₀ i, if_neg hij, hs] at hs'
      cases hs'
  | cancelled j _ hc' heffects =>
    subst hc' heffects
    refine ⟨handed_of_quiet quiet_nil i l, quiet_nil.not_sent i, ?_⟩
    intro s' hs'
    simp only [List.getElem?_modify, hs] at hs'
    cases hs'
  | receive j _ _ hapart =>
    have hsilent := hapart.quiet
    obtain ⟨receives, reader, connected, -, (rfl : c' = _)⟩ := hapart.connection
    refine ⟨handed_of_quiet hsilent i l, hsilent.not_sent i, fun s' hs' => ?_⟩
    rw [show c.sends[i]? = some s' from hs'] at hs
    cases hs
  | dispose _ hc' heffects =>
    subst hc' heffects
    refine ⟨handed_of_quiet quiet_nil i l, quiet_nil.not_sent i, fun s' hs' => ?_⟩
    obtain ⟨coordinator, teardown, hdispose⟩ := c.dispose_eq_with
    rw [hdispose, show Connection.sends _ = c.sends from rfl, hs] at hs'
    cases hs'
  | teardown _ hteardown =>
    refine ⟨handed_of_quiet hteardown.quiet i l, hteardown.quiet.not_sent i, fun s' hs' => ?_⟩
    rw [hteardown.sends, hs] at hs'
    cases hs'

end fate

/-! ### What a send has written -/

end Connection

/-- These octets are what the send has written so far. -/
def Send.Written (s : Send) (octets : Bytes) : Prop :=
  match s.state with
  | .created | .waiting => octets = []
  | .writing rest _ => octets ++ rest = s.bytes
  | .returned (.ok n) => octets = s.bytes ∧ n = s.bytes.length
  | .returned (.error _) | .dropped => octets <+: s.bytes

theorem Send.Written.isPrefix {s : Send} {octets : Bytes} (h : s.Written octets) :
    octets <+: s.bytes := by
  unfold Send.Written at h
  split at h
  · subst h
    exact List.nil_prefix
  · subst h
    exact List.nil_prefix
  · exact ⟨_, h⟩
  · exact h.1 ▸ List.prefix_refl _
  · exact h
  · exact h

namespace Connection

section step

variable {c : Connection} {i : Nat} {s s' : Send} {l : Label} {lock : Lock Actor} {octets : Bytes}
  {result : Option SendResult}

/-- Only a send that was not polled yet, or waits, asks for the half. -/
theorem Asks.begun (h : c.Asks i s lock) : s.state = .created ∨ s.state.engaged = true := by
  rcases h.asks with ⟨hcreated, -⟩ | ⟨hwaiting, -⟩
  · exact .inl hcreated
  · exact .inr (by rw [hwaiting]; rfl)

/-- A send moves only before it has returned. -/
theorem SendStep.begun {state : SendState} (h : SendStep c i s l state lock octets result) :
    state ≠ .created ∧ (s.state = .created ∨ s.state.engaged = true) := by
  have hwriting {rest : Bytes} {awake : Bool} (hstate : s.state = .writing rest awake) :
      s.state = .created ∨ s.state.engaged = true := .inr (by rw [hstate]; rfl)
  cases h with
  | refused hstate _ | empty hstate _ _ => exact ⟨by simp, .inl hstate⟩
  | interrupted hrests _ =>
    refine ⟨by simp, ?_⟩
    rcases hrests with ⟨hstate, -⟩ | hstate | ⟨rest, hstate⟩
    · exact .inl hstate
    · exact .inr (by rw [hstate]; rfl)
    · exact hwriting hstate
  | waits hasks _ | begins hasks _ _ | bereft hasks _ => exact ⟨by simp, hasks.begun⟩
  | resumed hstate _ | paused hstate | progressed hstate _ _ | completed hstate _ | failed hstate =>
    exact ⟨by simp, hwriting hstate⟩
  | dropped hreturned hdropped =>
    refine ⟨by simp, ?_⟩
    cases hstate : s.state with
    | created => exact .inl rfl
    | waiting | writing _ _ => exact .inr rfl
    | returned result => exact absurd hstate (hreturned result)
    | dropped => exact absurd hstate hdropped

/-- A send that stays keeps the writing half. -/
theorem SendStep.holder {state : SendState} (h : SendStep c i s l state lock octets result)
    (hstate : state.engaged = true) (hheld : c.writer.holder = some (.send i)) :
    lock.holder = some (.send i) := by
  have hasks (hasks : c.Asks i s lock) : lock.holder = some (.send i) := by
    rcases hasks.asks with ⟨-, -, -, rfl⟩ | ⟨-, rfl⟩
    · exact Lock.holder_request_of_some hheld _
    · exact hheld
  cases h with
  | waits h _ | begins h _ _ => exact hasks h
  | resumed _ _ | paused _ | progressed _ _ _ => exact hheld
  | refused _ _ | empty _ _ _ | interrupted _ _ | bereft _ _ | completed _ _ | failed _
  | dropped _ _ => cases hstate

/-- A send returns what its new state says. -/
theorem SendStep.returned {state : SendState} (h : SendStep c i s l state lock octets result)
    {r : SendResult} (hr : result = some r) : state = .returned r := by
  subst hr
  cases h <;> rfl

theorem SendStep.written (h : SendStep c i s l s'.state lock octets result)
    (hbytes : s'.bytes = s.bytes) {before : Bytes} (hs : s.Written before) :
    s'.Written (before ++ octets) := by
  have hprefix := hs.isPrefix
  generalize hstate' : s'.state = state at h
  unfold Send.Written at hs ⊢
  rw [hstate', hbytes]
  cases h with
  | refused _ _ | failed _ | dropped _ _ | bereft _ _ =>
    rw [List.append_nil]
    exact hprefix
  | @interrupted source _ _ =>
    rw [List.append_nil]
    cases source <;> exact hprefix
  | empty hstate _ hempty =>
    rw [hstate] at hs
    simp [show before = [] from hs, hempty]
  | waits hasks _ | begins hasks _ _ =>
    have hnil : before = [] := by
      rcases hasks.asks with ⟨hstate, -⟩ | ⟨hstate, -⟩ <;> (rw [hstate] at hs; exact hs)
    simp [hnil]
  | resumed hstate _ | paused hstate =>
    rw [hstate] at hs
    simpa using hs
  | progressed hstate _ _ =>
    rw [hstate] at hs
    simpa using hs
  | completed hstate _ =>
    rw [hstate] at hs
    exact ⟨hs, rfl⟩

end step

end Duplex.Connection
