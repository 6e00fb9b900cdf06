import Duplex.Proofs.Segments

/-! # Sends follow one another

  However many sends share a connection, what they put on the wire is one segment after another:
  each send that gets the writing half writes there the first octets of its buffer and nothing
  else comes between them. The segments stand in the order in which the sends got the half
  (`lockOrder`). A send that returned without an error has written its whole buffer, and one that
  was called too late, or whose caller had cancelled before, has written nothing.
-/

namespace Duplex.Connection

/-! ### All sends in a run -/

/-- What the sends have put on the wire in a run of `c₀` that has led to `c`. -/
structure Serial (c₀ : Connection) (labels : List Label) (c : Connection) (effects : List Effect) :
    Prop where
  once : (c₀.lockOrder labels).Nodup
  wire : written effects = (c₀.lockOrder labels).flatMap (c₀.segment labels)
  others : ∀ i, i ∉ c₀.lockOrder labels → c₀.segment labels i = []
  /-- Who holds the half got it last. -/
  last : ∀ i, c.writer.holder = some (.send i) → ∃ past, c₀.lockOrder labels = past ++ [i]
  /-- Who got the half has kept it, or is done. -/
  served : ∀ i ∈ c₀.lockOrder labels, ∃ s, c.sends[i]? = some s ∧ s.state ≠ .created ∧
    (s.state.engaged = true → c.writer.holder = some (.send i))
  sends : ∀ (i : Nat) (s : Send), c.sends[i]? = some s → s.Written (c₀.segment labels i)
  returned : ∀ i result, .sent i result ∈ effects →
    ∃ s, c.sends[i]? = some s ∧ s.state = .returned result

theorem serial_start {c : Connection} (hholder : c.writer.holder = none)
    (hsends : ∀ (i : Nat) (s : Send), c.sends[i]? = some s → s.state = .created) :
    Serial c [] c [] where
  once := List.nodup_nil
  wire := rfl
  others _ _ := rfl
  last i hi := by
    rw [hholder] at hi
    cases hi
  served i hi := by cases hi
  sends i s hs := by
    unfold Send.Written
    rw [hsends i s hs]
    rfl
  returned i result hi := by cases hi

namespace Serial

variable {c₀ c c' : Connection} {labels : List Label} {l : Label} {effects more : List Effect}

/-- The octets of one step belong to the segment of the send that holds the half. -/
theorem flatMap_of_last {order : List Nat} {f : Nat → Bytes} {i : Nat} {octets : Bytes}
    (hnodup : order.Nodup) (hlast : ∃ past, order = past ++ [i]) :
    order.flatMap (fun k => f k ++ if k = i then octets else []) = order.flatMap f ++ octets := by
  obtain ⟨past, rfl⟩ := hlast
  have hnot : i ∉ past := by
    intro hi
    exact (List.nodup_append.1 hnodup).2.2 i hi i (List.mem_singleton_self i) rfl
  have hpast : past.flatMap (fun k => f k ++ if k = i then octets else []) = past.flatMap f := by
    refine List.flatMap_congr fun k hk => ?_
    have hki : k ≠ i := fun hki => hnot (hki ▸ hk)
    simp only [if_neg hki, List.append_nil]
  simp [hpast]

section step

variable (hserial : Serial c₀ labels c effects) (hrun : c₀.run? labels = some (c, effects))
  (hc : c.WriterKept) (hc' : c'.WriterKept) (h : c.step? l = some (c', more))

include hrun h in
theorem lockOrder_concat :
    c₀.lockOrder (labels ++ [l]) = c₀.lockOrder labels ++ c.passedTo c' := traced_concat _ hrun h

include hrun h in
theorem segment_concat (i : Nat) :
    c₀.segment (labels ++ [l]) i = c₀.segment labels i ++ handed i l more := traced_concat _ hrun h

include hserial hc hc' h in
/-- A send to which the half is passed did not have it before. -/
theorem passedTo_notMem {i : Nat} (hi : i ∈ c.passedTo c') : i ∉ c₀.lockOrder labels := by
  intro hold
  rcases c.passedTo_eq c' with hnil | ⟨j, hj, hholder, hbefore⟩
  · rw [hnil] at hi
    cases hi
  · rw [hj] at hi
    cases List.mem_singleton.1 hi
    obtain ⟨s, hs, hcreated, hkept⟩ := hserial.served i hold
    obtain ⟨s', hs', -, -, hfate⟩ := fate_of_step hc h hs
    have hengaged : s'.state.engaged = true := by
      obtain ⟨s'', hs'', hengaged⟩ := (hc'.sends i).1 (Lock.mem_line_of_holder hholder)
      rw [hs'] at hs''
      cases hs''
      exact hengaged
    -- it waited or wrote before, so it has kept the half since then
    refine hbefore (hkept ?_)
    cases hfate with
    | rests hstate _ _ _ => rwa [hstate] at hengaged
    | moves hstep _ _ _ => exact hstep.begun.2.resolve_left hcreated

include hserial hc h in
/-- A send that never got the half hands nothing to the socket. -/
theorem handed_of_notMem {i : Nat} (hi : i ∉ c₀.lockOrder labels) : handed i l more = [] := by
  rcases written_of_step hc h with hnil | ⟨j, ⟨hheld, -⟩, hhanded⟩
  · exact handed_of_written hnil i l
  · rw [hhanded, if_neg]
    rintro rfl
    obtain ⟨past, hpast⟩ := hserial.last i hheld
    exact hi (by simp [hpast])

include hserial hc hc' hrun h in
theorem once_step : (c₀.lockOrder (labels ++ [l])).Nodup := by
  rw [lockOrder_concat hrun h, List.nodup_append]
  refine ⟨hserial.once, ?_, ?_⟩
  · rcases c.passedTo_eq c' with hnil | ⟨j, hj, -⟩
    · rw [hnil]
      exact List.nodup_nil
    · rw [hj]
      exact List.nodup_singleton j
  · intro a ha b hb hab
    exact hserial.passedTo_notMem hc hc' h hb (hab ▸ ha)

include hserial hc hc' hrun h in
theorem wire_step : written (effects ++ more) =
    (c₀.lockOrder (labels ++ [l])).flatMap (c₀.segment (labels ++ [l])) := by
  -- the segment of a send that has just got the half is still empty
  have hnew : (c.passedTo c').flatMap (c₀.segment (labels ++ [l])) = [] := by
    refine List.flatMap_eq_nil_iff.2 fun i hi => ?_
    have hout := hserial.passedTo_notMem hc hc' h hi
    rw [segment_concat hrun h, hserial.others i hout, hserial.handed_of_notMem hc h hout]
    rfl
  have hsegment : c₀.segment (labels ++ [l]) =
      fun i => c₀.segment labels i ++ handed i l more := funext (segment_concat hrun h)
  rw [written_append, hserial.wire, lockOrder_concat hrun h, List.flatMap_append, hnew,
    List.append_nil, hsegment]
  rcases written_of_step hc h with hnil | ⟨i, ⟨hheld, -⟩, hhanded⟩
  · simp [hnil, handed_of_written hnil]
  · simp only [hhanded]
    exact (flatMap_of_last hserial.once (hserial.last i hheld)).symm

include hserial hrun h in
theorem last_step {i : Nat} (hholder : c'.writer.holder = some (.send i)) :
    ∃ past, c₀.lockOrder (labels ++ [l]) = past ++ [i] := by
  rw [lockOrder_concat hrun h]
  rcases passedTo_of_holder (c := c) hholder with hbefore | hnew
  · obtain ⟨past, hpast⟩ := hserial.last i hbefore
    rcases c.passedTo_eq c' with hnil | ⟨j, -, hj, hne⟩
    · exact ⟨past, by rw [hnil, List.append_nil, hpast]⟩
    · rw [hholder] at hj
      cases hj
      exact absurd hbefore hne
  · exact ⟨c₀.lockOrder labels, by rw [hnew]⟩

include hserial hc hc' hrun h in
theorem served_step {i : Nat} (hi : i ∈ c₀.lockOrder (labels ++ [l])) :
    ∃ s, c'.sends[i]? = some s ∧ s.state ≠ .created ∧
      (s.state.engaged = true → c'.writer.holder = some (.send i)) := by
  rw [lockOrder_concat hrun h, List.mem_append] at hi
  rcases hi with hold | hnew
  · obtain ⟨s, hs, hcreated, hkept⟩ := hserial.served i hold
    obtain ⟨s', hs', -, -, hfate⟩ := fate_of_step hc h hs
    refine ⟨s', hs', ?_⟩
    -- the half leaves a send only by a move of that send
    cases hfate with
    | rests hstate _ _ hholder =>
      rw [hstate]
      exact ⟨hcreated, fun hengaged => hholder (hkept hengaged)⟩
    | moves hstep hlock _ _ =>
      have hengaged := hstep.begun.2.resolve_left hcreated
      refine ⟨hstep.begun.1, fun hstays => ?_⟩
      rw [hlock]
      exact hstep.holder hstays (hkept hengaged)
  · rcases c.passedTo_eq c' with hnil | ⟨j, hj, hholder, -⟩
    · rw [hnil] at hnew
      cases hnew
    · rw [hj] at hnew
      cases List.mem_singleton.1 hnew
      obtain ⟨s', hs', hengaged⟩ := (hc'.sends i).1 (Lock.mem_line_of_holder hholder)
      refine ⟨s', hs', ?_, fun _ => hholder⟩
      intro hcreated
      rw [hcreated] at hengaged
      cases hengaged

include hserial hc hrun h in
theorem written_step {i : Nat} {s' : Send} (hs' : c'.sends[i]? = some s') :
    s'.Written (c₀.segment (labels ++ [l]) i) := by
  rw [segment_concat hrun h]
  cases hs : c.sends[i]? with
  | none =>
    obtain ⟨hhanded, -, hnew⟩ := fate_of_unmade h hs
    have hout : i ∉ c₀.lockOrder labels := by
      intro hi
      obtain ⟨s, hs₁, -⟩ := hserial.served i hi
      rw [hs] at hs₁
      cases hs₁
    rw [hhanded, hserial.others i hout]
    unfold Send.Written
    rw [hnew s' hs']
    rfl
  | some s =>
    obtain ⟨s'', hs'', hbytes, -, hfate⟩ := fate_of_step hc h hs
    rw [hs'] at hs''
    cases hs''
    cases hfate with
    | rests hstate hhanded _ _ =>
      rw [hhanded, List.append_nil]
      have hwritten := hserial.sends i s hs
      unfold Send.Written at hwritten ⊢
      rw [hstate, hbytes]
      exact hwritten
    | moves hstep _ hhanded _ =>
      rw [hhanded]
      exact hstep.written hbytes (hserial.sends i s hs)

include hserial hc h in
theorem returned_step {i : Nat} {r : SendResult} (hr : .sent i r ∈ effects ++ more) :
    ∃ s, c'.sends[i]? = some s ∧ s.state = .returned r := by
  rcases List.mem_append.1 hr with hold | hnew
  · obtain ⟨s, hs, hstate⟩ := hserial.returned i r hold
    obtain ⟨s', hs', -, -, hfate⟩ := fate_of_step hc h hs
    refine ⟨s', hs', ?_⟩
    cases hfate with
    | rests hsame _ _ _ => rw [hsame, hstate]
    | moves hstep _ _ _ =>
      -- what has returned does not move any more
      have hlive := hstep.begun.2
      rw [hstate] at hlive
      rcases hlive with hlive | hlive <;> cases hlive
  · cases hs : c.sends[i]? with
    | none => exact absurd hnew ((fate_of_unmade h hs).2.1 r)
    | some s =>
      obtain ⟨s', hs', -, -, hfate⟩ := fate_of_step hc h hs
      cases hfate with
      | rests _ _ hresults _ => exact absurd hnew (hresults r)
      | moves hstep _ _ hresults => exact ⟨s', hs', hstep.returned ((hresults r).1 hnew)⟩

include hserial hc hc' hrun h in
theorem step : Serial c₀ (labels ++ [l]) c' (effects ++ more) where
  once := hserial.once_step hrun hc hc' h
  wire := hserial.wire_step hrun hc hc' h
  others i hi := by
    rw [lockOrder_concat hrun h, List.mem_append, not_or] at hi
    rw [segment_concat hrun h, hserial.others i hi.1, hserial.handed_of_notMem hc h hi.1]
    rfl
  last _ := hserial.last_step hrun h
  served _ := hserial.served_step hrun hc hc' h
  sends _ _ := hserial.written_step hrun hc h
  returned _ _ := hserial.returned_step hc h

end step

theorem run (hrun : c₀.run? labels = some (c, effects)) (hin : c₀.InStep) (hkept : c₀.WriterKept)
    (hstart : Serial c₀ [] c₀ []) : Serial c₀ labels c effects := by
  refine run_induction (P := fun labels c effects => Serial c₀ labels c effects) hstart ?_ hrun
  intro labels c₁ first l c₂ others hbefore hserial h
  have hc₁ := hkept.run hin hbefore
  exact hserial.step hbefore hc₁ (hc₁.step (hin.run hbefore) h) h

end Serial

/-! ### Sends that write nothing any more -/

/-- If each step lets send `i` write nothing and return only such results, so does a run. -/
theorem silent_run {P : Connection → Prop} {Q : SendResult → Prop} {i : Nat}
    (hstep : ∀ {c c' : Connection} {l : Label} {effects : List Effect},
      c.step? l = some (c', effects) → P c →
        P c' ∧ handed i l effects = [] ∧ ∀ r, .sent i r ∈ effects → Q r)
    {c c' : Connection} {labels : List Label} {effects : List Effect}
    (hrun : c.run? labels = some (c', effects)) (hc : P c) :
    c.segment labels i = [] ∧ ∀ r, .sent i r ∈ effects → Q r := by
  have hall : P c' ∧ c.segment labels i = [] ∧ ∀ r, .sent i r ∈ effects → Q r := by
    refine run_induction (P := fun labels c' effects =>
      P c' ∧ c.segment labels i = [] ∧ ∀ r, .sent i r ∈ effects → Q r) ?_ ?_ hrun
    · exact ⟨hc, rfl, fun r hr => by cases hr⟩
    · intro labels c₁ first l c₂ others hbefore ⟨hc₁, hsegment, hresults⟩ h
      obtain ⟨hc₂, hhanded, hlast⟩ := hstep h hc₁
      refine ⟨hc₂, ?_, ?_⟩
      · have hconcat : c.segment (labels ++ [l]) i = c.segment labels i ++ handed i l others :=
          traced_concat _ hbefore h
        rw [hconcat, hsegment, hhanded]
        rfl
      · intro r hr
        rcases List.mem_append.1 hr with hold | hnew
        · exact hresults r hold
        · exact hlast r hnew
  exact hall.2

/-- Send `i` has not begun to wait or to write, and its first poll will refuse to. -/
structure Doomed (c : Connection) (i : Nat) : Prop where
  rests : ∀ s, c.sends[i]? = some s → s.state.engaged = false
  refuses : c.isDisposed = true ∨
    ∃ s, c.sends[i]? = some s ∧ s.cancelled = true ∧ s.bytes ≠ []

section silent

variable {c c' : Connection} {i : Nat} {s : Send} {labels : List Label} {effects : List Effect}

theorem SendStep.doomed {l : Label} {state : SendState} {lock : Lock Actor} {octets : Bytes}
    {result : Option SendResult} (h : SendStep c i s l state lock octets result)
    (hrests : s.state.engaged = false)
    (hrefuses : c.isDisposed = true ∨ (s.cancelled = true ∧ s.bytes ≠ [])) :
    octets = [] ∧ state.engaged = false ∧
      ∀ r, result = some r → c.isDisposed = true → r = .error .disposed := by
  -- a send that moves and neither waits nor writes is polled for the first time, or dropped
  have hfirst : s.state = .created := by
    rcases h.begun.2 with hcreated | hengaged
    · exact hcreated
    · rw [hrests] at hengaged
      cases hengaged
  have hasks {lock : Lock Actor} (hasks : c.Asks i s lock) : False := by
    rcases hasks.asks with ⟨-, hlive, -⟩ | ⟨hwaiting, -⟩
    · rcases hrefuses with hdisposed | ⟨hcancelled, -⟩
      · rw [hdisposed] at hlive
        cases hlive
      · have hfired := hasks.fired
        unfold fired at hfired
        rw [hcancelled] at hfired
        cases htoken : c.coordinator.token <;> simp [htoken, CancelSource.fired] at hfired
    · rw [hfirst] at hwaiting
      cases hwaiting
  have hwriting {rest : Bytes} {awake : Bool} (hstate : s.state = .writing rest awake) : False := by
    rw [hfirst] at hstate
    cases hstate
  cases h with
  | refused _ _ => exact ⟨rfl, rfl, fun r hr _ => (Option.some.inj hr).symm⟩
  | dropped _ _ => exact ⟨rfl, rfl, fun r hr => by cases hr⟩
  | empty _ hlive hempty =>
    refine ⟨rfl, rfl, fun r _ hdisposed => ?_⟩
    rw [hdisposed] at hlive
    cases hlive
  | interrupted hrests _ =>
    refine ⟨rfl, rfl, fun r _ hdisposed => ?_⟩
    rcases hrests with ⟨-, hlive, -⟩ | hwaiting | ⟨rest, hstate⟩
    · rw [hdisposed] at hlive
      cases hlive
    · rw [hfirst] at hwaiting
      cases hwaiting
    · exact (hwriting hstate).elim
  | waits h _ | begins h _ _ | bereft h _ => exact (hasks h).elim
  | resumed hstate _ | paused hstate | progressed hstate _ _ | completed hstate _ | failed hstate =>
    exact (hwriting hstate).elim

theorem Doomed.step (hdoomed : c.Doomed i) (hkept : c.WriterKept) {l : Label}
    (h : c.step? l = some (c', effects)) :
    c'.Doomed i ∧ handed i l effects = [] ∧
      ∀ r, .sent i r ∈ effects → c.isDisposed = true → r = .error .disposed := by
  have hdisposed : c.isDisposed = true → c'.isDisposed = true := (coordinator_step h).isDisposed
  cases hs : c.sends[i]? with
  | none =>
    obtain ⟨hhanded, hresults, hnew⟩ := fate_of_unmade h hs
    refine ⟨⟨fun s' hs' => by rw [hnew s' hs']; rfl, ?_⟩, hhanded,
      fun r hr => absurd hr (hresults r)⟩
    refine hdoomed.refuses.imp hdisposed ?_
    rintro ⟨s, hs₁, -⟩
    rw [hs] at hs₁
    cases hs₁
  | some s =>
    obtain ⟨s', hs', hbytes, hcancelled, hfate⟩ := fate_of_step hkept h hs
    have hrests := hdoomed.rests s hs
    have hrefuses : c.isDisposed = true ∨ (s.cancelled = true ∧ s.bytes ≠ []) := by
      refine hdoomed.refuses.imp_right ?_
      rintro ⟨s₁, hs₁, hrefuses⟩
      rw [hs] at hs₁
      cases hs₁
      exact hrefuses
    have hdoomed' (hstate : s'.state.engaged = false) : c'.Doomed i := by
      constructor
      · intro s₁ hs₁
        rw [hs'] at hs₁
        cases hs₁
        exact hstate
      · refine hrefuses.imp hdisposed fun hrefuses => ⟨s', hs', hcancelled hrefuses.1, ?_⟩
        rw [hbytes]
        exact hrefuses.2
    cases hfate with
    | rests hstate hhanded hresults _ =>
      exact ⟨hdoomed' (by rw [hstate]; exact hrests), hhanded, fun r hr => absurd hr (hresults r)⟩
    | moves hstep _ hhanded hresults =>
      obtain ⟨hoctets, hstate, hresult⟩ := hstep.doomed hrests hrefuses
      exact ⟨hdoomed' hstate, hhanded.trans hoctets, fun r hr => hresult r ((hresults r).1 hr)⟩

/-- A send that will refuse writes nothing, whatever happens, and after the disposal was asked for
    it returns nothing but that. -/
theorem Doomed.run (hdoomed : c.Doomed i) (hin : c.InStep) (hkept : c.WriterKept)
    (hrun : c.run? labels = some (c', effects)) :
    c.segment labels i = [] ∧
      ∀ r, .sent i r ∈ effects → c.isDisposed = true → r = .error .disposed := by
  refine silent_run (P := fun c' => c'.InStep ∧ c'.WriterKept ∧ c'.Doomed i ∧
    (c.isDisposed = true → c'.isDisposed = true)) ?_ hrun ⟨hin, hkept, hdoomed, id⟩
  rintro c₁ c₂ l effects h ⟨hin, hkept, hdoomed, hdisposed⟩
  obtain ⟨hdoomed', hhanded, hresults⟩ := hdoomed.step hkept h
  refine ⟨⟨hin.step h, hkept.step hin h, hdoomed', fun hc => ?_⟩, hhanded,
    fun r hr hc => hresults r hr (hdisposed hc)⟩
  exact (coordinator_step h).isDisposed (hdisposed hc)

/-- Once the writing half is gone it stays away. -/
theorem writeHalf_step {l : Label} (h : c.step? l = some (c', effects))
    (hhalf : c.writeHalf = false) : c'.writeHalf = false := by
  rcases leavesHalves_or_teardown h with hleaves | hteardown
  · rw [hleaves.writeHalf, hhalf]
  · cases hteardown <;> first | rfl | exact hhalf

/-- Without the writing half nothing is written. -/
theorem written_without_half (hrun : c.run? labels = some (c', effects)) (hin : c.InStep)
    (hkept : c.WriterKept) (hhalf : c.writeHalf = false) : written effects = [] := by
  have hall : (c'.InStep ∧ c'.WriterKept ∧ c'.writeHalf = false) ∧ written effects = [] := by
    refine run_induction (P := fun _ c' effects =>
      (c'.InStep ∧ c'.WriterKept ∧ c'.writeHalf = false) ∧ written effects = [])
      ⟨⟨hin, hkept, hhalf⟩, rfl⟩ ?_ hrun
    rintro labels c₁ first l c₂ others - ⟨⟨hin, hkept, hhalf⟩, hfirst⟩ h
    refine ⟨⟨hin.step h, hkept.step hin h, writeHalf_step h hhalf⟩, ?_⟩
    rw [written_append, hfirst]
    rcases written_of_step hkept h with hnil | ⟨i, ⟨-, hbehind⟩, -⟩
    · exact hnil
    · rw [hhalf] at hbehind
      cases hbehind
  exact hall.2

end silent

/-! ### The wire -/

/-- What the sends of a connection make of its wire, where a run from `c₀` has led to `c` with these
    effects. -/
structure Serialised (c₀ : Connection) (labels : List Label) (c : Connection)
    (effects : List Effect) : Prop where
  /-- There is one segment after another, one for each send that got the writing half, in the order
      in which they got it. -/
  wire : written effects = (c₀.lockOrder labels).flatMap (c₀.segment labels)
  /-- No send gets the half twice, and one that never gets it writes nothing. -/
  once : (c₀.lockOrder labels).Nodup
  others : ∀ i, i ∉ c₀.lockOrder labels → c₀.segment labels i = []
  /-- A segment is the first part of the buffer. -/
  begins : ∀ (i : Nat) (s : Send), c.sends[i]? = some s → c₀.segment labels i <+: s.bytes
  /-- It is the whole buffer where the send has returned its length. -/
  whole : ∀ i n, .sent i (.ok n) ∈ effects →
    ∃ s, c.sends[i]? = some s ∧ c₀.segment labels i = s.bytes ∧ n = s.bytes.length
  /-- Nothing is written before the first poll. -/
  unbegun : ∀ (i : Nat) (s : Send), c.sends[i]? = some s → s.state = .created →
    c₀.segment labels i = []
  /-- After the disposal was asked for a send that is called, whatever its buffer, learns that in
      its first poll. It never writes anything, nor returns anything else. -/
  late : c.isDisposed = true → ∀ i, (∀ s, c.sends[i]? = some s → s.state = .created) →
    ((c.sends[i]?).isSome = true →
      ∃ c', c.step? (.pollSend i) = some (c', [.sent i (.error .disposed)])) ∧
    ∀ more c' others, c.run? more = some (c', others) →
      c.segment more i = [] ∧ ∀ result, .sent i result ∈ others → result = .error .disposed
  /-- On a live connection a send of something whose caller has cancelled before learns that in its
      first poll, and never writes anything. -/
  cancelled : c.isDisposed = false → ∀ (i : Nat) (s : Send), c.sends[i]? = some s →
    s.state = .created → s.cancelled = true → s.bytes ≠ [] →
    (∃ c', c.step? (.pollSend i) =
      some (c', [.sent i (.error (.cancelled Operation.write.name))])) ∧
    ∀ more c' others, c.run? more = some (c', others) → c.segment more i = []
  /-- A teardown that is about to close the direction has taken the writing half, and nothing is
      written without it. -/
  taken : c.teardown = .halfClosing → c.writeHalf = false
  closed : c.writeHalf = false → ∀ more c' others, c.run? more = some (c', others) →
    written others = []

/-- **Sends follow one another, and stop at the disposal.** -/
theorem serialised_of_run {config : SocketConfig} {localAddress peerAddress : String}
    {timer : Timer} {labels : List Label} {c : Connection} {effects : List Effect}
    (h : (fresh config localAddress peerAddress timer).run? labels = some (c, effects)) :
    Serialised (fresh config localAddress peerAddress timer) labels c effects := by
  have hfresh := InStep.fresh config localAddress peerAddress timer
  have hstart := WriterKept.fresh config localAddress peerAddress timer
  have hin := hfresh.run h
  have hkept := hstart.run hfresh h
  have hserial := Serial.run h hfresh hstart (serial_start rfl fun i s hs => by
    simp [Connection.fresh] at hs)
  refine ⟨hserial.wire, hserial.once, hserial.others, fun i s hs => (hserial.sends i s hs).isPrefix,
    ?_, ?_, ?_, ?_, hkept.closes, fun hhalf more c' others hmore =>
      written_without_half hmore hin hkept hhalf⟩
  · intro i n hi
    obtain ⟨s, hs, hstate⟩ := hserial.returned i _ hi
    have hwritten := hserial.sends i s hs
    unfold Send.Written at hwritten
    rw [hstate] at hwritten
    exact ⟨s, hs, hwritten⟩
  · intro i s hs hcreated
    have hwritten := hserial.sends i s hs
    unfold Send.Written at hwritten
    rw [hcreated] at hwritten
    exact hwritten
  · intro hdisposed i hcreated
    constructor
    · intro hmade
      obtain ⟨s, hs⟩ := Option.isSome_iff_exists.1 hmade
      refine ⟨(c.returnSend i (.error .disposed)).1, (step_pollSend hs).trans ?_⟩
      simp only [pollSend, hcreated s hs, hdisposed, if_true]
      rfl
    · intro more c' others hmore
      have hdoomed : c.Doomed i := ⟨fun s hs => by rw [hcreated s hs]; rfl, .inl hdisposed⟩
      obtain ⟨hsegment, hresults⟩ := hdoomed.run hin hkept hmore
      exact ⟨hsegment, fun r hr => hresults r hr hdisposed⟩
  · intro hlive i s hs hcreated hcancelled hne
    have htoken : c.coordinator.token = false := by
      rw [← hin.isDisposed_eq]
      exact hlive
    constructor
    · have hfired : c.fired s.cancelled = some .external := by
        unfold fired
        rw [htoken, hcancelled]
        rfl
      have hsome : s.bytes.isEmpty = false := by simpa using hne
      refine ⟨(c.interruptSend i .external).1, (step_pollSend hs).trans ?_⟩
      simp only [pollSend, hcreated, hlive, hsome, hfired, Bool.false_eq_true, if_false]
      rfl
    · intro more c' others hmore
      have hdoomed : c.Doomed i := by
        refine ⟨fun s₁ hs₁ => ?_, .inr ⟨s, hs, hcancelled, hne⟩⟩
        rw [hs] at hs₁
        cases hs₁
        rw [hcreated]
        rfl
      exact (hdoomed.run hin hkept hmore).1

/-- The first send has to wait in the middle of its buffer and the second one waits behind it. Then
    the first one is dropped, the second one writes a part, and the disposal stops it. -/
theorem serialised_of_two :
    let labels : List Label :=
      [.send [1, 2, 3] false, .send [4, 5] false, .pollSend 0, .pollSend 1, .write 0 (.accepted 2),
        .write 0 .blocked, .dropSend 0, .pollSend 1, .write 1 (.accepted 1), .write 1 .blocked,
        .dispose, .teardown 0, .pollSend 1, .teardown 0]
    ∃ c effects, (fresh {} "" "").run? labels = some (c, effects) ∧
      c.teardown = .halfClosing ∧ written effects = [1, 2, 4] ∧
      (fresh {} "" "").lockOrder labels = [0, 1] ∧ results effects = [(1, .error .disposed)] ∧
      Serialised (fresh {} "" "") labels c effects :=
  ⟨_, _, rfl, rfl, rfl, rfl, rfl, serialised_of_run rfl⟩

end Duplex.Connection
