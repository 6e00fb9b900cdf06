import Duplex.Proofs.Conservation
import Duplex.Proofs.Receiving
import Duplex.Proofs.Wire

/-! # Disposal in the middle of a framed stream

  When a connection is disposed of, its receive streams end, and none of them fails: a read that
  is under way may still bring a chunk, and after that there is only the end (`run_after_token`).
  Framing makes something else of it. Its decoder takes that end for the end of the octets, so a
  stream that was interrupted inside a message ends with the decoder's error, as if the peer had cut
  it short. It ends without one exactly where the decoder holds nothing back
  (`framed_at_disposal`).
-/

namespace Duplex

open Decoder (feedAll outcome)
open Script (carried)

namespace Connection

/-! ### The token -/

/-- The disposal was not asked for, or the token has fired. -/
def TokenFollows (c : Connection) : Prop :=
  (c.coordinator.phase = .active ∧ c.teardown = .absent) ∨ c.coordinator.token = true

theorem token_dispose {c : Connection} (h : c.TokenFollows) :
    c.dispose.coordinator.token = true := by
  by_cases hactive : c.coordinator.phase = .active
  · unfold dispose
    rw [Coordinator.request_of_active hactive]
  · unfold dispose
    rw [Coordinator.request_of_not_active hactive]
    exact h.resolve_left fun hfresh => hactive hfresh.1

/-- The token does not go out again. -/
theorem token_step {c c' : Connection} {l : Label} {effects : List Effect}
    (h : c.step? l = some (c', effects)) (ht : c.coordinator.token = true) :
    c'.coordinator.token = true := by
  cases step_kind h with
  | aside _ haside =>
    rw [show c'.coordinator = c.coordinator from haside.coordinator]
    exact ht
  | receive _ _ _ _ _ _ _ hreceived =>
    rw [show c'.coordinator = c.coordinator from hreceived.coordinator]
    exact ht
  | new _ _ hnew =>
    cases hnew
    exact ht
  | dispose _ hdispose =>
    cases hdispose
    exact token_dispose (.inr ht)
  | torn _ htorn => exact htorn.token.trans ht

theorem token_run {c c' : Connection} {labels : List Label} {effects : List Effect}
    (h : c.run? labels = some (c', effects)) (ht : c.coordinator.token = true) :
    c'.coordinator.token = true := by
  induction labels generalizing c effects with
  | nil =>
    cases h
    exact ht
  | cons l labels ih =>
    obtain ⟨c₁, first, others, hstep, hrest, -⟩ := run?_cons_eq_some.1 h
    exact ih hrest (token_step hstep ht)

theorem tokenFollows_step {c c' : Connection} {l : Label} {effects : List Effect}
    (h : c.step? l = some (c', effects)) (hc : c.TokenFollows) : c'.TokenFollows := by
  rcases hc with hactive | htoken
  · cases step_kind h with
    | aside _ haside =>
      refine .inl ?_
      rw [show c'.coordinator = c.coordinator from haside.coordinator,
        show c'.teardown = c.teardown from haside.teardown]
      exact hactive
    | receive _ _ _ _ _ _ _ hreceived =>
      refine .inl ?_
      rw [show c'.coordinator = c.coordinator from hreceived.coordinator,
        show c'.teardown = c.teardown from hreceived.teardown]
      exact hactive
    | new _ _ hnew =>
      cases hnew
      exact .inl hactive
    | dispose _ hdispose =>
      cases hdispose
      exact .inr (token_dispose (.inl hactive))
    | torn _ htorn => exact absurd hactive.2 htorn.started
  · exact .inr (token_step h htoken)

theorem tokenFollows_run {c c' : Connection} {labels : List Label} {effects : List Effect}
    (h : c.run? labels = some (c', effects)) (hc : c.TokenFollows) : c'.TokenFollows := by
  induction labels generalizing c effects with
  | nil =>
    cases h
    exact hc
  | cons l labels ih =>
    obtain ⟨c₁, first, others, hstep, hrest, -⟩ := run?_cons_eq_some.1 h
    exact ih hrest (tokenFollows_step hstep hc)

/-! ### After the token -/

/-- Once the token has fired a stream only ends, unless its read was under way: that one may
    still bring a chunk, or have to wait. -/
theorem answers_after_token {c : Connection} (ht : c.coordinator.token = true) {i : Nat} {l : Label}
    {r r' : Receive} {answers : List ReceiveAnswer} (hstep : ReceiveStep c i l r r' answers) :
    (r'.state = .reading true → r.state = .reading true ∧ answers = []) ∧
    (answers = [] ∨ answers = [.ended] ∨
      r.state = .reading true ∧ (answers = [.pending] ∨ ∃ chunk, answers = [.next chunk])) := by
  have hfired : c.fired r.cancelled = some .disposal := by
    unfold fired
    rw [ht]
    rfl
  cases hstep with
  | other _ => exact ⟨fun h => ⟨h, rfl⟩, .inl rfl⟩
  | cancelled | panics _ => exact ⟨fun h => ⟨h, rfl⟩, .inl rfl⟩
  | dropped => exact ⟨fun h => (by cases h), .inl rfl⟩
  | ended _ _ => exact ⟨fun h => (by cases h), .inr (.inl rfl)⟩
  | interrupted _ _ hsource =>
    rw [hfired] at hsource
    cases hsource
    exact ⟨fun h => (by cases h), .inr (.inl rfl)⟩
  | waits _ hnone | reads _ hnone | bereft _ hnone _ | retried _ _ hnone =>
    rw [hfired] at hnone
    cases hnone
  | blocked hstate => exact ⟨fun h => (by cases h), .inr (.inr ⟨hstate, .inl rfl⟩)⟩
  | chunk hstate _ => exact ⟨fun h => (by cases h), .inr (.inr ⟨hstate, .inr ⟨_, rfl⟩⟩)⟩
  | closed _ =>
    have hanswer : c.peerCloseAnswer = .ended := if_pos ht
    exact ⟨fun h => absurd h (r.not_reading_conclude _ true), .inr (.inl (by rw [hanswer]))⟩
  | stopped _ _ hsource =>
    rw [hfired] at hsource
    cases hsource
    exact ⟨fun h => (by cases h), .inr (.inl rfl)⟩
  | @failed _ e _ _ =>
    have hanswer : c.readFailure e = .ended := if_pos ht
    exact ⟨fun h => absurd h (r.not_reading_conclude _ true), .inr (.inl (by rw [hanswer]))⟩

/-- A stream whose read is not under way only ends. -/
theorem run_after_token_of_rest {c c' : Connection} (ht : c.coordinator.token = true) {i : Nat}
    (hrest : ∀ r, c.receives[i]? = some r → r.state ≠ .reading true) {labels : List Label}
    {effects : List Effect} (h : c.run? labels = some (c', effects)) :
    ∃ n ≤ 1, answersOf i effects = List.replicate n .ended := by
  induction labels generalizing c effects with
  | nil =>
    cases h
    exact ⟨0, Nat.zero_le 1, rfl⟩
  | cons l labels ih =>
    obtain ⟨c₁, first, others, hstep, hlater, rfl⟩ := run?_cons_eq_some.1 h
    rw [answersOf_append]
    cases hr : c.receives[i]? with
    | none =>
      obtain ⟨hfirst, hidle⟩ := step_unmade hstep hr
      obtain ⟨n, hle, hn⟩ := ih (token_step hstep ht) (fun r hr => by simp [hidle r hr]) hlater
      exact ⟨n, hle, by rw [hfirst, hn, List.nil_append]⟩
    | some r =>
      obtain ⟨r', hr', hreceive⟩ := step_receive hstep hr
      obtain ⟨hreading, hanswers⟩ := answers_after_token ht hreceive
      have hrest' : ∀ r, c₁.receives[i]? = some r → r.state ≠ .reading true := by
        intro r₁ hr₁ hstate
        rw [hr'] at hr₁
        cases hr₁
        exact hrest r hr (hreading hstate).1
      obtain ⟨n, hle, hn⟩ := ih (token_step hstep ht) hrest' hlater
      rcases hanswers with hnil | hended | ⟨hstate, -⟩
      · exact ⟨n, hle, by rw [hnil, hn, List.nil_append]⟩
      · -- that was its last answer
        rw [hended] at hreceive ⊢
        exact ⟨1, Nat.le_refl 1, by rw [(run_of_gone hr' hreceive.gone_of_ended hlater).2]; rfl⟩
      · exact absurd hstate (hrest r hr)

/-- What a stream answers once the token has fired: the chunk or the pause of a read that was
    under way, if one was, and then only the end. -/
theorem run_after_token {c c' : Connection} (ht : c.coordinator.token = true) (i : Nat)
    {labels : List Label} {effects : List Effect} (h : c.run? labels = some (c', effects)) :
    ∃ last, ∃ n ≤ 1, answersOf i effects = last ++ List.replicate n .ended ∧
      (last = [] ∨ last = [.pending] ∨ ∃ chunk, last = [.next chunk]) := by
  induction labels generalizing c effects with
  | nil =>
    cases h
    exact ⟨[], 0, Nat.zero_le 1, rfl, .inl rfl⟩
  | cons l labels ih =>
    by_cases hreads : ∃ r, c.receives[i]? = some r ∧ r.state = .reading true
    · obtain ⟨r, hr, hstate⟩ := hreads
      obtain ⟨c₁, first, others, hstep, hlater, rfl⟩ := run?_cons_eq_some.1 h
      obtain ⟨r', hr', hreceive⟩ := step_receive hstep hr
      obtain ⟨hreading, hanswers⟩ := answers_after_token ht hreceive
      rw [answersOf_append]
      by_cases hstate' : r'.state = .reading true
      · -- the read is still under way
        obtain ⟨last, n, hle, hlast, hkind⟩ := ih (token_step hstep ht) hlater
        exact ⟨last, n, hle, by rw [(hreading hstate').2, hlast, List.nil_append], hkind⟩
      · have hrest : ∀ r, c₁.receives[i]? = some r → r.state ≠ .reading true := by
          intro r₁ hr₁
          rw [hr'] at hr₁
          cases hr₁
          exact hstate'
        obtain ⟨n, hle, hn⟩ := run_after_token_of_rest (token_step hstep ht) hrest hlater
        rcases hanswers with hnil | hended | ⟨-, hlast⟩
        · exact ⟨[], n, hle, by rw [hnil, hn], .inl rfl⟩
        · rw [hended] at hreceive ⊢
          refine ⟨[], 1, Nat.le_refl 1, ?_, .inl rfl⟩
          rw [(run_of_gone hr' hreceive.gone_of_ended hlater).2]
          rfl
        · exact ⟨_, n, hle, by rw [hn], .inr hlast⟩
    · have hrest : ∀ r, c.receives[i]? = some r → r.state ≠ .reading true :=
        fun r hr hstate => hreads ⟨r, hr, hstate⟩
      obtain ⟨n, hle, hn⟩ := run_after_token_of_rest ht hrest h
      exact ⟨[], n, hle, hn, .inl rfl⟩

/-- A poll of a stream that rests and has not ended finds it at its end. -/
theorem poll_after_token {c : Connection} (ht : c.coordinator.token = true) {i : Nat} {r : Receive}
    (hr : c.receives[i]? = some r) (hreading : r.state ≠ .reading true) (hgone : ¬r.Gone) :
    ∃ c' effects, c.step? (.pollReceive i) = some (c', effects) ∧
      answersOf i effects = [.ended] := by
  have hfired : c.fired r.cancelled = some .disposal := by
    unfold fired
    rw [ht]
    rfl
  have hinterrupted := received_interruptReceive hr .disposal
  have hstep : c.step? (.pollReceive i) = c.pollReceive i r := by
    show (c.receives[i]?).bind (c.pollReceive i) = _
    rw [hr]
    rfl
  have hinterrupts (h : c.pollReceive i r = some (c.interruptReceive i .disposal)) :
      ∃ c' effects, c.step? (.pollReceive i) = some (c', effects) ∧
        answersOf i effects = [.ended] :=
    ⟨_, _, hstep.trans h, hinterrupted.answers⟩
  rcases hstate : r.state with _ | _ | awake | _ | _
  · by_cases hfinished : r.finished = true
    · refine ⟨c.setReceive i .exhausted, [.answered i .ended], ?_,
        (Received.of_told hr c.reader .exhausted .ended).answers⟩
      simp only [hstep, pollReceive, hstate, hfinished, if_true]
    · apply hinterrupts
      simp only [pollReceive, hstate, if_neg hfinished, hfired]
  · apply hinterrupts
    simp only [pollReceive, hstate, hfired]
  · cases awake with
    | true => exact absurd hstate hreading
    | false =>
      apply hinterrupts
      simp only [pollReceive, hstate, hfired]
  · exact absurd (.inl hstate) hgone
  · exact absurd (.inr hstate) hgone

end Connection

/-! ### Framing -/

namespace Script

variable {ε : Type}

/-- Answers that are not final carry their octets, in front of what comes after them. -/
theorem carried_append {answers : List (Polled Bytes ε)} (h : ∀ a ∈ answers, a.isFinal = false)
    (more : List (Polled Bytes ε)) :
    carried (answers ++ more) =
      (answers.flatMap Polled.octets ++ (carried more).1, (carried more).2) := by
  induction answers with
  | nil => rfl
  | cons answer answers ih =>
    obtain ⟨hanswer, hanswers⟩ := List.forall_mem_cons.1 h
    have hcarried : carried (answer :: answers ++ more) =
        carriedBy answer (carried (answers ++ more)) := rfl
    rw [hcarried, ih hanswers]
    cases answer with
    | pending => rfl
    | next chunk => simp [carriedBy, Polled.octets]
    | failed e | ended => cases hanswer

theorem octets_replicate_ended (n : Nat) :
    (List.replicate n (.ended : Polled Bytes ε)).flatMap Polled.octets = [] := by
  rw [List.flatMap_replicate]
  simp [Polled.octets]

theorem carried_replicate_ended (n : Nat) :
    carried (List.replicate n (.ended : Polled Bytes ε)) = ([], none) := by
  cases n <;> rfl

end Script

namespace Framing

/-- What a stream answers after its last message, if its octets end with the decoder in this
    state. -/
def lastAnswer (d : Framing) : Polled Message ConnectionError :=
  if d.pendingLen = 0 then .ended else .failed (.frame d.unfinished)

theorem outcome_of_wire {d : SoundDecoder Framing} {wire octets : Bytes} (h : WireOf d wire)
    (hbegins : octets <+: wire) :
    outcome (ε := ConnectionError) d.1 (octets, none) =
      ⟨(feedAll d.1 octets).items.toList, (feedAll d.1 octets).decoder.lastAnswer⟩ := by
  obtain ⟨more, rfl⟩ := hbegins
  have herror : (feedAll d.1 octets).error = none := Decoder.error_of_prefix h.error_eq_none
  simp only [outcome, herror, Decoder.closing, finish_eq, lastAnswer]
  by_cases hpending : (feedAll d.1 octets).decoder.pendingLen = 0
  · simp only [if_pos hpending]
  · simp only [if_neg hpending]
    rfl

end Framing

namespace Connection

/-- How receive stream `i` of `c`, and framing over it, come to their end after the disposal was
    asked for: before that it had answered `earlier`, since then `later`. -/
structure EndsAtDisposal (c : Connection) (i : Nat) (earlier later : List ReceiveAnswer) :
    Prop where
  /-- The stream itself does not fail: a read that was under way has brought a chunk, or nothing,
      and then there was only the end, once at most. -/
  answers : ∃ last, ∃ n ≤ 1, later = last ++ List.replicate n .ended ∧
    (last = [] ∨ last = [.pending] ∨ ∃ chunk, last = [.next chunk])
  /-- Unless it has ended, was dropped or its read is under way, the next poll gets the end. -/
  ends : ∀ r, c.receives[i]? = some r → r.state ≠ .reading true → ¬r.Gone →
    ∃ c' effects, c.step? (.pollReceive i) = some (c', effects) ∧ answersOf i effects = [.ended]
  /-- If what was received is the first part of a wire, framing delivers the messages that are
      complete in it. After them it ends if its decoder holds nothing back, and otherwise it fails
      with that decoder's error. Pulled and pushed messages do not differ in this. -/
  framed : .ended ∈ later → ∀ (d : SoundDecoder Framing) (wire : Bytes), Framing.WireOf d wire →
    (earlier ++ later).flatMap Polled.octets <+: wire →
    let run := feedAll d.1 ((earlier ++ later).flatMap Polled.octets)
    let o : Outcome Message ConnectionError := ⟨run.items.toList, run.decoder.lastAnswer⟩
    let source : Script Bytes ConnectionError := ⟨earlier ++ later, 0⟩
    Source.Answers (FramedStream.new source d.1) o ∧
    ∀ (ο : Type) [Observer ο Message ConnectionError] (x : ο),
      (drive source (FramedObserver.mk d.1 x false)).2.downstream =
        o.answers.foldl Observer.tell x

/-- **Disposal ends a framed stream as its decoder sees fit.** -/
theorem framed_at_disposal {c c₁ c₂ : Connection} (hc : c.TokenFollows)
    {before after : List Label} {effects₁ effects₂ : List Effect}
    (hbefore : c.run? before = some (c₁, effects₁)) {i : Nat}
    (hopen : ∀ a ∈ answersOf i effects₁, a.isFinal = false)
    (hafter : c₁.run? (.dispose :: after) = some (c₂, effects₂)) :
    c₂.EndsAtDisposal i (answersOf i effects₁) (answersOf i effects₂) := by
  obtain ⟨c', first, others, hdispose, hrest, rfl⟩ := run?_cons_eq_some.1 hafter
  cases hdispose
  have ht : c₁.dispose.coordinator.token = true := token_dispose (tokenFollows_run hbefore hc)
  obtain ⟨last, n, hle, hlast, hkind⟩ := run_after_token ht i hrest
  rw [List.nil_append, hlast]
  refine ⟨⟨last, n, hle, rfl, hkind⟩, ?_, ?_⟩
  · intro r hr hreading hgone
    exact poll_after_token (token_run hrest ht) hr hreading hgone
  · intro _ d wire hwire hbegins
    -- the first final answer is the end, and all octets came before it
    have hopen' : ∀ a ∈ answersOf i effects₁ ++ last, a.isFinal = false := by
      intro a ha
      rcases List.mem_append.1 ha with hearlier | hlater
      · exact hopen a hearlier
      · rcases hkind with rfl | rfl | ⟨chunk, rfl⟩
        · cases hlater
        · cases List.mem_singleton.1 hlater
          rfl
        · cases List.mem_singleton.1 hlater
          rfl
    have hcarried : carried (answersOf i effects₁ ++
        (last ++ List.replicate n (.ended : ReceiveAnswer))) =
        ((answersOf i effects₁ ++ (last ++ List.replicate n (.ended : ReceiveAnswer))).flatMap
          Polled.octets, none) := by
      have hoctets (answers : List ReceiveAnswer) :
          (answers ++ List.replicate n (.ended : ReceiveAnswer)).flatMap Polled.octets =
            answers.flatMap Polled.octets := by
        rw [List.flatMap_append, Script.octets_replicate_ended, List.append_nil]
      rw [← List.append_assoc, Script.carried_append hopen', Script.carried_replicate_ended,
        hoctets, List.append_nil]
    have houtcome := Framing.outcome_of_wire hwire hbegins
    rw [← hcarried] at houtcome
    constructor
    · rw [← houtcome]
      exact FramedStream.answers_new d.2 _
    · intro ο _ x
      rw [← houtcome]
      exact (FramedObserver.drive_framedObserver d.2 x _).2

/-- The first octet of the text "A" has come, and the next read has to wait when the disposal is
    asked for: the receive stream ends, and framing over it fails. -/
theorem framed_at_disposal_of_cut_text :
    let c : Connection := {}
    let before : List Label :=
      [.receive false, .pollReceive 0, .read 0 (.chunk [65]), .pollReceive 0, .read 0 .blocked]
    let earlier : List ReceiveAnswer := [.next [65], .pending]
    ∃ c₁ c₂ effects₁ effects₂, c.run? before = some (c₁, effects₁) ∧
      c₁.run? [.dispose, .pollReceive 0] = some (c₂, effects₂) ∧
      answersOf 0 effects₁ = earlier ∧ answersOf 0 effects₂ = [.ended] ∧
      c₂.EndsAtDisposal 0 earlier [.ended] ∧
      Source.Answers
        (FramedStream.new (⟨earlier ++ [.ended], 0⟩ : Script Bytes ConnectionError)
          Framing.newTexts.1)
        ⟨[], .failed (.frame (.noTermination 1))⟩ := by
  intro c before earlier
  have hopen : ∀ a ∈ earlier, a.isFinal = false := by
    simp [earlier, Polled.isFinal]
  have hends {c₁ c₂ : Connection} {effects₁ effects₂ : List Effect}
      (hbefore : c.run? before = some (c₁, effects₁)) (hearlier : answersOf 0 effects₁ = earlier)
      (hafter : c₁.run? [.dispose, .pollReceive 0] = some (c₂, effects₂)) :
      c₂.EndsAtDisposal 0 (answersOf 0 effects₁) (answersOf 0 effects₂) :=
    framed_at_disposal (.inl ⟨rfl, rfl⟩) hbefore (hearlier ▸ hopen) hafter
  have hdisposed := hends rfl rfl rfl
  refine ⟨_, _, _, _, rfl, rfl, rfl, rfl, hdisposed, ?_⟩
  have hframed := hdisposed.framed (by decide) Framing.newTexts [65, 0] (.texts ["A"]) (by decide)
  exact hframed.1

/-- So the end of a framed stream at the disposal can be an error, although what was received is
    the first part of a wire. -/
theorem framed_error_at_disposal :
    let source : Script Bytes ConnectionError := ⟨[.next [65], .pending, .ended], 0⟩
    (∃ c₁ c₂ effects₁ effects₂,
      run? {} [.receive false, .pollReceive 0, .read 0 (.chunk [65]), .pollReceive 0,
        .read 0 .blocked] = some (c₁, effects₁) ∧
      c₁.run? [.dispose, .pollReceive 0] = some (c₂, effects₂) ∧
      answersOf 0 effects₁ ++ answersOf 0 effects₂ = source.answers) ∧
    Framing.WireOf Framing.newTexts [65, 0] ∧
    source.answers.flatMap Polled.octets <+: [65, 0] ∧
    Source.heard (FramedStream.new source Framing.newTexts.1) 2 =
      [.failed (.frame (.noTermination 1))] ∧
    (drive source (FramedObserver.mk Framing.newTexts.1 ({} : Recorder Message ConnectionError)
      false)).2.downstream.notices = #[.failed (.frame (.noTermination 1))] := by
  intro source
  refine ⟨⟨_, _, _, _, rfl, rfl, rfl⟩, .texts ["A"], ?_, ?_, ?_⟩
  · decide
  · decide +kernel
  · decide +kernel

end Connection

end Duplex
