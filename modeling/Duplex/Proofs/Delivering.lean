import Duplex.Proofs.Interruption
import Duplex.Proofs.ReadingHalf

/-! # What receive streams deliver

  Streams may share a connection, follow one another, be cancelled and dropped: the octets that the
  socket hands out go to the streams in the order in which they come, each once, until the teardown
  has the reading half and reads the rest for itself (`ReceiveLaw.conserved`). Each stream gives
  chunks, then at most one error, then its end, and reads no more after the error or the end. What
  these are depends on who was first: the disposal goes before the caller's token, and both go
  before the socket. A stream must not be polled once it has ended, and a poll that comes all the
  same panics (`ReceiveLaw.panics`).
-/

namespace Duplex.Connection

/-! ### What the socket hands out -/

/-- The octets that the socket hands out in a step with this label. -/
def Label.handsOut : Label → Bytes
  | .read _ (.chunk bytes) | .drain (.chunk bytes) => bytes
  | _ => []

/-- The octets that the teardown reads for itself in a step with this label. -/
def Label.drains : Label → Bytes
  | .drain (.chunk bytes) => bytes
  | _ => []

/-- The octets that an effect delivers to a receive stream. -/
def Effect.delivers : Effect → Bytes
  | .answered _ (.next bytes) => bytes
  | _ => []

/-- The octets that have arrived in a run with these labels. -/
def arrived (labels : List Label) : Bytes := labels.flatMap Label.handsOut

/-- The octets that the teardown has read for itself in such a run. -/
def drained (labels : List Label) : Bytes := labels.flatMap Label.drains

/-- The octets that some effects deliver to receive streams, to whichever of them. -/
def delivered (effects : List Effect) : Bytes := effects.flatMap Effect.delivers

theorem arrived_concat (labels : List Label) (l : Label) :
    arrived (labels ++ [l]) = arrived labels ++ l.handsOut := by
  simp [arrived]

theorem drained_concat (labels : List Label) (l : Label) :
    drained (labels ++ [l]) = drained labels ++ l.drains := by
  simp [drained]

theorem delivered_append (effects more : List Effect) :
    delivered (effects ++ more) = delivered effects ++ delivered more := List.flatMap_append

/-- Where no stream is answered with octets, none are delivered. -/
theorem delivered_eq_nil {effects : List Effect}
    (h : ∀ i, (answersOf i effects).flatMap Polled.octets = []) : delivered effects = [] := by
  refine List.flatMap_eq_nil_iff.2 fun effect heffect => ?_
  cases effect with
  | answered i answer =>
    have hanswer : answer ∈ answersOf i effects :=
      List.mem_filterMap.2 ⟨_, heffect, if_pos rfl⟩
    have hoctets := List.flatMap_eq_nil_iff.1 (h i) answer hanswer
    cases answer with
    | next bytes => exact hoctets
    | pending | failed _ | ended => rfl
  | wrote _ | sent _ _ | panicked _ | writerDropped | readerDropped | recorded _ => rfl

section steps

variable {c c' : Connection} {l : Label} {effects : List Effect}

/-- A stream is answered with octets only when its read brings them. -/
theorem ReceiveStep.octets {i : Nat} {r r' : Receive} {answers : List ReceiveAnswer}
    (h : ReceiveStep c i l r r' answers) (hl : ∀ bytes, l ≠ .read i (.chunk bytes)) :
    answers.flatMap Polled.octets = [] := by
  cases h with
  | @chunk _ bytes _ _ => exact absurd rfl (hl bytes)
  | interrupted _ _ _ | stopped _ _ _ =>
    rename_i source _ _ _
    cases source <;> rfl
  | closed _ =>
    unfold peerCloseAnswer
    split
    · rfl
    · split <;> rfl
  | failed _ _ =>
    unfold readFailure
    split <;> rfl
  | other _ | cancelled | dropped | ended _ _ | panics _ | waits _ _ | reads _ _ | bereft _ _ _
  | blocked _ | retried _ _ _ => rfl

/-- A step delivers nothing, unless it is a read that brings octets. -/
theorem delivered_of_step (h : c.step? l = some (c', effects))
    (hl : ∀ i bytes, l ≠ .read i (.chunk bytes)) : delivered effects = [] := by
  refine delivered_eq_nil fun i => ?_
  cases hr : c.receives[i]? with
  | none => rw [(step_unmade h hr).1, List.flatMap_nil]
  | some r =>
    obtain ⟨r', -, hstep⟩ := step_receive h hr
    exact hstep.octets (hl i)

theorem step_read {i : Nat} {r : Receive} (hr : c.receives[i]? = some r) (answer : ReadAnswer) :
    c.step? (.read i answer) = c.read i r answer := by
  show (c.receives[i]?).bind (c.read i · answer) = _
  rw [hr]
  rfl

/-- A read that brings octets delivers them. -/
theorem delivered_of_chunk {i : Nat} {bytes : Bytes}
    (h : c.step? (.read i (.chunk bytes)) = some (c', effects)) :
    delivered effects = bytes ∧ ∃ r, c.receives[i]? = some r ∧ r.state = .reading true := by
  obtain ⟨r, hr, hread⟩ := Option.bind_eq_some_iff.1 h
  have hstate : r.state = .reading true := by
    unfold read at hread
    split at hread
    case h_5 => cases hread
    all_goals assumption
  simp only [read, hstate] at hread
  split at hread
  · cases hread
  · cases hread
    exact ⟨List.append_nil _, r, hr, hstate⟩

/-- Once the reading half is gone it stays away. -/
theorem readHalf_step (h : c.step? l = some (c', effects)) (hhalf : c.readHalf = false) :
    c'.readHalf = false := by
  rcases leavesHalves_or_teardown h with hleaves | hteardown
  · rw [hleaves.readHalf, hhalf]
  · cases hteardown <;> first | rfl | exact hhalf

/-- The teardown reads only when it has the half. -/
theorem readHalf_of_drain (hc : c.ReaderKept) {answer : ReadAnswer}
    (h : c.step? (.drain answer) = some (c', effects)) : c.readHalf = false := by
  cases step_teardown (.inl rfl) h with
  | drains hstate => exact hc.drains _ _ hstate
  | drained hstate => exact hc.drains _ _ hstate

/-! ### Octets in a run -/

theorem conserved_run {labels : List Label} (hin : c.InStep) (hkept : c.ReaderKept)
    (h : c.run? labels = some (c', effects)) :
    arrived labels = delivered effects ++ drained labels := by
  -- what the teardown has read comes last, since nobody else reads after it
  have hall : arrived labels = delivered effects ++ drained labels ∧
      (drained labels ≠ [] → c'.readHalf = false) := by
    refine run_induction (P := fun labels c' effects =>
      arrived labels = delivered effects ++ drained labels ∧
        (drained labels ≠ [] → c'.readHalf = false)) ⟨rfl, fun hne => absurd rfl hne⟩ ?_ h
    intro labels c₁ first l c₂ others hbefore ⟨hconserved, hhalf⟩ hstep
    have hkept₁ : c₁.ReaderKept := hkept.run hin hbefore
    rw [arrived_concat, drained_concat, delivered_append, hconserved]
    by_cases hchunk : ∃ i bytes, l = .read i (.chunk bytes)
    · -- a stream reads, so the teardown has read nothing yet
      obtain ⟨i, bytes, rfl⟩ := hchunk
      obtain ⟨hdelivered, r, hr, hstate⟩ := delivered_of_chunk hstep
      have hnone : drained labels = [] := by
        refine Classical.byContradiction fun hne => ?_
        rw [(hkept₁.reads i r true hr hstate).2] at hhalf
        cases hhalf hne
      rw [hdelivered, hnone]
      simp [Label.handsOut, Label.drains]
    · have hquiet : delivered others = [] :=
        delivered_of_step hstep fun i bytes hl => hchunk ⟨i, bytes, hl⟩
      rw [hquiet, List.append_nil]
      -- what comes now goes to the teardown, if anything comes
      have hsame : l.handsOut = l.drains := by
        unfold Label.handsOut Label.drains
        split
        · next i bytes => exact absurd ⟨i, bytes, rfl⟩ hchunk
        · rfl
        · split
          · simp_all
          · rfl
      refine ⟨by rw [hsame, List.append_assoc], fun hne => ?_⟩
      by_cases hdrains : l.drains = []
      · rw [hdrains, List.append_nil] at hne
        exact readHalf_step hstep (hhalf hne)
      · unfold Label.drains at hdrains
        split at hdrains
        · exact readHalf_step hstep (readHalf_of_drain hkept₁ hstep)
        · exact absurd rfl hdrains
  exact hall.1

end steps

/-! ### The answers of one stream -/

/-- The answers of a stream that is `r` after them: chunks, then at most one error, then at most the
    end. -/
inductive Lawful (r : Receive) : List ReceiveAnswer → Prop where
  | running {answers : List ReceiveAnswer} (hr : r.Open)
      (hopen : ∀ a ∈ answers, a.isFinal = false) : Lawful r answers
  | failed {running : List ReceiveAnswer} {e : ConnectionError} (hconcluded : r.Concluded)
      (hnot : r.state ≠ .exhausted) (hopen : ∀ a ∈ running, a.isFinal = false) :
      Lawful r (running ++ [.failed e])
  | ended {running : List ReceiveAnswer} {e : Option ConnectionError} (hgone : r.Gone)
      (hopen : ∀ a ∈ running, a.isFinal = false) :
      Lawful r (running ++ (Option.toList e).map .failed ++ [.ended])

section lawful

variable {c c' : Connection} {l : Label} {i : Nat} {r r' : Receive}
  {answers : List ReceiveAnswer}

/-- A stream that has not given its last answer goes on, or gives it now. -/
theorem ReceiveStep.running (h : ReceiveStep c i l r r' answers) (hr : r.Open) :
    (r'.Open ∧ ∀ a ∈ answers, a.isFinal = false) ∨
    (r'.Concluded ∧ (answers = [.ended] ∨
      ∃ e, answers = [.failed e] ∧ r'.state ≠ .exhausted)) := by
  have hlast {answer : ReceiveAnswer} (hfinal : answer = .ended ∨ ∃ e, answer = .failed e) :
      (r.conclude answer).Concluded ∧ ([answer] = [.ended] ∨
        ∃ e, [answer] = [.failed e] ∧ (r.conclude answer).state ≠ .exhausted) := by
    refine ⟨r.concluded_conclude answer, ?_⟩
    rcases hfinal with rfl | ⟨e, rfl⟩
    · exact .inl rfl
    · exact .inr ⟨e, rfl, by simp [Receive.conclude]⟩
  have hinterruption (source : CancelSource) :
      interruption source = .ended ∨ ∃ e, interruption source = .failed e := by
    cases source with
    | disposal => exact .inl rfl
    | external => exact .inr ⟨_, rfl⟩
  obtain ⟨hfinished, hnot⟩ := hr
  cases h with
  | other _ | cancelled | retried _ _ _ => exact .inl ⟨⟨hfinished, hnot⟩, by simp⟩
  | dropped | reads _ _ => exact .inl ⟨⟨hfinished, by simp⟩, by simp⟩
  | waits _ _ | blocked _ | chunk _ _ =>
    exact .inl ⟨⟨hfinished, by simp⟩, by simp [Polled.isFinal]⟩
  | ended _ h =>
    rw [hfinished] at h
    cases h
  | panics hstate => exact absurd hstate hnot
  | interrupted _ _ _ | stopped _ _ _ => exact .inr (hlast (hinterruption _))
  | bereft _ _ _ => exact .inr (hlast (.inl rfl))
  | closed _ =>
    refine .inr (hlast ?_)
    unfold peerCloseAnswer
    split
    · exact .inl rfl
    · split
      · exact .inl rfl
      · exact .inr ⟨_, rfl⟩
  | failed _ _ =>
    refine .inr (hlast ?_)
    unfold readFailure
    split
    · exact .inl rfl
    · exact .inr ⟨_, rfl⟩

theorem Lawful.step {before : List ReceiveAnswer} (hr : Lawful r before)
    (h : ReceiveStep c i l r r' answers) : Lawful r' (before ++ answers) := by
  cases hr with
  | running hr hopen =>
    rcases h.running hr with ⟨hr', hanswers⟩ | ⟨hconcluded, hlast⟩
    · refine .running hr' fun a ha => ?_
      exact (List.mem_append.1 ha).elim (hopen a) (hanswers a)
    · -- this answer is the last one, the end or an error before it
      rcases hlast with rfl | ⟨e, rfl, hnot'⟩
      · simpa using Lawful.ended (e := none) h.gone_of_ended hopen
      · exact .failed hconcluded hnot' hopen
  | @failed running e hconcluded hnot hopen =>
    obtain ⟨hconcluded', hanswers, -⟩ := h.concluded hconcluded
    rcases hanswers with ⟨rfl, hstays⟩ | rfl
    · rw [List.append_nil]
      exact .failed hconcluded' (mt hstays hnot) hopen
    · exact Lawful.ended (e := some e) h.gone_of_ended hopen
  | ended hgone hopen =>
    obtain ⟨hgone', -, rfl, -⟩ := h.gone hgone
    rw [List.append_nil]
    exact .ended hgone' hopen

/-- A stream that has answered its end is gone. -/
theorem Lawful.gone (h : Lawful r answers) (hended : .ended ∈ answers) : r.Gone := by
  cases h with
  | running _ hopen => cases hopen _ hended
  | failed _ _ hopen =>
    rcases List.mem_append.1 hended with hmem | hmem
    · cases hopen _ hmem
    · cases List.mem_singleton.1 hmem
  | ended hgone _ => exact hgone

/-- A stream that is over has answered its end. -/
theorem Lawful.ended_mem (h : Lawful r answers) (hexhausted : r.state = .exhausted) :
    .ended ∈ answers := by
  cases h with
  | running hr _ => exact absurd hexhausted hr.2
  | failed _ hnot _ => exact absurd hexhausted hnot
  | ended _ _ => simp

/-- A stream that has given its last answer, or the error before it, is at its end. -/
theorem Lawful.concluded (h : Lawful r answers) (hfinal : ∃ a ∈ answers, a.isFinal = true) :
    r.Concluded := by
  cases h with
  | running _ hopen =>
    obtain ⟨a, ha, hfinal⟩ := hfinal
    rw [hopen a ha] at hfinal
    cases hfinal
  | failed hconcluded _ _ => exact hconcluded
  | ended hgone _ => exact .inr hgone

/-- A stream that has given neither goes on. -/
theorem Lawful.isOpen (h : Lawful r answers) (hopen : ∀ a ∈ answers, a.isFinal = false) :
    r.Open := by
  cases h with
  | running hr _ => exact hr
  | failed _ _ _ | ended _ _ => cases hopen _ (List.mem_append_right _ List.mem_cons_self)

theorem Lawful.shape (h : Lawful r answers) : ∃ running error, ∃ n ≤ 1,
    answers = running ++ (Option.toList error).map .failed ++ List.replicate n .ended ∧
    ∀ a ∈ running, a.isFinal = false := by
  cases h with
  | running _ hopen => exact ⟨answers, none, 0, Nat.zero_le 1, by simp, hopen⟩
  | @failed running e _ _ hopen => exact ⟨running, some e, 0, Nat.zero_le 1, by simp, hopen⟩
  | @ended running e _ hopen => exact ⟨running, e, 1, Nat.le_refl 1, rfl, hopen⟩

/-- A stream of a connection that was new is lawful, and so is its making. -/
theorem lawful_run {labels : List Label} {effects : List Effect}
    (hnone : c.receives = []) (h : c.run? labels = some (c', effects)) (i : Nat) :
    (∀ r, c'.receives[i]? = some r → Lawful r (answersOf i effects)) ∧
      (c'.receives[i]? = none → answersOf i effects = []) := by
  refine run_induction (P := fun _ c' effects =>
    (∀ r, c'.receives[i]? = some r → Lawful r (answersOf i effects)) ∧
      (c'.receives[i]? = none → answersOf i effects = [])) ?_ ?_ h
  · simp [hnone, answersOf]
  · rintro labels c₁ first l c₂ others - ⟨hlaw, hsilent⟩ hstep
    rw [answersOf_append]
    cases hr : c₁.receives[i]? with
    | none =>
      -- it is made now at the earliest, and has answered nothing
      obtain ⟨hothers, hnew⟩ := step_unmade hstep hr
      rw [hsilent hr, hothers]
      refine ⟨fun r hr' => ?_, fun _ => rfl⟩
      exact .running (hnew r hr').2 fun a ha => (by cases ha)
    | some r =>
      obtain ⟨r', hr', hmove⟩ := step_receive hstep hr
      refine ⟨fun r₂ hr₂ => ?_, fun hnone => ?_⟩
      · rw [hr'] at hr₂
        cases hr₂
        exact (hlaw r hr).step hmove
      · rw [hr'] at hnone
        cases hnone

end lawful

/-! ### Single moves -/

section moves

variable {c : Connection} {i : Nat} {r : Receive}

theorem step_pollReceive (hr : c.receives[i]? = some r) :
    c.step? (.pollReceive i) = c.pollReceive i r := by
  show (c.receives[i]?).bind (c.pollReceive i) = _
  rw [hr]
  rfl

/-- A stream that has given its error answers the next poll with its end. -/
theorem poll_of_finished (hr : c.receives[i]? = some r) (hstate : r.state = .idle)
    (hfinished : r.finished = true) :
    c.step? (.pollReceive i) = some (c.setReceive i .exhausted, [.answered i .ended]) := by
  rw [step_pollReceive hr]
  simp only [pollReceive, hstate, hfinished, if_true]

/-- A poll of a stream that has ended panics, -/
theorem poll_of_exhausted (hr : c.receives[i]? = some r) (hstate : r.state = .exhausted) :
    c.step? (.pollReceive i) = some (c, [.panicked i]) := by
  rw [step_pollReceive hr]
  simp only [pollReceive, hstate]

theorem notMem_interruptReceive (c : Connection) (i : Nat) (source : CancelSource) :
    .panicked i ∉ (c.interruptReceive i source).2 := by
  simp [interruptReceive, concludeReceive, answerReceive]

theorem notMem_enterReader (c : Connection) (i : Nat) : .panicked i ∉ (c.enterReader i).2 := by
  unfold enterReader
  split
  · simp
  · split <;> simp [concludeReceive, answerReceive]

/-- and no other poll does. -/
theorem exhausted_of_panicked {stepped : Stepped} (hpoll : c.pollReceive i r = some stepped)
    (hpanics : .panicked i ∈ stepped.2) : r.state = .exhausted := by
  unfold pollReceive at hpoll
  split at hpoll
  · split at hpoll
    · cases hpoll
      simp at hpanics
    · split at hpoll
      · cases hpoll
        exact absurd hpanics (c.notMem_interruptReceive i _)
      · cases hpoll
        exact absurd hpanics (notMem_enterReader _ i)
  · split at hpoll
    · cases hpoll
      exact absurd hpanics (c.notMem_interruptReceive i _)
    · cases hpoll
      exact absurd hpanics (c.notMem_enterReader i)
  · split at hpoll
    · cases hpoll
      exact absurd hpanics (c.notMem_interruptReceive i _)
    · cases hpoll
      cases hpanics
  · next hstate => exact hstate
  all_goals cases hpoll

/-- A side that has fired interrupts a stream at its next poll, whatever the socket has to give. -/
theorem poll_of_fired (hr : c.receives[i]? = some r) (hopen : r.Open)
    (hreading : r.state ≠ .reading true) (hdropped : r.state ≠ .dropped) {source : CancelSource}
    (hfired : c.fired r.cancelled = some source) :
    c.step? (.pollReceive i) = some (c.interruptReceive i source) := by
  rw [step_pollReceive hr]
  unfold pollReceive
  cases hstate : r.state with
  | idle => simp only [hopen.1, Bool.false_eq_true, if_false, hfired]
  | waiting => simp only [hfired]
  | reading awake =>
    cases awake with
    | true => exact absurd hstate hreading
    | false => simp only [hfired]
  | exhausted => exact absurd hstate hopen.2
  | dropped => exact absurd hstate hdropped

end moves

/-- The peer's close takes the connection down. -/
theorem connected_peerClosed (c : Connection) (i : Nat) : (c.peerClosed i).1.connected = false := by
  unfold peerClosed
  dsimp only
  split <;> rfl

/-! ### The law -/

/-- What receive streams do on a connection, where a run from where it was new has led to `c` with
    these effects. -/
structure ReceiveLaw (labels : List Label) (c : Connection) (effects : List Effect) : Prop where
  /-- All octets that have arrived were delivered in order, each once and to one stream, until the
      teardown has read the others for itself. -/
  conserved : arrived labels = delivered effects ++ drained labels
  /-- A stream gives chunks, then at most one error, then its end, once at most. -/
  shape : ∀ i, ∃ running error, ∃ n ≤ 1, answersOf i effects =
    running ++ (Option.toList error).map .failed ++ List.replicate n .ended ∧
    ∀ a ∈ running, a.isFinal = false
  /-- After the error or the end it reads no more. After the error only the end may come, and after
      the end nothing. -/
  ended : ∀ i, (∃ a ∈ answersOf i effects, a.isFinal = true) → ∀ more c' others,
    c.run? more = some (c', others) →
    (∀ answer, .read i answer ∉ more) ∧ (∃ n ≤ 1, answersOf i others = List.replicate n .ended) ∧
      (.ended ∈ answersOf i effects → answersOf i others = [])
  /-- A poll that comes after the end panics and does nothing else, -/
  panics : ∀ i r, c.receives[i]? = some r → r.state ≠ .dropped → .ended ∈ answersOf i effects →
    c.step? (.pollReceive i) = some (c, [.panicked i])
  /-- and no other poll panics. -/
  spared : ∀ i c' others, c.step? (.pollReceive i) = some (c', others) → .panicked i ∈ others →
    .ended ∈ answersOf i effects
  /-- Once the disposal token has fired, a poll of a stream that has not ended is answered with the
      end. -/
  disposed : c.coordinator.token = true → ∀ i r, c.receives[i]? = some r →
    r.state ≠ .reading true → r.state ≠ .dropped → .ended ∉ answersOf i effects →
    ∃ c' others, c.step? (.pollReceive i) = some (c', others) ∧ answersOf i others = [.ended]
  /-- If only the caller's token has fired, a stream that has given neither an error nor the end
      answers that it was cancelled, and after that its end, once. -/
  cancelled : c.coordinator.token = false → ∀ i r, c.receives[i]? = some r →
    r.cancelled = true → r.state ≠ .reading true → r.state ≠ .dropped →
    (∀ a ∈ answersOf i effects, a.isFinal = false) →
    ∃ c' others, c.step? (.pollReceive i) = some (c', others) ∧
      answersOf i others = [.failed (.cancelled Operation.receive.name)] ∧
      (∃ c'' last, c'.step? (.pollReceive i) = some (c'', last) ∧ answersOf i last = [.ended]) ∧
      ∀ more c'' last, c'.run? more = some (c'', last) →
        ∃ n ≤ 1, answersOf i last = List.replicate n .ended
  /-- A read of no octets ends the stream as the policy has it, and the connection is down. -/
  closed : ∀ i r, c.receives[i]? = some r → r.state = .reading true →
    ∃ c' others, c.step? (.read i .closed) = some (c', others) ∧ c'.connected = false ∧
      answersOf i others = [if c.coordinator.token then .ended else
        match c.config.peerClose with
        | .complete => .ended
        | .error => .failed (.remoteClosed none)]
  /-- An error of a read is the stream's error, unless the disposal is behind it. -/
  failed : ∀ i r e, c.receives[i]? = some r → r.state = .reading true → e.kind ≠ .interrupted →
    ∃ c' others, c.step? (.read i (.failed e)) = some (c', others) ∧
      answersOf i others =
        [if c.coordinator.token then .ended else .failed (.ofIo Operation.read.name e)]
  /-- An interrupted read is tried again, unless a side has fired meanwhile. -/
  retried : ∀ i r e, c.receives[i]? = some r → r.state = .reading true → e.kind = .interrupted →
    match c.fired r.cancelled with
    | none => c.step? (.read i (.failed e)) = some (c, [])
    | some source => ∃ c' others, c.step? (.read i (.failed e)) = some (c', others) ∧
        answersOf i others = [interruption source]

/-- **What receive streams deliver.** -/
theorem receiveLaw_of_run {config : SocketConfig} {localAddress peerAddress : String}
    {timer : Timer} {labels : List Label} {c : Connection} {effects : List Effect}
    (h : (fresh config localAddress peerAddress timer).run? labels = some (c, effects)) :
    ReceiveLaw labels c effects := by
  have hin := InStep.fresh config localAddress peerAddress timer
  have hkept := ReaderKept.fresh config localAddress peerAddress timer
  have hlawful := lawful_run (by rfl) h
  have hlaw (i : Nat) (r : Receive) (hr : c.receives[i]? = some r) :
      Lawful r (answersOf i effects) := (hlawful i).1 r hr
  constructor
  case conserved => exact conserved_run hin hkept h
  case shape =>
    intro i
    cases hr : c.receives[i]? with
    | none => exact ⟨[], none, 0, Nat.zero_le 1, (hlawful i).2 hr, fun a ha => (by cases ha)⟩
    | some r => exact (hlaw i r hr).shape
  case ended =>
    rintro i ⟨a, ha, hfinal⟩ more c' others hmore
    cases hr : c.receives[i]? with
    | none =>
      rw [(hlawful i).2 hr] at ha
      cases ha
    | some r =>
      have hconcluded := (hlaw i r hr).concluded ⟨a, ha, hfinal⟩
      obtain ⟨hreads, hanswers⟩ := run_of_concluded hr hconcluded hmore
      exact ⟨hreads, hanswers, fun hended => (run_of_gone hr ((hlaw i r hr).gone hended) hmore).2⟩
  case panics =>
    intro i r hr hdropped hended
    exact poll_of_exhausted hr (((hlaw i r hr).gone hended).resolve_right hdropped)
  case spared =>
    intro i c' others hstep hpanics
    obtain ⟨r, hr, hpoll⟩ := Option.bind_eq_some_iff.1 hstep
    exact (hlaw i r hr).ended_mem (exhausted_of_panicked hpoll hpanics)
  case disposed =>
    intro htoken i r hr hreading hdropped hended
    refine poll_after_token htoken hr hreading ?_
    rintro (hexhausted | hdropped')
    · exact hended ((hlaw i r hr).ended_mem hexhausted)
    · exact hdropped hdropped'
  case cancelled =>
    intro htoken i r hr hcancelled hreading hdropped hopen
    have hfired : c.fired r.cancelled = some .external := by
      unfold fired
      rw [htoken, hcancelled]
      rfl
    have hreceived := received_interruptReceive hr .external
    refine ⟨_, _, poll_of_fired hr ((hlaw i r hr).isOpen hopen) hreading hdropped hfired,
      hreceived.answers, ⟨_, _, poll_of_finished hreceived.self rfl rfl,
        (answersOf_answered i i .ended []).trans (if_pos rfl)⟩, ?_⟩
    intro more c'' last hmore
    exact (run_of_concluded hreceived.self (r.concluded_conclude _) hmore).2
  case closed =>
    intro i r hr hstate
    have hreceived := received_peerClosed hr
    refine ⟨(c.peerClosed i).1, (c.peerClosed i).2, ?_, ?_, hreceived.answers⟩
    · rw [step_read hr]
      simp only [read, hstate]
    · exact connected_peerClosed c i
  case failed =>
    intro i r e hr hstate hkind
    have hreceived := received_readFailed hr e
    refine ⟨(c.readFailed i e).1, (c.readFailed i e).2, ?_, hreceived.answers⟩
    rw [step_read hr]
    simp only [read, hstate, hkind, if_false]
  case retried =>
    intro i r e hr hstate hkind
    cases hfired : c.fired r.cancelled with
    | none =>
      dsimp only
      rw [step_read hr]
      simp only [read, hstate, hkind, hfired, if_true]
    | some source =>
      have hreceived := received_interruptReceive hr source
      refine ⟨(c.interruptReceive i source).1, (c.interruptReceive i source).2, ?_,
        hreceived.answers⟩
      rw [step_read hr]
      simp only [read, hstate, hkind, hfired, if_true]

/-- One stream is dropped while it waits for more, the next one is cancelled by its caller after an
    interrupted read, a third one is stopped by the disposal, and what comes then goes to the
    teardown. A poll of the third one after its end panics. -/
theorem receiveLaw_of_three :
    let labels : List Label :=
      [.receive false, .pollReceive 0, .read 0 (.chunk [1, 2]), .pollReceive 0, .read 0 .blocked,
        .receive false, .pollReceive 1, .dropReceive 0, .pollReceive 1,
        .read 1 (.failed { kind := .interrupted }), .read 1 (.chunk [3]), .cancelReceive 1,
        .pollReceive 1, .pollReceive 1, .receive false, .pollReceive 2, .read 2 .blocked, .dispose,
        .pollReceive 2, .teardown 0, .teardown 0, .halfClose (.ok ()) 0, .teardown 0,
        .drain (.chunk [4]), .pollReceive 2]
    ∃ c effects, (fresh {} "" "").run? labels = some (c, effects) ∧
      delivered effects = [1, 2, 3] ∧ drained labels = [4] ∧
      answersOf 1 effects =
        [.pending, .next [3], .failed (.cancelled Operation.receive.name), .ended] ∧
      answersOf 2 effects = [.pending, .ended] ∧ effects.getLast? = some (.panicked 2) ∧
      ReceiveLaw labels c effects :=
  ⟨_, _, rfl, rfl, rfl, rfl, rfl, rfl, receiveLaw_of_run rfl⟩

end Duplex.Connection
