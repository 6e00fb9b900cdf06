import Duplex.Proofs.Delivering
import Duplex.Proofs.Messages

/-! # Messages from end to end

  A peer sends some messages in encoded form, perhaps the first octets of one more, and closes its
  direction. The octets come in whatever chunks the socket makes of them, reads may have to wait or
  be interrupted meanwhile, and others may use the connection as they like. As long as the
  connection is not disposed of, framing over the receive stream delivers the messages that are
  complete, and the connection is down (`end_to_end`). How it ends depends on two things, on how
  the peer's close is to be taken and on where the last message was cut.

  Two facts meet here. The decoder reads what the encoder has written message by message, and holds
  back what it has of the last one (`outcome_of_encoded`). The receive stream carries the octets
  that its reads bring, and what the close comes to after them (`carried_of_run`).
-/

namespace Duplex

open Decoder (feedAll outcome)
open Script (carried)

/-! ### What the close comes to -/

/-- The failure of a receive stream at the peer's close, if the policy has it fail. -/
def PeerClosePolicy.failure : PeerClosePolicy → Option ConnectionError
  | .error => some (.remoteClosed none)
  | .complete => none

/-- What framing answers last, where the peer has closed after the first `k` octets of a message. -/
def Message.lastAnswer (m : Message) (k : Nat) : PeerClosePolicy → Polled Message ConnectionError
  | .error => .failed (.remoteClosed none)
  | .complete =>
    match m.shortfall k with
    | .ok () => .ended
    | .error e => .failed (.frame e)

/-- What a decoder makes of encoded messages, part of one more, and the close after them. -/
theorem Framing.outcome_of_encoded {d : SoundDecoder Framing} {messages : List Message}
    {parts : List Bytes} (hsent : List.Forall₂ (Encoded d) messages parts) {m : Message}
    {bytes : Bytes} (hlast : Encoded d m bytes) {k : Nat} (hk : k < bytes.length)
    (policy : PeerClosePolicy) :
    outcome d.1 (parts.flatten ++ bytes.take k, policy.failure) =
      ⟨messages, m.lastAnswer k policy⟩ := by
  obtain ⟨hitems, herror, hfinish⟩ := feedAll_cut_message hsent hlast hk
  simp only [outcome, hitems, herror]
  cases policy with
  | error => rfl
  | complete =>
    simp only [Decoder.closing, PeerClosePolicy.failure, Message.lastAnswer, hfinish]
    rfl

/-! ### What the socket brings -/

/-- The answers to the reads of a socket whose peer sends these octets and then closes: any chunks,
    and reads that have to wait or are interrupted. -/
inductive ClosesAfter : Bytes → List ReadAnswer → Prop where
  | closed : ClosesAfter [] [.closed]
  | blocked {bytes : Bytes} {reads : List ReadAnswer} (h : ClosesAfter bytes reads) :
      ClosesAfter bytes (.blocked :: reads)
  | interrupted {bytes : Bytes} {reads : List ReadAnswer} {e : IoError}
      (hkind : e.kind = .interrupted) (h : ClosesAfter bytes reads) :
      ClosesAfter bytes (.failed e :: reads)
  | chunk {chunk bytes : Bytes} {reads : List ReadAnswer} (hne : chunk ≠ [])
      (h : ClosesAfter bytes reads) : ClosesAfter (chunk ++ bytes) (.chunk chunk :: reads)

namespace Connection

/-- The answer to a read of receive stream `i` in a label. -/
def Label.read? (i : Nat) : Label → Option ReadAnswer
  | .read j answer => if j = i then some answer else none
  | _ => none

/-- The answers to the reads of receive stream `i` in a run with these labels. -/
def readsOf (i : Nat) (labels : List Label) : List ReadAnswer := labels.filterMap (Label.read? i)

theorem readsOf_cons_of_ne {i : Nat} {l : Label} (h : ∀ answer, l ≠ .read i answer)
    (labels : List Label) : readsOf i (l :: labels) = readsOf i labels := by
  refine List.filterMap_cons_none ?_
  unfold Label.read?
  split
  · next j answer =>
    refine if_neg ?_
    rintro rfl
    exact h answer rfl
  · rfl

theorem readsOf_cons_read (i : Nat) (answer : ReadAnswer) (labels : List Label) :
    readsOf i (.read i answer :: labels) = answer :: readsOf i labels :=
  List.filterMap_cons_some (if_pos rfl)

theorem readsOf_eq_nil {i : Nat} {labels : List Label} (h : ∀ answer, .read i answer ∉ labels) :
    readsOf i labels = [] := by
  induction labels with
  | nil => rfl
  | cons l labels ih =>
    rw [readsOf_cons_of_ne fun answer hl => h answer (hl ▸ List.mem_cons_self)]
    exact ih fun answer hmem => h answer (List.mem_cons_of_mem l hmem)

section carried

variable {c c' : Connection} {l : Label} {labels : List Label} {effects : List Effect} {i : Nat}

/-- No step changes the configuration, or brings a connection up again. -/
theorem config_step (h : c.step? l = some (c', effects)) :
    c'.config = c.config ∧ (c.connected = false → c'.connected = false) := by
  rcases leavesHalves_or_teardown h with hleaves | hteardown
  · exact ⟨hleaves.config, hleaves.connected⟩
  · cases hteardown <;> first | exact ⟨rfl, id⟩ | exact ⟨rfl, fun _ => rfl⟩

/-- The token fires only where the disposal is asked for. -/
theorem token_eq_false_step (h : c.step? l = some (c', effects)) (hl : l ≠ .dispose)
    (ht : c.coordinator.token = false) : c'.coordinator.token = false := by
  cases step_kind h with
  | aside _ haside => rw [show c'.coordinator = c.coordinator from haside.coordinator, ht]
  | receive _ _ _ _ _ _ _ hreceived =>
    rw [show c'.coordinator = c.coordinator from hreceived.coordinator, ht]
  | new _ _ hnew =>
    cases hnew
    exact ht
  | dispose hdispose _ => exact absurd hdispose hl
  | torn _ htorn => exact htorn.token.trans ht

/-- A step before the close answers with the octets that its read brings, and the socket goes on. -/
theorem ReceiveStep.closesAfter {r r' : Receive} {answers : List ReceiveAnswer} {bytes : Bytes}
    (h : ReceiveStep c i l r r' answers) (hl : l ≠ .read i .closed)
    (hreads : ClosesAfter bytes (readsOf i (l :: labels))) :
    ∃ rest, bytes = answers.flatMap Polled.octets ++ rest ∧
      ClosesAfter rest (readsOf i labels) := by
  by_cases hread : ∃ answer, l = .read i answer
  · obtain ⟨answer, rfl⟩ := hread
    rw [readsOf_cons_read] at hreads
    generalize readsOf i labels = later at hreads
    cases hreads with
    | closed => exact absurd rfl hl
    | blocked hrest | interrupted _ hrest =>
      exact ⟨bytes, by rw [h.octets (by simp), List.nil_append], hrest⟩
    | @chunk chunk bytes _ _ hrest =>
      refine ⟨bytes, ?_, hrest⟩
      cases h with
      | other hl => exact absurd rfl hl
      | chunk _ _ => simp [Polled.octets]
  · have hne (answer : ReadAnswer) : l ≠ .read i answer := fun hl => hread ⟨answer, hl⟩
    rw [readsOf_cons_of_ne hne] at hreads
    exact ⟨bytes, by rw [h.octets fun chunk => hne _, List.nil_append], hreads⟩

/-- The peer's close is answered as the policy has it, and the connection is down. -/
theorem answersOf_closed (h : c.step? (.read i .closed) = some (c', effects)) :
    answersOf i effects = [c.peerCloseAnswer] ∧ c'.connected = false := by
  obtain ⟨r, hr, hread⟩ := Option.bind_eq_some_iff.1 h
  have hclosed : c.peerClosed i = (c', effects) := by
    unfold read at hread
    split at hread
    case h_3 => exact Option.some.inj hread
    all_goals simp_all
  have hanswers := (received_peerClosed hr).answers
  have hdown := connected_peerClosed c i
  rw [hclosed] at hanswers hdown
  exact ⟨hanswers, hdown⟩

/-- Nothing that is answered after it counts. -/
theorem carried_peerCloseAnswer (ht : c.coordinator.token = false) (more : List ReceiveAnswer) :
    carried (c.peerCloseAnswer :: more) = ([], c.config.peerClose.failure) := by
  have hopen : ¬c.coordinator.token = true := by simp [ht]
  rw [peerCloseAnswer, if_neg hopen]
  cases c.config.peerClose <;> rfl

/-- A receive stream that reads up to the peer's close carries the octets of its reads, and then the
    failure of the policy; and the connection is down. -/
theorem carried_of_run {bytes : Bytes} (h : c.run? labels = some (c', effects))
    (ht : c.coordinator.token = false) (hquiet : .dispose ∉ labels)
    (hopen : ∀ r, c.receives[i]? = some r → r.Open)
    (hreads : ClosesAfter bytes (readsOf i labels)) :
    carried (answersOf i effects) = (bytes, c.config.peerClose.failure) ∧ c'.connected = false := by
  induction labels generalizing c effects bytes with
  | nil => cases hreads
  | cons l labels ih =>
    obtain ⟨c₁, first, others, hstep, hrest, rfl⟩ := run?_cons_eq_some.1 h
    obtain ⟨hl, hlater⟩ := not_or.1 (mt List.mem_cons.2 hquiet)
    have ht₁ := token_eq_false_step hstep (Ne.symm hl) ht
    have hconfig : c₁.config = c.config := (config_step hstep).1
    rw [answersOf_append, ← hconfig]
    cases hr : c.receives[i]? with
    | none =>
      -- there is no stream yet
      have hne (answer : ReadAnswer) : l ≠ .read i answer := by
        rintro rfl
        obtain ⟨r, hr', -⟩ := Option.bind_eq_some_iff.1 hstep
        rw [hr] at hr'
        cases hr'
      rw [readsOf_cons_of_ne hne] at hreads
      rw [(step_unmade hstep hr).1, List.nil_append]
      exact ih hrest ht₁ hlater (fun r hr' => ((step_unmade hstep hr).2 r hr').2) hreads
    | some r =>
      obtain ⟨r', hr', hmove⟩ := step_receive hstep hr
      by_cases hclosed : l = .read i .closed
      · subst hclosed
        obtain ⟨hanswers, hdown⟩ := answersOf_closed hstep
        have hbytes : bytes = [] := by
          rw [readsOf_cons_read] at hreads
          generalize readsOf i labels = later at hreads
          cases hreads
          rfl
        rw [hanswers, hbytes, hconfig]
        exact ⟨carried_peerCloseAnswer ht _,
          run_keeps (fun hstep => (config_step hstep).2) hrest hdown⟩
      · obtain ⟨rest, rfl, hrest'⟩ := hmove.closesAfter hclosed hreads
        rcases hmove.running (hopen r hr) with ⟨hr'open, hanswers⟩ | ⟨hconcluded, -⟩
        · have hopen' : ∀ r, c₁.receives[i]? = some r → r.Open := by
            intro r₁ hr₁
            rw [hr'] at hr₁
            cases hr₁
            exact hr'open
          obtain ⟨hcarried, hdown⟩ := ih hrest ht₁ hlater hopen' hrest'
          exact ⟨by rw [Script.carried_append hanswers, hcarried], hdown⟩
        · -- after an error or the end it reads no more, so it cannot come to the close
          rw [readsOf_eq_nil (run_of_concluded hr' hconcluded hrest).1] at hrest'
          cases hrest'

end carried

/-! ### A stream that is polled for whatever comes -/

/-- The labels of receive stream `i` from where it reads, if these are the answers to its reads: it
    is polled again after each of its answers, and stays as it is where a read was interrupted. -/
def pulls (i : Nat) : List ReadAnswer → List Label
  | [] => []
  | .closed :: _ => [.read i .closed]
  | .failed e :: reads => .read i (.failed e) :: pulls i reads
  | answer :: reads => .read i answer :: .pollReceive i :: pulls i reads

theorem dispose_notMem_pulls (i : Nat) (reads : List ReadAnswer) : .dispose ∉ pulls i reads := by
  fun_induction pulls i reads with
  | case1 | case2 => simp
  | case3 e reads ih => simpa using ih
  | case4 answer reads _ _ ih => simpa using ih

theorem readsOf_pulls {bytes : Bytes} {reads : List ReadAnswer} (h : ClosesAfter bytes reads)
    (i : Nat) : readsOf i (pulls i reads) = reads := by
  induction h with
  | closed => exact readsOf_cons_read i .closed []
  | blocked _ ih | chunk _ _ ih =>
    rw [pulls, readsOf_cons_read, readsOf_cons_of_ne (by simp), ih]
    all_goals simp
  | interrupted _ _ ih => rw [pulls, readsOf_cons_read, ih]

/-- A new connection whose only receive stream reads. -/
def reading (config : SocketConfig) (localAddress peerAddress : String) (timer : Timer) :
    Connection :=
  { fresh config localAddress peerAddress timer with
    receives := [{ state := .reading true }]
    reader := { holder := some (.receive 0) } }

theorem exists_run_cons {c c₁ : Connection} {l : Label} {labels : List Label} {first : List Effect}
    (hstep : c.step? l = some (c₁, first))
    (h : ∃ c' effects, c₁.run? labels = some (c', effects)) :
    ∃ c' effects, c.run? (l :: labels) = some (c', effects) := by
  obtain ⟨c', others, hrest⟩ := h
  exact ⟨c', first ++ others, run?_cons_eq_some.2 ⟨c₁, first, others, hstep, hrest, rfl⟩⟩

/-- Whatever comes, the stream takes it up to the close. -/
theorem exists_run_pulls {bytes : Bytes} {reads : List ReadAnswer} (h : ClosesAfter bytes reads)
    (config : SocketConfig) (localAddress peerAddress : String) (timer : Timer) :
    ∃ c effects, (reading config localAddress peerAddress timer).run? (pulls 0 reads) =
      some (c, effects) := by
  induction h with
  | closed => exact ⟨_, _, run?_singleton.trans rfl⟩
  | blocked _ ih =>
    -- the next poll finds the read where it was left
    exact exists_run_cons rfl (exists_run_cons rfl ih)
  | interrupted hkind _ ih => exact exists_run_cons (if_pos hkind) ih
  | @chunk chunk _ _ hne _ ih =>
    cases chunk with
    | nil => exact absurd rfl hne
    | cons b rest =>
      -- the next poll gets the lock again, since nobody else asks for it
      exact exists_run_cons rfl (exists_run_cons rfl ih)

end Connection

/-! ### From end to end -/

namespace Connection

open Framing (Encoded)

/-- What becomes of octets that a peer sends before it closes, on a new connection with this
    configuration, if a framed stream over `d` is to answer them with `o`. -/
structure ComesOut (config : SocketConfig) (localAddress peerAddress : String) (timer : Timer)
    (d : SoundDecoder Framing) (wire : Bytes) (o : Outcome Message ConnectionError) : Prop where
  /-- Whatever else has been going on, short of the disposal: if receive stream `i` has read these
      octets and the close, framing over it answers so, and the connection is down. -/
  answers : ∀ labels c effects i,
    (fresh config localAddress peerAddress timer).run? labels = some (c, effects) →
    .dispose ∉ labels → ClosesAfter wire (readsOf i labels) →
    Source.Answers (FramedStream.new (⟨answersOf i effects, 0⟩ : Script Bytes ConnectionError) d.1)
      o ∧ c.connected = false
  /-- And whatever answers the socket gives, a stream that is polled for them comes to the close. -/
  comes : ∀ reads, ClosesAfter wire reads → ∃ labels c effects,
    (fresh config localAddress peerAddress timer).run? labels = some (c, effects) ∧
    .dispose ∉ labels ∧ readsOf 0 labels = reads

/-- **Messages from end to end.** What comes out of the octets of some encoded messages and the
    first `k` octets of one more, not all of it: the messages, and then as the policy has it the
    failure of the peer's close, or what the decoder has to say of the octets that it holds back. If
    it holds none back there is nothing to say. -/
theorem end_to_end {d : SoundDecoder Framing} {messages : List Message} {parts : List Bytes}
    (hsent : List.Forall₂ (Encoded d) messages parts) {m : Message} {bytes : Bytes}
    (hlast : Encoded d m bytes) {k : Nat} (hk : k < bytes.length) (config : SocketConfig)
    (localAddress peerAddress : String) (timer : Timer) :
    ComesOut config localAddress peerAddress timer d (parts.flatten ++ bytes.take k)
      ⟨messages, m.lastAnswer k config.peerClose⟩ ∧
    (m.shortfall k = .ok () ↔
      (feedAll d.1 (parts.flatten ++ bytes.take k)).decoder.pendingLen = 0) := by
  refine ⟨?_, Framing.shortfall_eq_ok_iff hsent hlast hk⟩
  constructor
  case answers =>
    intro labels c effects i hrun hquiet hreads
    have hnone : ∀ r, (fresh config localAddress peerAddress timer).receives[i]? = some r →
        r.Open := by
      intro r hr
      cases hr
    obtain ⟨hcarried, hdown⟩ := carried_of_run hrun rfl hquiet hnone hreads
    refine ⟨?_, hdown⟩
    have houtcome := Framing.outcome_of_encoded hsent hlast hk config.peerClose
    rw [← houtcome]
    exact hcarried ▸ FramedStream.answers_new d.2 _
  case comes =>
    intro reads hreads
    obtain ⟨c, effects, hrun⟩ := exists_run_pulls hreads config localAddress peerAddress timer
    have hfirst : (fresh config localAddress peerAddress timer).run?
        (.receive false :: .pollReceive 0 :: pulls 0 reads) = some (c, [] ++ ([] ++ effects)) :=
      run?_cons_eq_some.2 ⟨_, [], _, rfl, run?_cons_eq_some.2 ⟨_, [], _, rfl, hrun, rfl⟩, rfl⟩
    refine ⟨_, c, _, hfirst, by simpa using dispose_notMem_pulls 0 reads, ?_⟩
    rw [readsOf_cons_of_ne (by simp), readsOf_cons_of_ne (by simp), readsOf_pulls hreads]

/-- The text "A" and the first octet of "B", in chunks that do not fit them: framing over the
    stream delivers the one, and where the close is to be taken for the end it misses the NUL of
    the other. -/
theorem end_to_end_of_cut_text :
    let config : SocketConfig := { peerClose := .complete }
    let labels : List Label :=
      [.receive false, .pollReceive 0, .read 0 (.chunk [65]), .pollReceive 0, .read 0 .blocked,
        .pollReceive 0, .read 0 (.failed { kind := .interrupted }), .read 0 (.chunk [0, 66]),
        .pollReceive 0, .read 0 .closed]
    let source : Script Bytes ConnectionError :=
      ⟨[.next [65], .pending, .next [0, 66], .ended], 0⟩
    ComesOut config "" "" .ofTicks Framing.newTexts [65, 0, 66]
      ⟨[.text "A"], .failed (.frame (.noTermination 1))⟩ ∧
    ∃ c effects, (fresh config "" "").run? labels = some (c, effects) ∧
      answersOf 0 effects = source.answers ∧ c.connected = false ∧
      Source.Answers (FramedStream.new source Framing.newTexts.1)
        ⟨[.text "A"], .failed (.frame (.noTermination 1))⟩ := by
  intro config labels source
  have hfirst : Encoded Framing.newTexts (.text "A") [65, 0] := .text (by decide)
  have hlast : Encoded Framing.newTexts (.text "B") [66, 0] := .text (by decide)
  have hout : ComesOut config "" "" .ofTicks Framing.newTexts [65, 0, 66]
      ⟨[.text "A"], .failed (.frame (.noTermination 1))⟩ :=
    (end_to_end (.cons hfirst .nil) hlast (k := 1) (by decide) config "" "" .ofTicks).1
  have hreads : ClosesAfter [65, 0, 66] (readsOf 0 labels) :=
    .chunk (List.cons_ne_nil 65 []) (.blocked (.interrupted rfl
      (.chunk (List.cons_ne_nil 0 [66]) .closed)))
  have hanswers {c : Connection} {effects : List Effect}
      (hrun : (fresh config "" "").run? labels = some (c, effects)) :=
    hout.answers labels c effects 0 hrun (by simp [labels]) hreads
  exact ⟨hout, _, _, rfl, rfl, rfl, (hanswers rfl).1⟩

end Connection

end Duplex
