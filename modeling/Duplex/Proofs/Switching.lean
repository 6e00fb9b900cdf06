import Duplex.Proofs.Conservation
import Duplex.Proofs.Framings

/-! # Changing the framing between two messages

  An application takes some messages through one framing, takes the stream apart, puts it
  together with another framing, and takes some more. This module says what it gets then
  (`follow_eq_planned`): the octets that come, those that were buffered in front, are one
  string, the first decoder is read against it, the next one against what follows the last
  octet of its last message, and so on (`planned`). Neither the chunks nor the pauses show.

  The argument is the same for every decoder. What a stream has not read yet is its chunk
  and what its source still carries (`unread`); a poll takes octets off the front of that,
  namely those which the decoder needed for its answer (`poll_unread`).
-/

namespace Duplex

open LawfulDecoder (Inv)
open Decoder (feedAll outcome)
open Script (carried)
open Source (afterPolls)

variable {δ ι ε : Type}

/-! ### Collecting messages -/

/-- What was collected from a source: the items, the failure or end that came before as many
    as were wanted, and the source after it. -/
structure Collected (σ α ε : Type) where
  /-- The items, in order. -/
  items : List α
  /-- The failure or end, if it came too early. -/
  final : Option (Polled α ε)
  /-- The source after the last poll. -/
  source : σ

namespace Source

variable {σ α : Type} [Source σ α ε]

/-- Polls a source until so many items are there, or it fails or ends. -/
def collect (s : σ) : Nat → Collected σ α ε
  | 0 => ⟨[], none, s⟩
  | k + 1 =>
    match _h : poll s with
    | (.pending, s') => collect s' (k + 1)
    | (.next item, s') =>
      let c := collect s' k
      { c with items := item :: c.items }
    | (.failed e, s') => ⟨[], some (.failed e), s'⟩
    | (.ended, s') => ⟨[], some .ended, s'⟩
termination_by left s
decreasing_by
  all_goals
    have hleft := poll_left s (by rw [_h]; rfl)
    rwa [_h] at hleft

theorem collect_of_pending {s s' : σ} (h : poll s = (.pending, s')) (k : Nat) :
    collect s (k + 1) = collect s' (k + 1) := by
  rw [collect]
  split <;> next heq => (rw [h] at heq; cases heq; try rfl)

theorem collect_of_next {s s' : σ} {item : α} (h : poll s = (.next item, s')) (k : Nat) :
    collect s (k + 1) = { collect s' k with items := item :: (collect s' k).items } := by
  rw [collect]
  split <;> next heq => (rw [h] at heq; cases heq; try rfl)

theorem collect_of_final {s : σ} (h : (poll s).1.isFinal = true) (k : Nat) :
    collect s (k + 1) = ⟨[], some (poll s).1, (poll s).2⟩ := by
  rw [collect]
  split
  next heq => rw [heq] at h; cases h
  next heq => rw [heq] at h; cases h
  next heq => rw [heq]
  next heq => rw [heq]

end Source

namespace FramedStream

/-- The octets that are to be decoded: those left, and those that the source still carries. -/
def unread (s : FramedStream δ ε) : Bytes := s.parts.chunk ++ (carried s.source.answers).1

/-- What collecting from a stream comes to, for `o` its outcome, `rest` the octets behind the
    last wanted message and `failure` what its source carries behind all octets. -/
structure CollectedAs (wanted : Nat) (rest : Option Bytes) (failure : Option ε)
    (o : Outcome ι ε) (c : Collected (FramedStream δ ε) ι ε) : Prop where
  /-- The messages are the first ones. -/
  items : c.items = o.items.take wanted
  /-- If there are fewer, the answer behind them came. -/
  final : c.final = if rest.isSome then none else some o.final
  /-- If there are as many, what follows the last one is not read yet. -/
  unread : ∀ r, rest = some r →
    c.source.unread = r ∧ (carried c.source.source.answers).2 = failure

theorem CollectedAs.cons {wanted : Nat} {rest : Option Bytes} {failure : Option ε}
    {o : Outcome ι ε} {c : Collected (FramedStream δ ε) ι ε}
    (h : CollectedAs wanted rest failure o c) (item : ι) :
    CollectedAs (wanted + 1) rest failure (o.cons item) { c with items := item :: c.items } := by
  refine ⟨?_, h.final, h.unread⟩
  rw [h.items]
  rfl

end FramedStream

variable [Decoder δ ι]

/-! ### Behind the messages -/

namespace Decoder

/-- The octets behind the `k`-th message, if there are so many messages before an error. -/
def afterItems (d : δ) : Nat → Bytes → Option Bytes
  | 0, bytes => some bytes
  | _ + 1, [] => none
  | k + 1, b :: bytes =>
    match feed d b with
    | (.error _, _) => none
    | (.ok none, d) => afterItems d (k + 1) bytes
    | (.ok (some _), d) => afterItems d k bytes

theorem feed_of_silent {d d' : δ} {b : UInt8} {rest : Bytes}
    (h : feedAll d (b :: rest) = ⟨#[], none, d'⟩) :
    ∃ d₁, feed d b = (.ok none, d₁) ∧ feedAll d₁ rest = ⟨#[], none, d'⟩ := by
  rcases heq : feed d b with ⟨e | _ | item, d₁⟩
  · simp [feedAll, heq] at h
  · rw [feedAll_cons_of_ok heq] at h
    exact ⟨d₁, rfl, by simpa using h⟩
  · -- a message would stand in front
    rw [feedAll_cons_of_ok heq] at h
    have hitems := congrArg Run.items h
    simp at hitems

/-- Octets that complete nothing may come first. -/
theorem afterItems_of_silent {d d' : δ} {used : Bytes} (h : feedAll d used = ⟨#[], none, d'⟩)
    (k : Nat) (bytes : Bytes) :
    afterItems d (k + 1) (used ++ bytes) = afterItems d' (k + 1) bytes := by
  induction used generalizing d with
  | nil =>
    cases h
    rfl
  | cons b used ih =>
    obtain ⟨d₁, hfeed, hrest⟩ := feed_of_silent h
    simp only [List.cons_append, afterItems, hfeed]
    exact ih hrest

/-- The octets that complete a message take one off the number. -/
theorem Completes.afterItems_eq {d d' : δ} {used : Bytes} {item : ι}
    (h : Completes d used item d') (k : Nat) (bytes : Bytes) :
    afterItems d (k + 1) (used ++ bytes) = afterItems d' k bytes := by
  obtain ⟨most, last, d₁, rfl, hmost, hlast⟩ := h
  rw [List.append_assoc, afterItems_of_silent hmost]
  simp only [List.singleton_append, afterItems, hlast]

/-- There are octets behind the `k`-th message where there are `k` messages. -/
theorem isSome_afterItems (d : δ) (k : Nat) (bytes : Bytes) :
    (afterItems d k bytes).isSome ↔ k ≤ (feedAll d bytes).items.size := by
  induction bytes generalizing d k with
  | nil => cases k <;> simp [afterItems, feedAll]
  | cons b bytes ih =>
    cases k with
    | zero => simp [afterItems]
    | succ k =>
      simp only [afterItems, feedAll]
      rcases feed d b with ⟨e | _ | item, d₁⟩
      · simp
      · simp only [ih, Run.items_prepend, Option.toArray_none, Array.empty_append]
      · simp only [ih, Run.items_prepend, Option.toArray_some, Array.size_append]
        show _ ↔ k + 1 ≤ 1 + _
        omega

end Decoder

/-! ### Plans -/

section plans

variable [LawfulDecoder δ]

/-- A part of a plan: a decoder, and how many messages to take through it. -/
structure Stage (δ : Type) [Decoder δ ι] [LawfulDecoder δ] where
  /-- The decoder. -/
  decoder : SoundDecoder δ
  /-- The number of messages. -/
  wanted : Nat

/-- What a plan delivers: messages, and the failure or end at which it broke off. -/
structure Delivery (ι ε : Type) where
  /-- The messages, in order. -/
  items : List ι
  /-- The failure or end, unless the plan was carried out. -/
  final : Option (Polled ι ε)
  deriving DecidableEq

/-- The delivery with messages in front. -/
def Delivery.prepend (items : List ι) (r : Delivery ι ε) : Delivery ι ε :=
  { r with items := items ++ r.items }

variable [FromFrame ε]

/-- Carries out a plan: takes the messages of its first stage, takes the stream apart right
    after the last of them, and goes on with the next stage. -/
def follow (source : Script Bytes ε) (buffered : Bytes) : List (Stage δ) → Delivery ι ε
  | [] => ⟨[], none⟩
  | stage :: later =>
    let c := Source.collect (FramedStream.withBuffered source stage.decoder.1 buffered) stage.wanted
    match c.final with
    | some final => ⟨c.items, some final⟩
    | none =>
      let (source, _, rest) := c.source.intoParts
      (follow source rest later).prepend c.items

/-- What a plan comes to, for octets and the failure or end after them. Each decoder is read
    against all octets behind the last message of the one before it. -/
def planned (bytes : Bytes) (failure : Option ε) : List (Stage δ) → Delivery ι ε
  | [] => ⟨[], none⟩
  | stage :: later =>
    let o : Outcome ι ε := outcome stage.decoder.1 (bytes, failure)
    match Decoder.afterItems stage.decoder.1 stage.wanted bytes with
    | some rest => (planned rest failure later).prepend (o.items.take stage.wanted)
    | none => ⟨o.items, some o.final⟩

end plans

/-! ### What is not read yet -/

namespace Reassembly

variable [FromFrame ε]

theorem done_of_drain_some {r r' : Reassembly δ} {answer : Polled ι ε}
    (h : r.drain = (some answer, r')) (hfinal : answer.isFinal = false) : r'.done = false := by
  fun_induction drain (ε := ε) r with
  | case1 | case3 =>
    cases h
    cases hfinal
  | case2 => cases h
  | case4 =>
    cases h
    rfl
  | case5 r hdone hne rest d' ha ih => exact ih h

theorem done_of_absorb_some {r r' : Reassembly δ} {polled : Polled Bytes ε}
    {answer : Polled ι ε} (h : r.absorb polled = (some answer, r'))
    (hfinal : answer.isFinal = false) : r'.done = r.done := by
  cases polled with
  | pending =>
    cases h
    rfl
  | next chunk => cases h
  | failed e =>
    cases h
    cases hfinal
  | ended =>
    rw [isFinal_absorb h] at hfinal
    cases hfinal

end Reassembly

namespace FramedStream

variable [FromFrame ε]

/-- A stream that answers no failure and no end is not finished. -/
theorem done_poll {s : FramedStream δ ε} (h : s.poll.1.isFinal = false) :
    s.poll.2.parts.done = false := by
  fun_induction poll (ε := ε) s with
  | case1 s answer parts hd => exact Reassembly.done_of_drain_some hd h
  | case2 s parts hd polled source hp answer parts' ha =>
    have hdone := (Reassembly.chunk_of_drain_none hd).1
    exact (Reassembly.done_of_absorb_some ha h).trans hdone
  | case3 s parts hd polled source hp parts' ha ih => exact ih h

variable [LawfulDecoder δ]

/-- A poll that answers no failure and no end takes octets off the front, namely those which
    the decoder needed for the answer. -/
theorem poll_unread {s : FramedStream δ ε} (h : Inv s.parts.decoder)
    (hfinal : s.poll.1.isFinal = false) :
    ∃ used, s.unread = used ++ s.poll.2.unread ∧
      (carried s.source.answers).2 = (carried s.poll.2.source.answers).2 ∧
      TakenFor s.parts.decoder used s.poll.2.parts.decoder s.poll.1 := by
  obtain ⟨n, haccount⟩ := poll_account h
  obtain ⟨m, hsource, hm⟩ := poll_source s
  rw [hfinal, if_neg Bool.false_ne_true] at hm
  -- the two say the same number of polls, and that number is before the end of the source
  have hnm : n = m := (Script.afterPolls_inj s.source).1 (haccount.source.symm.trans hsource)
  have hlt : n < Script.lifetime s.source.answers := by
    have hpos := Script.lifetime_pos s.poll.2.source.answers
    omega
  have hcarried := Script.carried_eq_delivered s.source hlt
  rw [← haccount.source] at hcarried
  have hok : ∀ e, s.poll.1 ≠ .failed e := by
    intro e he
    rw [he] at hfinal
    cases hfinal
  obtain ⟨used, hsplit, htaken⟩ := haccount.taken hok
  refine ⟨used, ?_, ?_, htaken⟩
  · show s.parts.chunk ++ (carried s.source.answers).1 = used ++ (s.poll.2.parts.chunk ++ _)
    rw [hcarried, ← List.append_assoc, hsplit, List.append_assoc]
  · rw [hcarried]

/-- Collecting from a stream gives the first messages in what it has not read, and leaves what
    follows the last of them. -/
theorem collect_eq {s : FramedStream δ ε} (h : Inv s.parts.decoder)
    (hdone : s.parts.done = false) (k : Nat) :
    CollectedAs k (Decoder.afterItems s.parts.decoder k s.unread) (carried s.source.answers).2
      (outcome s.parts.decoder (s.unread, (carried s.source.answers).2)) (Source.collect s k) := by
  induction s using Source.poll_induction generalizing k with
  | step s ih =>
    cases k with
    | zero =>
      rw [Source.collect]
      refine ⟨rfl, by simp [Decoder.afterItems], fun r hr => ?_⟩
      simp only [Decoder.afterItems, Option.some.injEq] at hr
      exact ⟨hr, rfl⟩
    | succ k =>
      cases hfinal : s.poll.1.isFinal with
      | false =>
        obtain ⟨used, hunread, hfailure, htaken⟩ := poll_unread h hfinal
        have ih := ih hfinal (foretells.inv_poll s h) (done_poll hfinal)
        rcases hp : s.poll with ⟨answer, s'⟩
        rw [show Source.poll s = (answer, s') from hp] at ih
        rw [hp] at hfinal hunread hfailure htaken
        dsimp only at ih hfinal hunread hfailure htaken
        rw [hunread, hfailure]
        cases answer with
        | pending =>
          rw [Source.collect_of_pending hp, Decoder.afterItems_of_silent htaken,
            Decoder.outcome_of_none htaken]
          exact ih (k + 1)
        | next item =>
          have hitem : feedAll s.parts.decoder used =
              (feedAll s'.parts.decoder []).prepend #[item] :=
            Decoder.Completes.feedAll_eq htaken
          rw [Source.collect_of_next hp, Decoder.Completes.afterItems_eq htaken,
            Decoder.outcome_of_item hitem]
          exact (ih k).cons item
        | failed e | ended => cases hfinal
      | true =>
        have hstep := foretells.step_poll s h
        have houtlook : s.outlook = outcome s.parts.decoder (s.unread, _) :=
          Reassembly.outlook_of_not_done hdone _
        have hwhole : s.outlook = ⟨[], s.poll.1⟩ := hstep.eq_of_final hfinal
        have hnone : Decoder.afterItems s.parts.decoder (k + 1) s.unread = none := by
          have hitems := congrArg Outcome.items (houtlook.symm.trans hwhole)
          have hsize : (feedAll s.parts.decoder s.unread).items = #[] :=
            Array.toList_eq_nil_iff.1 hitems
          rw [Option.eq_none_iff_forall_ne_some]
          intro r hr
          have hle := (Decoder.isSome_afterItems s.parts.decoder (k + 1) s.unread).1 (by simp [hr])
          rw [hsize] at hle
          exact Nat.not_succ_le_zero k hle
        rw [← houtlook, hwhole, hnone, Source.collect_of_final hfinal]
        exact ⟨rfl, rfl, by simp⟩

end FramedStream

/-! ### Following a plan -/

variable [FromFrame ε] [LawfulDecoder δ]

/-- Carrying out a plan delivers what the plan comes to for the octets that were buffered and
    those that the source carries, however it carries them. -/
theorem follow_eq_planned (source : Script Bytes ε) (buffered : Bytes) (plan : List (Stage δ)) :
    follow source buffered plan =
      planned (buffered ++ (carried source.answers).1) (carried source.answers).2 plan := by
  induction plan generalizing source buffered with
  | nil => rfl
  | cons stage later ih =>
    let s := FramedStream.withBuffered source stage.decoder.1 buffered
    let c := Source.collect s stage.wanted
    let o : Outcome ι ε := outcome stage.decoder.1 (s.unread, (carried source.answers).2)
    have hcollect : FramedStream.CollectedAs stage.wanted
        (Decoder.afterItems stage.decoder.1 stage.wanted s.unread) (carried source.answers).2 o c :=
      FramedStream.collect_eq (s := s) stage.decoder.2 rfl stage.wanted
    cases hrest : Decoder.afterItems stage.decoder.1 stage.wanted s.unread with
    | none =>
      -- there are too few messages: all of them were delivered, and what comes behind them
      have hfinal : c.final = some o.final := by
        rw [hcollect.final, hrest]
        rfl
      have hlt : o.items.length < stage.wanted := by
        have hsome := Decoder.isSome_afterItems stage.decoder.1 stage.wanted s.unread
        rw [hrest] at hsome
        have hnot : ¬ stage.wanted ≤ o.items.length := fun hle => by
          exact Bool.false_ne_true (hsome.2 hle)
        exact Nat.lt_of_not_le hnot
      calc follow source buffered (stage :: later)
          = ⟨c.items, some o.final⟩ := by
            simp only [follow]
            rw [show (Source.collect _ stage.wanted).final = some o.final from hfinal]
        _ = ⟨o.items, some o.final⟩ := by
            rw [hcollect.items, List.take_of_length_le (Nat.le_of_lt hlt)]
        _ = planned s.unread (carried source.answers).2 (stage :: later) := by
            simp only [planned]
            rw [hrest]
    | some rest =>
      have hfinal : c.final = none := by
        rw [hcollect.final, hrest]
        rfl
      obtain ⟨hunread, hfailure⟩ := hcollect.unread rest hrest
      calc follow source buffered (stage :: later)
          = (follow c.source.source c.source.parts.chunk later).prepend c.items := by
            simp only [follow]
            rw [show (Source.collect _ stage.wanted).final = none from hfinal]
            rfl
        _ = (planned c.source.unread (carried c.source.source.answers).2 later).prepend c.items :=
            congrArg _ (ih c.source.source c.source.parts.chunk)
        _ = (planned rest (carried source.answers).2 later).prepend
            (o.items.take stage.wanted) := by
            rw [hunread, hfailure, hcollect.items]
        _ = planned s.unread (carried source.answers).2 (stage :: later) := by
            simp only [planned]
            rw [hrest]

/-! ### No octet is lost or repeated -/

/-- What is true of a stream after any moves. -/
structure FramedStream.Kept (s : FramedStream δ ε) (moves : List (Move δ)) : Prop where
  /-- While no failure was answered, the octets that were there and those that the source has
      delivered are those which the decoders have taken, each from where the one before it
      stopped, and then those which `intoParts` returns; the items that were answered are those
      in what the decoders have taken. -/
  octets : (∀ e, Polled.failed e ∉ (s.run moves).1) →
    ∃ n taken, (s.run moves).2.source = afterPolls s.source n ∧
      s.parts.chunk ++ Script.delivered s.source n = taken ++ (s.run moves).2.intoParts.2.2 ∧
      TakenInTurn s.parts.decoder (moves.filterMap Move.decoder?) taken
        ((s.run moves).1.filterMap Polled.item?) (s.run moves).2.intoParts.2.1
  /-- The next poll polls the source so many times, each time with nothing left. -/
  poll : ∃ n, PollAccount (s.run moves).2 n (s.run moves).2.poll.1 (s.run moves).2.poll.2
  /-- It never polls the source with anything left. -/
  pulls : ∀ t, Pulls (s.run moves).2 t → t.intoParts.2.2 = []
  /-- Unless the stream is finished, taking it apart and putting it together again changes
      nothing that comes later. -/
  resplit : (s.run moves).2.parts.done = false → ∀ more,
    s.run (moves ++ .resplit :: more) = s.run (moves ++ more)

theorem FramedStream.kept_of_inv {s : FramedStream δ ε} (h : Inv s.parts.decoder)
    (moves : List (Move δ)) : s.Kept moves where
  octets hok := run_account h moves hok
  poll := poll_account (inv_run h moves)
  pulls _ ht := ht.chunk_eq_nil
  resplit hdone more := run_resplit s moves more hdone

/-- **Changing the framing loses no octet and repeats none.** Whatever the source answers and
    whatever was buffered, a plan that takes messages through one framing, then through
    another, and so on, delivers what the framings make of the one string of octets, each from
    behind the last message of the one before it; and after any moves all octets that have come
    are accounted for. -/
theorem switching_loses_nothing (source : Script Bytes ε) (buffered : Bytes) :
    (∀ plan : List (Stage Framing), follow source buffered plan =
      planned (buffered ++ (carried source.answers).1) (carried source.answers).2 plan) ∧
    ∀ (first : SoundDecoder Framing) (moves : List (Move Framing)),
      (FramedStream.withBuffered source first.1 buffered).Kept moves :=
  ⟨follow_eq_planned source buffered, fun first moves => FramedStream.kept_of_inv first.2 moves⟩

/-- A text whose first letter was buffered, a frame and another text, cut where it hurts: the
    plan delivers all three, and after the first text the decoders have taken what has come but
    for the start of the frame. -/
theorem switching_loses_nothing_of_cut_text :
    let source : Script Bytes (StreamError String) :=
      ⟨[.next [101], .pending, .next [0, 0, 0], .next [0, 2, 5, 6, 104], .next [105, 0]], 0⟩
    let plan : List (Stage Framing) :=
      [⟨Framing.newTexts, 1⟩, ⟨Framing.newFrames (some 9), 1⟩, ⟨Framing.newTexts, 2⟩]
    let s := FramedStream.withBuffered source Framing.newTexts.1 [104]
    follow source [104] plan = ⟨[.text "he", .frame [5, 6], .text "hi"], some .ended⟩ ∧
    (∀ e, Polled.failed e ∉ (s.run [.poll, .poll]).1) ∧
    (∃ n taken, (s.run [.poll, .poll]).2.source = afterPolls source n ∧
      [104] ++ Script.delivered source n = taken ++ [0, 0]) ∧
    s.run ([.poll] ++ [.resplit, .poll]) = s.run ([.poll] ++ [.poll]) := by
  intro source plan s
  have hrun : (s.run [.poll, .poll]).1 = [.pending, .next (.text "he")] := by decide +kernel
  have hrest : (s.run [.poll, .poll]).2.intoParts.2.2 = [0, 0] := by decide +kernel
  have hok : ∀ e, Polled.failed e ∉ (s.run [.poll, .poll]).1 := by
    intro e
    rw [hrun]
    simp
  obtain ⟨hplans, hkept⟩ := switching_loses_nothing source [104]
  refine ⟨?_, hok, ?_, ?_⟩
  · rw [hplans plan]
    decide
  · obtain ⟨n, taken, hsource, hsplit, -⟩ := (hkept Framing.newTexts [.poll, .poll]).octets hok
    rw [hrest] at hsplit
    exact ⟨n, taken, hsource, hsplit⟩
  · have hdone : (s.run [.poll]).2.parts.done = false := by decide +kernel
    exact (hkept Framing.newTexts [.poll]).resplit hdone [.poll]

end Duplex
