import Duplex.Proofs.PushPull

/-! # No octet is lost

  A framed stream gets octets from two places, from the octets that it starts with and from
  the chunks of its source, and passes them to its decoder. This module keeps the accounts:
  what has come is what the decoders have taken, followed by what is left in the stream.

  One poll is accounted for first (`poll_account`): it turns to the source only with nothing
  left (`Pulls`), and where it answers with a message, its decoder has taken the octets up to
  the one that completed the message. A run of polls in which the stream is taken apart and
  put together again is a sequence of such entries (`run_account`).
-/

namespace Duplex

open LawfulDecoder (Inv)
open Decoder (feedAll)
open Source (afterPolls)

variable {δ ι ε : Type} [Decoder δ ι]

/-! ### What a decoder takes -/

namespace Decoder

/-- `Completes d used item d'`: of these octets the last one completes a message, the first
    one since `d`, and the decoder is `d'` then. -/
def Completes (d : δ) (used : Bytes) (item : ι) (d' : δ) : Prop :=
  ∃ most last d₁, used = most ++ [last] ∧ feedAll d most = ⟨#[], none, d₁⟩ ∧
    feed d₁ last = (.ok (some item), d')

theorem Completes.feedAll_eq {d d' : δ} {used : Bytes} {item : ι} (h : Completes d used item d') :
    feedAll d used = ⟨#[item], none, d'⟩ := by
  obtain ⟨most, last, d₁, rfl, hmost, hlast⟩ := h
  rw [feedAll_append, hmost, Run.resume_of_ok rfl, feedAll_cons_of_ok hlast]
  rfl

/-- Octets that complete nothing may come first. -/
theorem Completes.of_silent {d d₁ d' : δ} {first used : Bytes} {item : ι}
    (hfirst : feedAll d first = ⟨#[], none, d₁⟩) (h : Completes d₁ used item d') :
    Completes d (first ++ used) item d' := by
  obtain ⟨most, last, d₂, rfl, hmost, hlast⟩ := h
  refine ⟨first ++ most, last, d₂, by rw [List.append_assoc], ?_, hlast⟩
  rw [feedAll_append, hfirst, Run.resume_of_ok rfl, hmost]
  rfl

theorem completes_of_feedEach {d d' : δ} {c n : Nat} {bytes : Bytes} {item : ι}
    (h : feedEach feed d c bytes = (.ok ⟨n, some item⟩, d')) :
    ∃ used rest, bytes = used ++ rest ∧ n = c + used.length ∧ Completes d used item d' := by
  induction bytes generalizing d c with
  | nil => simp [feedEach] at h
  | cons b bytes ih =>
    simp only [feedEach] at h
    split at h
    · cases h
    · next heq =>
      cases h
      exact ⟨[b], bytes, rfl, rfl, [], b, d, rfl, rfl, heq⟩
    · next d₁ heq =>
      obtain ⟨used, rest, rfl, rfl, hused⟩ := ih h
      refine ⟨b :: used, rest, rfl, ?_, ?_⟩
      · rw [List.length_cons]
        omega
      · have hfirst : feedAll d [b] = ⟨#[], none, d₁⟩ := by
          rw [feedAll_cons_of_ok heq]
          rfl
        exact hused.of_silent hfirst

variable [LawfulDecoder δ]

/-- A call that completes a message takes the octets up to the one that completes it. -/
theorem completes_of_advance {d d' : δ} {bytes rest : Bytes} {item : ι} (h : Inv d)
    (ha : advance d bytes = (.ok (some item, rest), d')) :
    ∃ used, bytes = used ++ rest ∧ Completes d used item d' := by
  simp only [advance, LawfulDecoder.feedSlice_eq d bytes h] at ha
  split at ha
  · cases ha
  · next fed d₁ heq =>
    obtain ⟨n, item'⟩ := fed
    simp only [Prod.mk.injEq, Except.ok.injEq] at ha
    obtain ⟨⟨rfl, rfl⟩, rfl⟩ := ha
    obtain ⟨used, rest, rfl, rfl, hused⟩ := completes_of_feedEach heq
    have hpos : 1 ≤ used.length := by
      obtain ⟨most, last, -, rfl, -⟩ := hused
      simp
    refine ⟨used, ?_, hused⟩
    rw [Nat.zero_add, Nat.max_eq_right hpos, List.drop_left]

end Decoder

/-- The item in an answer. -/
def Polled.item? {α : Type} : Polled α ε → Option α
  | .next item => some item
  | .pending | .failed _ | .ended => none

/-- What a decoder has taken when a stream gives an answer that is no failure: with an item,
    the octets up to the one that completed it; otherwise octets that completed nothing. -/
def TakenFor (d : δ) (used : Bytes) (d' : δ) : Polled ι ε → Prop
  | .next item => Decoder.Completes d used item d'
  | .pending | .ended => feedAll d used = ⟨#[], none, d'⟩
  | .failed _ => True

theorem TakenFor.of_silent {d d₁ d' : δ} {first used : Bytes} {answer : Polled ι ε}
    (hfirst : feedAll d first = ⟨#[], none, d₁⟩) (h : TakenFor d₁ used d' answer) :
    TakenFor d (first ++ used) d' answer := by
  have hsilent (h : feedAll d₁ used = ⟨#[], none, d'⟩) :
      feedAll d (first ++ used) = ⟨#[], none, d'⟩ := by
    rw [Decoder.feedAll_append, hfirst, Decoder.Run.resume_of_ok rfl, h]
    rfl
  cases answer with
  | next item => exact Decoder.Completes.of_silent hfirst h
  | pending => exact hsilent h
  | ended => exact hsilent h
  | failed e => trivial

/-- The run over what was taken delivers the item of the answer. -/
theorem TakenFor.feedAll_eq {d d' : δ} {used : Bytes} {answer : Polled ι ε}
    (h : TakenFor d used d' answer) (hok : ∀ e, answer ≠ .failed e) :
    feedAll d used = ⟨answer.item?.toArray, none, d'⟩ := by
  cases answer with
  | next item => exact Decoder.Completes.feedAll_eq h
  | pending | ended => exact h
  | failed e => exact absurd rfl (hok e)

/-! ### What a source delivers -/

/-- The octets in an answer. -/
def Polled.octets : Polled Bytes ε → Bytes
  | .next chunk => chunk
  | .pending | .failed _ | .ended => []

namespace Script

/-- The octets that the first `n` polls of a script deliver. -/
def delivered (s : Script Bytes ε) : Nat → Bytes
  | 0 => []
  | n + 1 => s.poll.1.octets ++ delivered s.poll.2 n

theorem delivered_add (s : Script Bytes ε) (n m : Nat) :
    delivered s (n + m) = delivered s n ++ delivered (afterPolls s n) m := by
  induction n generalizing s with
  | zero => simp [delivered, afterPolls]
  | succ n ih =>
    rw [Nat.succ_add]
    simp only [delivered, ih, List.append_assoc]
    rfl

/-- Before its first failure or end, a script carries what it has delivered and what it still
    carries. -/
theorem carried_eq_delivered (s : Script Bytes ε) {n : Nat} (h : n < lifetime s.answers) :
    carried s.answers =
      (delivered s n ++ (carried (afterPolls s n).answers).1,
        (carried (afterPolls s n).answers).2) := by
  induction n generalizing s with
  | zero => rfl
  | succ n ih =>
    have hlife := lifetime_eq_poll s
    cases hfinal : s.poll.1.isFinal with
    | true =>
      rw [if_pos hfinal] at hlife
      omega
    | false =>
      rw [if_neg (by simp [hfinal])] at hlife
      have ih := ih s.poll.2 (by omega)
      rw [carried_eq_poll, ih]
      simp only [delivered, List.append_assoc]
      cases hanswer : s.poll.1 with
      | pending | next _ => rfl
      | failed _ | ended => rw [hanswer] at hfinal; cases hfinal

theorem lifetime_pos (answers : List (Polled Bytes ε)) : 0 < lifetime answers := by
  cases answers with
  | nil => exact Nat.one_pos
  | cons answer rest =>
    simp only [lifetime]
    split
    · exact Nat.one_pos
    · exact Nat.succ_pos _

end Script

/-! ### Taking apart -/

namespace FramedStream

/-- The stream, taken apart and put together again with this decoder. -/
def reframe (s : FramedStream δ ε) (decoder : δ) : FramedStream δ ε :=
  let (source, _, rest) := s.intoParts
  withBuffered source decoder rest

/-- The stream, taken apart and put together again. -/
def resplit (s : FramedStream δ ε) : FramedStream δ ε :=
  let (source, decoder, rest) := s.intoParts
  withBuffered source decoder rest

/-- A stream that is not finished is not changed by being taken apart. -/
theorem resplit_eq {s : FramedStream δ ε} (h : s.parts.done = false) : s.resplit = s := by
  obtain ⟨source, decoder, chunk, done⟩ := s
  obtain rfl : done = false := h
  rfl

end FramedStream

/-! ### One poll -/

variable [FromFrame ε]

namespace Reassembly

theorem absorb_decoder (r : Reassembly δ) (polled : Polled Bytes ε) :
    (r.absorb polled : Option (Polled ι ε) × _).2.decoder = r.decoder := by
  cases polled with
  | pending | next _ | failed _ => rfl
  | ended =>
    simp only [absorb]
    split <;> rfl

/-- Only a chunk leaves a stream without an answer. -/
theorem eq_next_of_absorb_none {r r' : Reassembly δ} {polled : Polled Bytes ε}
    (h : (r.absorb polled : Option (Polled ι ε) × _) = (none, r')) :
    polled = .next r'.chunk ∧ r'.decoder = r.decoder := by
  cases polled with
  | pending | failed _ => cases h
  | next chunk => cases h; exact ⟨rfl, rfl⟩
  | ended =>
    simp only [absorb] at h
    split at h <;> cases h

/-- What the source answers instead of a chunk brings no octets, and no message. -/
theorem octets_of_absorb_some {r r' : Reassembly δ} {polled : Polled Bytes ε}
    {answer : Polled ι ε} (h : r.absorb polled = (some answer, r')) :
    polled.octets = [] ∧ ∀ item, answer ≠ .next item := by
  cases polled with
  | pending | failed _ => cases h; exact ⟨rfl, by simp⟩
  | next chunk => cases h
  | ended =>
    simp only [absorb] at h
    split at h <;> (cases h; exact ⟨rfl, by simp⟩)

variable [LawfulDecoder δ]

/-- Decoding from the chunk takes its first octets and leaves the others. -/
theorem drain_account {r : Reassembly δ} (h : Inv r.decoder) :
    let result : Option (Polled ι ε) × Reassembly δ := r.drain
    Inv result.2.decoder ∧
    match result.1 with
    | some (.failed _) => True
    | some answer =>
      ∃ used, r.chunk = used ++ result.2.chunk ∧ TakenFor r.decoder used result.2.decoder answer
    | none => result.2.chunk = [] ∧ feedAll r.decoder r.chunk = ⟨#[], none, result.2.decoder⟩ := by
  fun_induction drain (ε := ε) r with
  | case1 r hdone => exact ⟨h, [], rfl, rfl⟩
  | case2 r hdone hchunk => exact ⟨h, hchunk, by rw [hchunk]; rfl⟩
  | case3 r hdone hne e d' ha =>
    have hall := Decoder.feedAll_of_advance_error h ha
    exact ⟨by simpa [hall] using Decoder.inv_feedAll h r.chunk, trivial⟩
  | case4 r hdone hne item rest d' ha =>
    obtain ⟨hinv, -⟩ := Decoder.feedAll_of_advance_item h ha
    exact ⟨hinv, Decoder.completes_of_advance h ha⟩
  | case5 r hdone hne rest d' ha ih =>
    obtain ⟨hinv, rfl, hall⟩ := Decoder.feedAll_of_advance_none h ha
    -- the whole chunk was taken, so there is nothing left to go on with
    have hnil : (⟨d', [], false⟩ : Reassembly δ).drain =
        ((none : Option (Polled ι ε)), ⟨d', [], false⟩) := by
      rw [drain]
      simp
    rw [hnil]
    exact ⟨hinv, rfl, hall⟩

end Reassembly

namespace FramedStream

/-- `Pulls s t`: in the course of one poll of `s`, the source is polled when the stream is `t`. -/
inductive Pulls : FramedStream δ ε → FramedStream δ ε → Prop where
  /-- The chunk gives no answer. -/
  | first {s : FramedStream δ ε} {parts : Reassembly δ}
      (hdrain : (s.parts.drain : Option (Polled ι ε) × _) = (none, parts)) :
      Pulls s ⟨s.source, parts⟩
  /-- Neither does the answer of the source, and the poll goes on with what it brought. -/
  | later {s t : FramedStream δ ε} {parts parts' : Reassembly δ}
      (hdrain : (s.parts.drain : Option (Polled ι ε) × _) = (none, parts))
      (habsorb : (parts.absorb s.source.poll.1 : Option (Polled ι ε) × _) = (none, parts'))
      (hpulls : Pulls ⟨s.source.poll.2, parts'⟩ t) : Pulls s t

/-- The source is polled only with nothing left. -/
theorem Pulls.chunk_eq_nil {s t : FramedStream δ ε} (h : Pulls s t) : t.parts.chunk = [] := by
  induction h with
  | first hdrain => exact (Reassembly.chunk_of_drain_none hdrain).2
  | later _ _ _ ih => exact ih

variable [LawfulDecoder δ]

/-- `PollAccount s n answer s'`: a poll of `s` that answers this and leaves `s'` has polled the
    source `n` times. -/
structure PollAccount (s : FramedStream δ ε) (n : Nat) (answer : Polled ι ε)
    (s' : FramedStream δ ε) : Prop where
  /-- The source was polled so often. -/
  source : s'.source = afterPolls s.source n
  /-- The decoder is in order after it. -/
  inv : Inv s'.parts.decoder
  /-- Each time the source was polled nothing was left: the decoder had taken all octets that
      had come, and they completed nothing. -/
  pulls : ∀ j < n, ∃ t, Pulls s t ∧ t.source = afterPolls s.source j ∧ t.parts.chunk = [] ∧
    feedAll s.parts.decoder (s.parts.chunk ++ Script.delivered s.source j) =
      ⟨#[], none, t.parts.decoder⟩
  /-- What had come is what the decoder has taken and what is left, unless the answer is a
      failure. -/
  taken : (∀ e, answer ≠ .failed e) →
    ∃ used, s.parts.chunk ++ Script.delivered s.source n = used ++ s'.parts.chunk ∧
      TakenFor s.parts.decoder used s'.parts.decoder answer

/-- Where decoding from the chunk gives no answer, the stream is about to poll its source. -/
theorem pulls_first {s : FramedStream δ ε} {parts : Reassembly δ} (h : Inv s.parts.decoder)
    (hd : (s.parts.drain : Option (Polled ι ε) × _) = (none, parts)) :
    Inv parts.decoder ∧ Pulls s ⟨s.source, parts⟩ ∧ parts.chunk = [] ∧
      feedAll s.parts.decoder s.parts.chunk = ⟨#[], none, parts.decoder⟩ := by
  have hdrain := Reassembly.drain_account (ε := ε) h
  rw [hd] at hdrain
  exact ⟨hdrain.1, .first hd, hdrain.2⟩

/-- Every poll has an account. -/
theorem poll_account {s : FramedStream δ ε} (h : Inv s.parts.decoder) :
    ∃ n, PollAccount s n s.poll.1 s.poll.2 := by
  -- a poll may pull many chunks: by induction on its calls of itself
  fun_induction poll (ε := ε) s with
  | case1 s answer parts hd =>
    have hdrain := Reassembly.drain_account (ε := ε) h
    rw [hd] at hdrain
    obtain ⟨hinv, htaken⟩ := hdrain
    refine ⟨0, rfl, hinv, by simp, fun hok => ?_⟩
    rw [Script.delivered, List.append_nil]
    cases answer with
    | failed e => exact absurd rfl (hok e)
    | pending | next _ | ended => exact htaken
  | case2 s parts hd polled source hp answer parts' ha =>
    obtain ⟨hinv, hpulls, hchunk, hall⟩ := pulls_first h hd
    have hdecoder := Reassembly.absorb_decoder (ι := ι) parts polled
    rw [ha] at hdecoder
    refine ⟨1, ?_, hdecoder ▸ hinv, ?_, fun hok => ⟨s.parts.chunk, ?_, ?_⟩⟩
    · show source = s.source.poll.2
      rw [hp]
    · intro j hj
      obtain rfl : j = 0 := Nat.lt_one_iff.1 hj
      refine ⟨_, hpulls, rfl, hchunk, ?_⟩
      rwa [Script.delivered, List.append_nil]
    · show s.parts.chunk ++ (s.source.poll.1.octets ++ []) = s.parts.chunk ++ parts'.chunk
      rw [hp, Reassembly.absorb_chunk parts ha, hchunk, (Reassembly.octets_of_absorb_some ha).1,
        List.append_nil]
    · show TakenFor s.parts.decoder s.parts.chunk parts'.decoder answer
      rw [show parts'.decoder = parts.decoder from hdecoder]
      cases answer with
      | next item => exact absurd rfl ((Reassembly.octets_of_absorb_some ha).2 item)
      | failed e => exact absurd rfl (hok e)
      | pending | ended => exact hall
  | case3 s parts hd polled source hp parts' ha ih =>
    obtain ⟨hinv, hpulls, hchunk, hall⟩ := pulls_first h hd
    obtain ⟨rfl, hdecoder⟩ := Reassembly.eq_next_of_absorb_none ha
    obtain ⟨n, haccount⟩ := ih (hdecoder ▸ hinv)
    -- the octets in front of the chunk completed nothing
    have hdelivered (j : Nat) : s.parts.chunk ++ Script.delivered s.source (j + 1) =
        s.parts.chunk ++ (parts'.chunk ++ Script.delivered source j) := by
      rw [Script.delivered, hp]
      rfl
    rw [← hdecoder] at hall
    refine ⟨n + 1, ?_, haccount.inv, ?_, fun hok => ?_⟩
    · rw [haccount.source]
      show afterPolls source n = afterPolls s.source.poll.2 n
      rw [hp]
    · intro j hj
      cases j with
      | zero =>
        refine ⟨_, hpulls, rfl, hchunk, ?_⟩
        rw [Script.delivered, List.append_nil, hall, hdecoder]
      | succ j =>
        obtain ⟨t, ht, hsource, htchunk, htaken⟩ := haccount.pulls j (by omega)
        refine ⟨t, .later hd (by rw [hp]; exact ha) (by rw [hp]; exact ht), ?_, htchunk, ?_⟩
        · rw [hsource]
          show afterPolls source j = afterPolls s.source.poll.2 j
          rw [hp]
        · rw [hdelivered, Decoder.feedAll_append, hall, Decoder.Run.resume_of_ok rfl, htaken]
          rfl
    · obtain ⟨used, hsplit, htaken⟩ := haccount.taken hok
      refine ⟨s.parts.chunk ++ used, ?_, htaken.of_silent hall⟩
      rw [hdelivered, hsplit, List.append_assoc]

end FramedStream

/-! ### Runs -/

variable [LawfulDecoder δ]

/-- What may be done with a framed stream. -/
inductive Move (δ : Type) [Decoder δ ι] [LawfulDecoder δ] where
  /-- It is polled. -/
  | poll
  /-- It is taken apart and put together again. -/
  | resplit
  /-- It is taken apart and put together again with another decoder. -/
  | switch (decoder : SoundDecoder δ)

/-- The decoder that a move brings in. -/
def Move.decoder? : Move δ → Option (SoundDecoder δ)
  | .switch decoder => some decoder
  | .poll | .resplit => none

/-- `TakenInTurn d later octets items d'`: the decoder `d` and then the decoders `later`, each
    from where the one before it stopped, take these octets without an error and deliver these
    items; the last of them is `d'` then. -/
inductive TakenInTurn : δ → List (SoundDecoder δ) → Bytes → List ι → δ → Prop where
  /-- There is only one decoder. -/
  | single {d d' : δ} {octets : Bytes} {items : Array ι}
      (htaken : feedAll d octets = ⟨items, none, d'⟩) :
      TakenInTurn d [] octets items.toList d'
  /-- Another decoder goes on. -/
  | switch {d d₁ d' : δ} {next : SoundDecoder δ} {later : List (SoundDecoder δ)}
      {octets more : Bytes} {items : Array ι} {others : List ι}
      (htaken : feedAll d octets = ⟨items, none, d₁⟩)
      (hlater : TakenInTurn next.1 later more others d') :
      TakenInTurn d (next :: later) (octets ++ more) (items.toList ++ others) d'

/-- The first decoder may have taken octets before. -/
theorem TakenInTurn.prepend {d d₁ d' : δ} {later : List (SoundDecoder δ)}
    {first octets : Bytes} {items : Array ι} {others : List ι}
    (hfirst : feedAll d first = ⟨items, none, d₁⟩)
    (h : TakenInTurn d₁ later octets others d') :
    TakenInTurn d later (first ++ octets) (items.toList ++ others) d' := by
  have happend {bytes : Bytes} {more : Array ι} {d₂ : δ}
      (hmore : feedAll d₁ bytes = ⟨more, none, d₂⟩) :
      feedAll d (first ++ bytes) = ⟨items ++ more, none, d₂⟩ := by
    rw [Decoder.feedAll_append, hfirst, Decoder.Run.resume_of_ok rfl, hmore]
    rfl
  have hitems (more : Array ι) : items.toList ++ more.toList = (items ++ more).toList :=
    Array.toList_append.symm
  cases h with
  | single htaken =>
    rw [hitems]
    exact .single (happend htaken)
  | switch htaken hlater =>
    rw [← List.append_assoc, ← List.append_assoc, hitems]
    exact .switch (happend htaken) hlater

namespace FramedStream

/-- The answers to the polls among some moves, and the stream after the moves. -/
def run (s : FramedStream δ ε) : List (Move δ) → List (Polled ι ε) × FramedStream δ ε
  | [] => ([], s)
  | .poll :: moves =>
    let (answers, s') := run s.poll.2 moves
    (s.poll.1 :: answers, s')
  | .resplit :: moves => run s.resplit moves
  | .switch decoder :: moves => run (s.reframe decoder.1) moves

theorem run_append (s : FramedStream δ ε) (moves more : List (Move δ)) :
    s.run (moves ++ more) =
      ((s.run moves).1 ++ ((s.run moves).2.run more).1, ((s.run moves).2.run more).2) := by
  induction moves generalizing s with
  | nil => rfl
  | cons move moves ih =>
    cases move with
    | poll => simp only [List.cons_append, run, ih]
    | resplit => exact ih s.resplit
    | switch decoder => exact ih (s.reframe decoder.1)

/-- The decoder is in order after any moves. -/
theorem inv_run {s : FramedStream δ ε} (h : Inv s.parts.decoder) (moves : List (Move δ)) :
    Inv (s.run moves).2.parts.decoder := by
  induction moves generalizing s with
  | nil => exact h
  | cons move moves ih =>
    cases move with
    | poll =>
      obtain ⟨n, haccount⟩ := poll_account h
      exact ih haccount.inv
    | resplit => exact ih (s := s.resplit) h
    | switch decoder => exact ih (s := s.reframe decoder.1) decoder.2

/-- What a run does to a stream, as long as no failure is answered: what has come is what the
    decoders have taken in turn, followed by what is left. -/
theorem run_account {s : FramedStream δ ε} (h : Inv s.parts.decoder) (moves : List (Move δ))
    (hok : ∀ e, Polled.failed e ∉ (s.run moves).1) :
    let (answers, s') := s.run moves
    ∃ n taken, s'.source = afterPolls s.source n ∧
      s.parts.chunk ++ Script.delivered s.source n = taken ++ s'.parts.chunk ∧
      TakenInTurn s.parts.decoder (moves.filterMap Move.decoder?) taken
        (answers.filterMap Polled.item?) s'.parts.decoder := by
  induction moves generalizing s with
  | nil =>
    have hnone : feedAll s.parts.decoder [] = ⟨#[], none, s.parts.decoder⟩ := rfl
    exact ⟨0, [], rfl, List.append_nil _, .single hnone⟩
  | cons move moves ih =>
    cases move with
    | poll =>
      simp only [run, List.mem_cons, not_or] at hok
      have hanswer : ∀ e, s.poll.1 ≠ .failed e := fun e he => (hok e).1 he.symm
      obtain ⟨n, haccount⟩ := poll_account h
      obtain ⟨used, hused, htaken⟩ := haccount.taken hanswer
      obtain ⟨m, more, hsource, hsplit, hmore⟩ := ih haccount.inv fun e => (hok e).2
      refine ⟨n + m, used ++ more, ?_, ?_, ?_⟩
      · rw [Source.afterPolls_add, ← haccount.source]
        exact hsource
      · rw [Script.delivered_add, ← haccount.source, ← List.append_assoc, hused,
          List.append_assoc, hsplit, List.append_assoc]
      · have hitems : (s.poll.1 :: (s.poll.2.run moves).1).filterMap Polled.item? =
            s.poll.1.item?.toArray.toList ++ (s.poll.2.run moves).1.filterMap Polled.item? := by
          cases s.poll.1 <;> rfl
        rw [hitems]
        exact hmore.prepend (htaken.feedAll_eq hanswer)
    | resplit => exact ih (s := s.resplit) h hok
    | switch decoder =>
      obtain ⟨n, taken, hsource, hsplit, htaken⟩ := ih (s := s.reframe decoder.1) decoder.2 hok
      -- the decoder that is given up has taken nothing since the last poll
      have hnone : feedAll s.parts.decoder [] = ⟨#[], none, s.parts.decoder⟩ := rfl
      exact ⟨n, taken, hsource, hsplit, .switch hnone htaken⟩

/-- A stream that is not finished may be taken apart and put together again at any time. -/
theorem run_resplit (s : FramedStream δ ε) (moves more : List (Move δ))
    (h : (s.run moves).2.parts.done = false) :
    s.run (moves ++ .resplit :: more) = s.run (moves ++ more) := by
  have hresplit : (s.run moves).2.run (.resplit :: more) = (s.run moves).2.run more := by
    show (s.run moves).2.resplit.run more = _
    rw [resplit_eq h]
  rw [run_append, run_append, hresplit]

end FramedStream

end Duplex
