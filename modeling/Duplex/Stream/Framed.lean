import Duplex.Codec.Decoder
import Duplex.Stream.Source

/-! # Framed streams

  A framed stream turns a source of chunks into a source of messages. A chunk may hold
  many messages, or part of one; the stream polls its source only when the current chunk
  is used up, so what it has not decoded can be handed on to another framing.

  A decoding error, a failure of the source and the end of the source each finish the
  stream. At the end of the source the decoder decides whether the stream may end there.
-/

namespace Duplex

/-- The errors of a framed stream over a source with errors of its own. -/
inductive StreamError (ε : Type) where
  /-- The octets could not be decoded. -/
  | frame (error : FrameError)
  /-- The source failed. -/
  | source (error : ε)
  deriving DecidableEq, Repr

instance {ε : Type} : FromFrame (StreamError ε) where
  ofFrame := .frame

/-- Putting messages together: the decoder, the part of the current chunk that it has not
    taken, and whether the stream is finished. -/
structure Reassembly (δ : Type) where
  /-- The decoder. -/
  decoder : δ
  /-- The octets that were received and not yet taken. -/
  chunk : Bytes := []
  /-- Whether the stream is finished. -/
  done : Bool := false

namespace Reassembly

variable {δ ι ε : Type} [Decoder δ ι] [FromFrame ε]

/-- Decodes from the current chunk up to an answer. There is none once the chunk is used up.
    A chunk that could not be decoded stays whole. -/
def drain (r : Reassembly δ) : Option (Polled ι ε) × Reassembly δ :=
  if r.done then (some .ended, r)
  else if _hne : r.chunk = [] then (none, r)
  else
    match _h : Decoder.advance r.decoder r.chunk with
    | (.error e, decoder) => (some (.failed (FromFrame.ofFrame e)), ⟨decoder, r.chunk, true⟩)
    | (.ok (some item, rest), decoder) => (some (.next item), ⟨decoder, rest, false⟩)
    | (.ok (none, rest), decoder) => drain ⟨decoder, rest, false⟩
termination_by r.chunk.length
decreasing_by exact Decoder.advance_rest_lt _hne _h

/-- Takes the answer that the source gave once the chunk was used up. A chunk gives no answer
    of its own, since it is yet to be decoded. -/
def absorb (r : Reassembly δ) : Polled Bytes ε → Option (Polled ι ε) × Reassembly δ
  | .pending => (some .pending, r)
  | .next chunk => (none, { r with chunk })
  | .failed e => (some (.failed e), { r with done := true })
  | .ended =>
    match Decoder.finish r.decoder with
    | .ok () => (some .ended, { r with done := true })
    | .error e => (some (.failed (FromFrame.ofFrame e)), { r with done := true })

theorem drain_chunk_le (r : Reassembly δ) :
    (r.drain : Option (Polled ι ε) × _).2.chunk.length ≤ r.chunk.length := by
  fun_induction drain (ε := ε) r with
  | case1 | case2 | case3 => exact Nat.le_refl _
  | case4 r _ hne item rest decoder h => exact Nat.le_of_lt (Decoder.advance_rest_lt hne h)
  | case5 r _ hne rest decoder h ih =>
    exact Nat.le_trans ih (Nat.le_of_lt (Decoder.advance_rest_lt hne h))

theorem drain_chunk_lt (r : Reassembly δ) {answer : Polled ι ε} {r' : Reassembly δ}
    (h : r.drain = (some answer, r')) (hf : answer.isFinal = false) :
    r'.chunk.length < r.chunk.length := by
  fun_induction drain (ε := ε) r with
  | case1 | case3 =>
    simp only [Prod.mk.injEq, Option.some.injEq] at h
    rw [← h.1] at hf
    cases hf
  | case2 => simp at h
  | case4 r _ hne item rest decoder ha =>
    simp only [Prod.mk.injEq] at h
    rw [← h.2]
    exact Decoder.advance_rest_lt hne ha
  | case5 r _ hne rest decoder ha ih => exact Nat.lt_trans (ih h) (Decoder.advance_rest_lt hne ha)

theorem absorb_chunk (r : Reassembly δ) {answer : Polled ι ε} {r' : Reassembly δ}
    {polled : Polled Bytes ε} (h : r.absorb polled = (some answer, r')) :
    r'.chunk = r.chunk := by
  cases polled with
  | next chunk => simp [absorb] at h
  | pending | failed e => simp only [absorb, Prod.mk.injEq] at h; rw [← h.2]
  | ended =>
    simp only [absorb] at h
    split at h <;> (simp only [Prod.mk.injEq] at h; rw [← h.2])

end Reassembly

/-- A source of messages over a script of chunks. -/
structure FramedStream (δ ε : Type) where
  /-- The source of chunks. -/
  source : Script Bytes ε
  /-- The messages being put together. -/
  parts : Reassembly δ

namespace FramedStream

variable {δ ι ε : Type}

/-- A new stream, with octets that were received before. -/
def withBuffered (source : Script Bytes ε) (decoder : δ) (chunk : Bytes) : FramedStream δ ε :=
  ⟨source, { decoder, chunk }⟩

/-- A new stream. -/
def new (source : Script Bytes ε) (decoder : δ) : FramedStream δ ε :=
  withBuffered source decoder []

/-- The stream taken apart: the source, the decoder, and the octets not yet taken. -/
def intoParts (s : FramedStream δ ε) : Script Bytes ε × δ × Bytes :=
  (s.source, s.parts.decoder, s.parts.chunk)

/-! ### A bound on the answers

  Each answer that is no failure and no end uses up an answer of the source or an octet of
  the current chunk. -/

/-- How much one answer of the source can feed the stream. -/
def cost : Polled Bytes ε → Nat
  | .next chunk => chunk.length + 1
  | _ => 1

/-- How much a list of answers can feed the stream. -/
def totalCost : List (Polled Bytes ε) → Nat
  | [] => 0
  | answer :: rest => cost answer + totalCost rest

/-- A bound on the answers before a failure or an end. -/
def left (s : FramedStream δ ε) : Nat := totalCost s.source.answers + s.parts.chunk.length

theorem left_eq_of_poll {s s' : Script Bytes ε} {answer : Polled Bytes ε}
    (hp : s.poll = (answer, s')) (h : s.answers ≠ []) :
    totalCost s.answers = cost answer + totalCost s'.answers := by
  match s with
  | ⟨[], _⟩ => exact absurd rfl h
  | ⟨a :: rest, n⟩ =>
    cases a <;> (simp only [Script.poll, Prod.mk.injEq] at hp; simp [← hp.1, ← hp.2, totalCost])

theorem one_le_cost (answer : Polled Bytes ε) : 1 ≤ cost answer := by
  cases answer <;> simp [cost]

/-! ### Polling -/

variable [Decoder δ ι] [FromFrame ε]

theorem source_answers_ne_nil {s s' : Script Bytes ε} {r r' : Reassembly δ}
    {answer : Polled Bytes ε} (hp : s.poll = (answer, s'))
    (h : (r.absorb answer : Option (Polled ι ε) × _) = (none, r')) : s.answers ≠ [] := by
  apply Script.answers_ne_nil_of_poll
  rw [hp]
  cases answer with
  | next _ => rfl
  | pending => rfl
  | failed e => simp [Reassembly.absorb] at h
  | ended =>
    simp only [Reassembly.absorb] at h
    split at h <;> simp at h

/-- Polls once: decodes, and polls the source whenever the chunk is used up. -/
def poll (s : FramedStream δ ε) : Polled ι ε × FramedStream δ ε :=
  match (s.parts.drain : Option (Polled ι ε) × _) with
  | (some answer, parts) => (answer, ⟨s.source, parts⟩)
  | (none, parts) =>
    match _hp : s.source.poll with
    | (answer, source) =>
      match _h : (parts.absorb answer : Option (Polled ι ε) × _) with
      | (some answer, parts) => (answer, ⟨source, parts⟩)
      | (none, parts) => poll ⟨source, parts⟩
termination_by s.source.answers.length
decreasing_by
  have := Script.poll_length s.source (source_answers_ne_nil _hp _h)
  simp only [_hp] at this
  show source.answers.length < s.source.answers.length
  omega

theorem poll_left (s : FramedStream δ ε) (hf : s.poll.1.isFinal = false) :
    left s.poll.2 < left s := by
  fun_induction poll (ε := ε) s with
  | case1 s answer parts h =>
    have := Reassembly.drain_chunk_lt _ h hf
    simp only [left]
    omega
  | case2 s parts hd polled source hp answer parts' h =>
    have hchunk := Reassembly.absorb_chunk _ h
    have hle := Reassembly.drain_chunk_le (ε := ε) s.parts
    rw [hd] at hle
    have hpf : polled.isFinal = false := by
      cases polled with
      | pending | next _ => rfl
      | failed e =>
        simp only [Reassembly.absorb, Prod.mk.injEq, Option.some.injEq] at h
        rw [← h.1] at hf
        cases hf
      | ended =>
        simp only [Reassembly.absorb] at h
        split at h <;>
          (simp only [Prod.mk.injEq, Option.some.injEq] at h; rw [← h.1] at hf; cases hf)
    have hne : s.source.answers ≠ [] := Script.answers_ne_nil_of_poll (by rw [hp]; exact hpf)
    have hcost := left_eq_of_poll hp hne
    have := one_le_cost polled
    simp only [left, hchunk] at hle ⊢
    omega
  | case3 s parts hd polled source hp parts' h ih =>
    refine Nat.lt_trans (ih hf) ?_
    have hcost := left_eq_of_poll hp (source_answers_ne_nil hp h)
    cases polled with
    | next chunk =>
      simp only [Reassembly.absorb, Prod.mk.injEq] at h
      simp only [left, ← h.2, hcost, cost]
      omega
    | pending => simp [Reassembly.absorb] at h
    | failed e => simp [Reassembly.absorb] at h
    | ended =>
      simp only [Reassembly.absorb] at h
      split at h <;> simp at h

instance : Source (FramedStream δ ε) ι ε where
  poll := poll
  left := left
  poll_left := poll_left

end FramedStream

end Duplex
