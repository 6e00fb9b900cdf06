import Duplex.Proofs.BulkPath
import Duplex.Proofs.Polling

/-! # How a stream is cut does not matter

  What a framed stream has still to answer is computed from three things: its decoder, the
  octets that it has not decoded, and what its source still carries (`Reassembly.outlook`).
  The octets of the two count as one string, so where one chunk ends and the next begins
  does not show. Each poll is a step of that outcome, for any lawful decoder: decoding from
  the chunk (`drain_outlook`), taking an answer of the source (`absorb_outlook`), and so
  whole polls (`foretells`).

  Two scripts that carry the same octets before the same failure or end therefore give the
  same answers through any of the three decoders.
-/

namespace Duplex

open LawfulDecoder (Inv)
open Decoder (afterCalls)

variable {δ ι ε : Type} [Decoder δ ι] [FromFrame ε]

namespace Decoder

/-- The answer that ends a stream whose source fails or ends: a failure is passed on, and at
    the end the decoder decides. -/
def closing (d : δ) : Option ε → Polled ι ε
  | some e => .failed e
  | none =>
    match finish d with
    | .ok () => .ended
    | .error e => .failed (FromFrame.ofFrame e)

/-- What a decoder makes of octets and the failure or end after them: the messages, and then
    the decoding error, or else what the failure or end comes to. -/
def outcome (d : δ) (carried : Bytes × Option ε) : Outcome ι ε :=
  let run := feedAll d carried.1
  { items := run.items.toList
    final :=
      match run.error with
      | some e => .failed (FromFrame.ofFrame e)
      | none => closing run.decoder carried.2 }

theorem isFinal_outcome (d : δ) (carried : Bytes × Option ε) :
    (outcome d carried).final.isFinal = true := by
  simp only [outcome]
  split
  · rfl
  · cases carried.2 with
    | some e => rfl
    | none => simp only [closing]; split <;> rfl

/-- Octets come to what they are decoded to, and then, unless an error ends it there, to what
    the octets after them come to. -/
theorem outcome_append (d : δ) (bytes more : Bytes) (failure : Option ε) :
    outcome d (bytes ++ more, failure) =
      let run := feedAll d bytes
      match run.error with
      | some e => ⟨run.items.toList, .failed (FromFrame.ofFrame e)⟩
      | none => (outcome run.decoder (more, failure)).prepend run.items.toList := by
  simp only [outcome, feedAll_append]
  cases h : (feedAll d bytes).error with
  | some e => simp [Run.resume_of_error h, h]
  | none => simp [Run.resume_of_ok h, Outcome.prepend]

/-- An error in the first octets is the outcome, whatever follows. -/
theorem outcome_of_error {d d' : δ} {bytes : Bytes} {e : FrameError}
    (h : feedAll d bytes = ⟨#[], some e, d'⟩) (more : Bytes) (failure : Option ε) :
    outcome d (bytes ++ more, failure) = ⟨[], .failed (FromFrame.ofFrame e)⟩ := by
  simp [outcome_append, h]

/-- A message in the first octets comes first. -/
theorem outcome_of_item {d d' : δ} {bytes rest : Bytes} {item : ι}
    (h : feedAll d bytes = (feedAll d' rest).prepend #[item]) (more : Bytes)
    (failure : Option ε) :
    outcome d (bytes ++ more, failure) = (outcome d' (rest ++ more, failure)).cons item := by
  rw [outcome_append, outcome_append, h]
  cases hrun : (feedAll d' rest).error <;> simp [hrun, Outcome.cons, Outcome.prepend]

/-- Octets that complete no message only change the decoder. -/
theorem outcome_of_none {d d' : δ} {bytes : Bytes} (h : feedAll d bytes = ⟨#[], none, d'⟩)
    (more : Bytes) (failure : Option ε) :
    outcome d (bytes ++ more, failure) = outcome d' (more, failure) := by
  simp [outcome_append, h]

end Decoder

namespace Reassembly

/-- What is still to be answered, if the source carries `later`. -/
def outlook (r : Reassembly δ) (later : Bytes × Option ε) : Outcome ι ε :=
  if r.done then .finished else Decoder.outcome r.decoder (r.chunk ++ later.1, later.2)

theorem outlook_of_done {r : Reassembly δ} (h : r.done = true) (later : Bytes × Option ε) :
    r.outlook later = .finished := by
  simp [outlook, h]

theorem outlook_of_not_done {r : Reassembly δ} (h : r.done = false) (later : Bytes × Option ε) :
    r.outlook later = Decoder.outcome r.decoder (r.chunk ++ later.1, later.2) := by
  simp [outlook, h]

/-- Decoding from the chunk is a step of the outcome, or it changes the outcome in nothing. -/
theorem drain_outlook [LawfulDecoder δ] {r : Reassembly δ} (h : Inv r.decoder)
    (later : Bytes × Option ε) :
    let result : Option (Polled ι ε) × Reassembly δ := r.drain
    Inv result.2.decoder ∧ (r.outlook later).StepOrStay result.1 (result.2.outlook later) := by
  fun_induction drain (ε := ε) r with
  | case1 r hdone =>
    exact ⟨h, outlook_of_done hdone later, outlook_of_done hdone later⟩
  | case2 r hdone hchunk =>
    exact ⟨h, rfl⟩
  | case3 r hdone hne e d' ha =>
    have hall := Decoder.feedAll_of_advance_error h ha
    refine ⟨by simpa [hall] using Decoder.inv_feedAll h r.chunk, ?_, outlook_of_done rfl later⟩
    rw [outlook_of_not_done (by simpa using hdone)]
    exact Decoder.outcome_of_error hall later.1 later.2
  | case4 r hdone hne item rest d' ha =>
    obtain ⟨hinv, -, hall⟩ := Decoder.feedAll_of_advance_item h ha
    refine ⟨hinv, ?_⟩
    rw [outlook_of_not_done (by simpa using hdone), outlook_of_not_done rfl]
    exact Decoder.outcome_of_item hall later.1 later.2
  | case5 r hdone hne rest d' ha ih =>
    obtain ⟨hinv, rfl, hall⟩ := Decoder.feedAll_of_advance_none h ha
    obtain ⟨hinv', hstep⟩ := ih hinv
    -- the octets that were taken live on in the decoder
    refine ⟨hinv', ?_⟩
    have hsame : r.outlook later = (⟨d', [], false⟩ : Reassembly δ).outlook later := by
      rw [outlook_of_not_done (by simpa using hdone), outlook_of_not_done rfl]
      exact Decoder.outcome_of_none hall later.1 later.2
    rw [hsame]
    exact hstep

/-- Where decoding gives no answer, the chunk is used up. -/
theorem chunk_of_drain_none {r r' : Reassembly δ}
    (h : (r.drain : Option (Polled ι ε) × _) = (none, r')) : r'.done = false ∧ r'.chunk = [] := by
  fun_induction drain (ε := ε) r with
  | case1 | case3 | case4 => simp at h
  | case2 r hdone hchunk =>
    cases h
    exact ⟨by simpa using hdone, hchunk⟩
  | case5 r hdone hne rest d' ha ih => exact ih h

/-- Taking an answer of the source is a step of the outcome, or it changes the outcome in
    nothing. -/
theorem absorb_outlook {r : Reassembly δ} (hdone : r.done = false) (hchunk : r.chunk = [])
    (answer : Polled Bytes ε) (later : Bytes × Option ε) :
    let result : Option (Polled ι ε) × Reassembly δ := r.absorb answer
    result.2.decoder = r.decoder ∧
    (r.outlook (Script.carriedBy answer later)).StepOrStay result.1 (result.2.outlook later) := by
  rw [outlook_of_not_done hdone, hchunk]
  cases answer with
  | pending =>
    refine ⟨rfl, ?_⟩
    show _ = r.outlook later
    rw [outlook_of_not_done hdone, hchunk]
    rfl
  | next chunk =>
    refine ⟨rfl, ?_⟩
    show _ = ({ r with chunk } : Reassembly δ).outlook later
    rw [outlook_of_not_done (by exact hdone)]
    rfl
  | failed e => exact ⟨rfl, rfl, outlook_of_done rfl later⟩
  | ended =>
    have hnil : Decoder.feedAll r.decoder [] = ⟨#[], none, r.decoder⟩ := rfl
    simp only [absorb, Script.carriedBy, List.append_nil, Decoder.outcome, hnil, Decoder.closing]
    cases Decoder.finish r.decoder with
    | ok _ => exact ⟨rfl, rfl, outlook_of_done rfl later⟩
    | error e => exact ⟨rfl, rfl, outlook_of_done rfl later⟩

end Reassembly

namespace FramedStream

/-- What a stream has still to answer. -/
def outlook (s : FramedStream δ ε) : Outcome ι ε :=
  s.parts.outlook (Script.carried s.source.answers)

variable [LawfulDecoder δ]

/-- Once the chunk is used up, polling the source is a step of the outcome, or it changes the
    outcome in nothing. -/
theorem pull_outlook {s : FramedStream δ ε} {parts : Reassembly δ} {polled : Polled Bytes ε}
    {source : Script Bytes ε} (h : Inv s.parts.decoder)
    (hd : (s.parts.drain : Option (Polled ι ε) × _) = (none, parts))
    (hp : s.source.poll = (polled, source)) :
    let result : Option (Polled ι ε) × Reassembly δ := parts.absorb polled
    Inv result.2.decoder ∧
    s.outlook.StepOrStay result.1 (FramedStream.mk source result.2).outlook := by
  have hdrain := Reassembly.drain_outlook (ε := ε) h (Script.carried s.source.answers)
  rw [hd] at hdrain
  obtain ⟨hinv, hsame⟩ := hdrain
  -- the chunk is used up, so the octets still to come are those of the source
  obtain ⟨hdone, hchunk⟩ := Reassembly.chunk_of_drain_none hd
  obtain ⟨hdecoder, hstep⟩ := Reassembly.absorb_outlook (ι := ι) hdone hchunk polled
    (Script.carried source.answers)
  have hcarried := Script.carried_eq_poll s.source
  rw [hp] at hcarried
  refine ⟨hdecoder ▸ hinv, ?_⟩
  rw [show s.outlook = parts.outlook (Script.carried s.source.answers) from hsame, hcarried]
  exact hstep

/-- Each poll of a framed stream is a step of its outcome. -/
theorem foretells : Source.Foretells (fun s : FramedStream δ ε => Inv s.parts.decoder) outlook := by
  have hpoll (s : FramedStream δ ε) (h : Inv s.parts.decoder) :
      Inv s.poll.2.parts.decoder ∧ s.outlook.Step s.poll.1 s.poll.2.outlook := by
    -- a poll may pull many chunks: by induction on its calls of itself
    fun_induction poll (ε := ε) s with
    | case1 s answer parts hd =>
      have hdrain := Reassembly.drain_outlook (ε := ε) h (Script.carried s.source.answers)
      rw [hd] at hdrain
      exact hdrain
    | case2 s parts hd polled source hp answer parts' ha =>
      have hpull := pull_outlook h hd hp
      rw [ha] at hpull
      exact hpull
    | case3 s parts hd polled source hp parts' ha ih =>
      have hpull := pull_outlook h hd hp
      rw [ha] at hpull
      obtain ⟨hinv, hsame⟩ := hpull
      rw [show s.outlook = (FramedStream.mk source parts').outlook from hsame]
      exact ih hinv
  exact ⟨fun s h => (hpoll s h).1, fun s h => (hpoll s h).2⟩

/-- A new stream answers what its decoder makes of what its source carries. -/
theorem answers_new {d : δ} (h : Inv d) (source : Script Bytes ε) :
    Source.Answers (FramedStream.new source d)
      (Decoder.outcome d (Script.carried source.answers)) :=
  Source.answers_of_foretells foretells (s := FramedStream.new source d) h

end FramedStream

/-- Through this decoder, two scripts give the same answers: the messages in the octets of the
    first, in order, then the one failure or end that they lead to, and after that the end. -/
def AnswersAlike (d : δ) (s t : Script Bytes ε) : Prop :=
  let o : Outcome ι ε := Decoder.outcome d (Script.carried s.answers)
  o.final.isFinal = true ∧
  Source.Answers (FramedStream.new s d) o ∧ Source.Answers (FramedStream.new t d) o

theorem answersAlike_of_inv [LawfulDecoder δ] {d : δ} (h : Inv d) {s t : Script Bytes ε}
    (hcarried : Script.carried s.answers = Script.carried t.answers) : AnswersAlike d s t :=
  ⟨Decoder.isFinal_outcome d _, FramedStream.answers_new h s,
    hcarried ▸ FramedStream.answers_new h t⟩

/-- **How a stream is cut does not matter.** Two scripts that carry the same octets before the
    same failure or end, however these are cut into chunks and wherever `pending` is answered
    in between, give the same answers through each of the three decoders, as any calls left
    it. The octets are any octets. -/
theorem answersAlike_of_carried_eq (limit : Option Nat) (before calls : List Decoder.Call)
    (s t : Script Bytes ε) (h : Script.carried s.answers = Script.carried t.answers) :
    AnswersAlike (afterCalls ({} : NulString) calls) s t ∧
    AnswersAlike (afterCalls (LengthPrefixed.withLimit limit) calls) s t ∧
    AnswersAlike (afterCalls (StringArray.Streaming.mk
      (afterCalls (LengthPrefixed.withLimit limit) before)) calls) s t := by
  obtain ⟨htexts, hframes, harrays⟩ := inv_afterCalls_new limit before calls
  exact ⟨answersAlike_of_inv htexts h, answersAlike_of_inv hframes h,
    answersAlike_of_inv harrays h⟩

/-- A cut inside a length prefix, a pause, an empty chunk and a cut after the payload: the same
    answers as from one chunk, also where a failure follows. -/
theorem answersAlike_of_cut_length :
    let whole : Script Bytes (StreamError String) :=
      ⟨[.next [0, 0, 0, 1, 65, 0, 9], .failed (.source "reset")], 0⟩
    let pieces : Script Bytes (StreamError String) :=
      ⟨[.next [0, 0], .pending, .next [], .next [0, 1, 65], .next [0, 9],
        .failed (.source "reset"), .next [0]], 0⟩
    Script.carried whole.answers = Script.carried pieces.answers ∧
    AnswersAlike (afterCalls ({} : NulString) []) whole pieces ∧
    AnswersAlike (afterCalls (LengthPrefixed.withLimit (some 3)) []) whole pieces ∧
    AnswersAlike (afterCalls (StringArray.Streaming.mk
      (afterCalls (LengthPrefixed.withLimit (some 3)) [])) []) whole pieces :=
  ⟨rfl, answersAlike_of_carried_eq (some 3) [] [] _ _ rfl⟩

end Duplex
