import Duplex.Proofs.Looping

/-! # Progress

  No octets from the peer keep a loop turning. Whatever calls a decoder got before, a call takes at
  least one octet of a slice that has one, no more than there are, and all of them where no message
  is complete. For frames that rests on the invariant of the decoder, which never holds all the
  octets that were declared. So each loop over a decoder is left after a number of passes that the
  lengths of its inputs tell, no pass faults, and the result is that of `decodeOnto`, of
  `FramedObserver.onNext`, of `LengthPrefixed.feedSlice` or of `FramedStream.poll`.
-/

namespace Duplex

open LawfulDecoder (Inv)
open Decoder (feedAll feedSlice afterCalls)

variable {δ ι : Type} [Decoder δ ι]

/-- How a call goes on in a slice: with at least one of its octets, and with all of them where it
    completes no message. -/
def Fed.Progresses (fed : Fed ι) (bytes : Bytes) : Prop :=
  1 ≤ fed.consumed ∧ fed.consumed ≤ bytes.length ∧
    (fed.item = none → fed.consumed = bytes.length)

/-- What a framed observer is after a loop that was left with a decoding error or without one. -/
def Feeding.settled {ο ε : Type} [Observer ο ι ε] [FromFrame ε] (s : Feeding δ ο) :
    Option FrameError → FramedObserver δ ο
  | some e => ⟨s.decoder, Observer.onError s.kept (FromFrame.ofFrame e), true⟩
  | none => ⟨s.decoder, s.kept, false⟩

/-- Every loop over a decoder ends: over a slice that is decoded at once, over a chunk that an
    observer is told of, and over what a source has to answer to one poll. -/
structure LoopsEnd (d : δ) : Prop where
  progresses : ∀ bytes, bytes ≠ [] → ∀ fed d', feedSlice d bytes = (.ok fed, d') →
    fed.Progresses bytes
  decodeOnto : ∀ items bytes, ∃ error s,
    Pass.within (Feeding.pass Array.push) (bytes.length + 1) ⟨d, items, bytes, 0⟩ =
      .leave (error, s) ∧
    Decoder.decodeOnto items d bytes = ⟨s.kept, error, s.decoder⟩ ∧ s.calls ≤ bytes.length
  onNext : ∀ {ο ε : Type} [Observer ο ι ε] [FromFrame ε] (o : ο) chunk, ∃ error s,
    Pass.within (Feeding.pass Observer.onNext) (chunk.length + 1) ⟨d, o, chunk, 0⟩ =
      .leave (error, s) ∧
    FramedObserver.onNext ⟨d, o, false⟩ chunk = s.settled error ∧ s.calls ≤ chunk.length
  poll : ∀ {ε : Type} [FromFrame ε] (source : Script Bytes ε) chunk done,
    Pass.within FramedStream.pass (2 * source.answers.length + 2) ⟨source, ⟨d, chunk, done⟩⟩ =
      .leave (FramedStream.poll ⟨source, ⟨d, chunk, done⟩⟩)

variable [LawfulDecoder δ] {d : δ}

theorem progresses_of_inv (h : Inv d) {bytes : Bytes} (hne : bytes ≠ []) {fed : Fed ι} {d' : δ}
    (hfeed : feedSlice d bytes = (.ok fed, d')) : fed.Progresses bytes := by
  have hpos : 0 < bytes.length := List.length_pos_iff.2 hne
  have htaken := Decoder.taken_feedSlice h bytes
  rw [hfeed] at htaken
  cases htaken with
  | message hone hle hinv hrun =>
    refine ⟨hone, hle, ?_⟩
    intro hnone
    cases hnone
  | all hinv hrun => exact ⟨hpos, Nat.le_refl _, fun _ => rfl⟩

theorem onNext_eq_settled {ο ε : Type} [Observer ο ι ε] [FromFrame ε] (h : Inv d) {o : ο}
    {chunk : Bytes} {result : Option FrameError × Feeding δ ο}
    (hresult : Feeding.ComesTo Observer.onNext ⟨d, o, chunk, 0⟩ result) :
    FramedObserver.onNext ⟨d, o, false⟩ chunk = result.2.settled result.1 := by
  have honNext : FramedObserver.onNext ⟨d, o, false⟩ chunk =
      FramedObserver.decodeChunk d o chunk := rfl
  obtain ⟨error, s⟩ := result
  obtain ⟨herror, hdecoder, hkept, -⟩ := hresult
  dsimp only at herror hdecoder hkept ⊢
  rw [honNext, FramedObserver.decodeChunk_eq h, herror]
  dsimp only
  rw [← hdecoder, ← hkept]
  cases (feedAll d chunk).error <;> rfl

theorem loopsEnd_of_inv (h : Inv d) : LoopsEnd d where
  progresses _ hne _ _ hfeed := progresses_of_inv h hne hfeed
  decodeOnto items bytes := by
    obtain ⟨⟨error, s⟩, hwithin, hresult⟩ := Feeding.exists_within_pass h Array.push items bytes
    obtain ⟨herror, hdecoder, hkept, hcalls⟩ := hresult
    refine ⟨error, s, hwithin, ?_, by simpa using hcalls⟩
    dsimp only at herror hdecoder hkept
    rw [Decoder.decodeOnto_eq h, Decoder.Run.prepend, hkept, herror, hdecoder,
      List.foldl_push_eq_append', Array.toArray_toList]
  onNext o chunk := by
    obtain ⟨⟨error, s⟩, hwithin, hresult⟩ :=
      Feeding.exists_within_pass h Observer.onNext o chunk
    exact ⟨error, s, hwithin, onNext_eq_settled h hresult, by simpa using hresult.calls⟩
  poll source chunk done := FramedStream.within_pass h

/-- **Every loop over a decoder ends.** After any calls to any of the three decoders, a call goes on
    in its slice, and the loops over it are left within as many passes as are said, at an index
    that is there and with the results of the library. -/
theorem loops_end_afterCalls (limit : Option Nat) (before calls : List Decoder.Call) :
    let texts := afterCalls ({} : NulString) calls
    let frames := afterCalls (LengthPrefixed.withLimit limit) calls
    let arrays := afterCalls
      (StringArray.Streaming.mk (afterCalls (LengthPrefixed.withLimit limit) before)) calls
    LoopsEnd texts ∧ LoopsEnd frames ∧ LoopsEnd arrays ∧
    (∀ bytes, Pass.within (LengthPrefixed.pass bytes) (bytes.length + 1) (frames, 0) =
      .leave (frames.feedSlice bytes)) ∧
    (∀ bytes, Pass.within (LengthPrefixed.pass bytes) (bytes.length + 1) (arrays.frames, 0) =
      .leave (arrays.frames.feedSlice bytes)) := by
  intro texts frames arrays
  obtain ⟨htexts, hframes, harrays⟩ := inv_afterCalls_new limit before calls
  refine ⟨loopsEnd_of_inv htexts, loopsEnd_of_inv hframes, loopsEnd_of_inv harrays, ?_, ?_⟩
  · exact LengthPrefixed.within_pass hframes
  · exact LengthPrefixed.within_pass harrays

end Duplex
