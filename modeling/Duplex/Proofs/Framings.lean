import Duplex.Codec.Framing
import Duplex.Proofs.BulkPath

/-! # The framings as one decoder

  What holds of each of the three decoders holds of the decoder that is any one of them: its
  invariant is that of the decoder it is, its path for slices is exact, and a run of it is the
  run of that decoder with the messages put into their sum.
-/

namespace Duplex.Framing

open Decoder (feedAll)
open LawfulDecoder (Inv inv_feed feedSlice_eq)

/-! ### One of the three -/

section wrap

variable {δ α : Type} {onItem : α → Message} {onDecoder : δ → Framing}
  {feedInner : δ → UInt8 → Decoded δ (Option α)}

/-- Octet by octet, a framing does to a slice what its decoder does. -/
theorem feedEach_wrap
    (hfeed : ∀ d b, feed (onDecoder d) b = wrap (Option.map onItem) onDecoder (feedInner d b))
    (d : δ) (c : Nat) (bytes : Bytes) :
    feedEach feed (onDecoder d) c bytes =
      wrap (wrapFed onItem) onDecoder (feedEach feedInner d c bytes) := by
  induction bytes generalizing d c with
  | nil => rfl
  | cons b rest ih =>
    simp only [feedEach, hfeed]
    rcases feedInner d b with ⟨e | _ | item, d₁⟩
    · rfl
    · exact ih d₁ (c + 1)
    · rfl

end wrap

/-- A run of a framing is the run of its decoder, with the messages put into their sum. -/
theorem feedAll_wrap {δ α : Type} [Decoder δ α] {onItem : α → Message} {onDecoder : δ → Framing}
    (hfeed : ∀ d b, feed (onDecoder d) b =
      wrap (Option.map onItem) onDecoder (Decoder.feed d b)) (d : δ) (bytes : Bytes) :
    feedAll (onDecoder d) bytes =
      ⟨(feedAll d bytes).items.map onItem, (feedAll d bytes).error,
        onDecoder (feedAll d bytes).decoder⟩ := by
  induction bytes generalizing d with
  | nil => simp [feedAll]
  | cons b rest ih =>
    have hstep : Decoder.feed (onDecoder d) b = _ := hfeed d b
    simp only [feedAll, hstep]
    rcases Decoder.feed d b with ⟨e | item, d₁⟩
    · simp [wrap, Except.map]
    · simp only [wrap, Except.map, ih]
      cases item <;> simp [Decoder.Run.prepend]

instance : LawfulDecoder Framing where
  Inv
    | texts d => Inv d
    | frames d => Inv d
    | arrays d => Inv d
  inv_feed
    | texts d, b, h => inv_feed d b h
    | frames d, b, h => inv_feed d b h
    | arrays d, b, h => inv_feed d b h
  feedSlice_eq
    | texts d, bytes, h => by
      show wrap _ _ (Decoder.feedSlice d bytes) = feedEach feed (texts d) 0 bytes
      rw [feedSlice_eq d bytes h, feedEach_wrap fun _ _ => rfl]
    | frames d, bytes, h => by
      show wrap _ _ (Decoder.feedSlice d bytes) = feedEach feed (frames d) 0 bytes
      rw [feedSlice_eq d bytes h, feedEach_wrap fun _ _ => rfl]
    | arrays d, bytes, h => by
      show wrap _ _ (Decoder.feedSlice d bytes) = feedEach feed (arrays d) 0 bytes
      rw [feedSlice_eq d bytes h, feedEach_wrap fun _ _ => rfl]

/-! ### New decoders -/

/-- A new decoder of texts. -/
def newTexts : SoundDecoder Framing := ⟨texts {}, trivial⟩

/-- A new decoder of frames. -/
def newFrames (limit : Option Nat) : SoundDecoder Framing :=
  ⟨frames (.withLimit limit), LengthPrefixed.wellFormed_withLimit limit⟩

/-- A new decoder of arrays of texts. -/
def newArrays (limit : Option Nat) : SoundDecoder Framing :=
  ⟨arrays ⟨.withLimit limit⟩, LengthPrefixed.wellFormed_withLimit limit⟩

end Duplex.Framing
