import Duplex.Proofs.Grammar

/-! # What a decoder of frames holds back

  The peer declares how long a frame is, so what is held back of a frame has to be bounded by the
  decoder. Between two calls a decoder awaits a prefix, of which fewer than four octets are there,
  or a payload, whose length it has accepted and which is not complete (`Awaits`). An octet is held
  back, or the decoder is as new after it, whether a message was complete or an error was found
  (`Awaits.feed_cases`). What each octet keeps is kept by all calls (`Decoder.kept_afterCalls`), and
  what an error of an octet leaves behind is left behind by an error of any call
  (`Decoder.Renews.renewed`).
-/

namespace Duplex

open LawfulDecoder (Inv inv_feed feedSlice_eq)

/-! ### Octets and calls -/

/-- The same decoder with a stronger invariant. -/
@[reducible] def LawfulDecoder.strengthen {δ ι : Type} [Decoder δ ι] [LawfulDecoder δ]
    (P : δ → Prop) (hkept : ∀ d b, P d → P (Decoder.feed d b).2) : LawfulDecoder δ where
  Inv d := Inv d ∧ P d
  inv_feed d b h := ⟨inv_feed d b h.1, hkept d b h.2⟩
  feedSlice_eq d bytes h := feedSlice_eq d bytes h.1

namespace Decoder

variable {δ ι : Type} [Decoder δ ι] {P : δ → Prop} {d new : δ}

/-- What each octet keeps, all calls keep. -/
theorem kept_afterCalls [LawfulDecoder δ] (hkept : ∀ d b, P d → P (feed d b).2) (hinv : Inv d)
    (hd : P d) (calls : List Call) : P (afterCalls d calls) :=
  (@inv_afterCalls δ ι _ (LawfulDecoder.strengthen P hkept) d ⟨hinv, hd⟩ calls).2

/-- Where `P` holds, each octet keeps it, and an octet that is refused leaves the decoder `new`. -/
structure Renews (P : δ → Prop) (new : δ) : Prop where
  kept : ∀ d b, P d → P (feed d b).2
  refused : ∀ d b e, P d → (feed d b).1 = .error e → (feed d b).2 = new

/-- After an error the decoder is `new`, whichever call it came from. Asking whether the stream may
    end changes nothing. -/
structure Renewed (d new : δ) : Prop where
  feed : ∀ b e d', Decoder.feed d b = (.error e, d') → d' = new
  feedSlice : ∀ bytes e d', Decoder.feedSlice d bytes = (.error e, d') → d' = new
  decodeAll : ∀ bytes e, (Decoder.decodeAll d bytes).error = some e →
    (Decoder.decodeAll d bytes).decoder = new
  finish : after d .finish = d

theorem Renews.feedAll (h : Renews P new) (hd : P d) {bytes : Bytes} {e : FrameError}
    (herror : (feedAll d bytes).error = some e) : (feedAll d bytes).decoder = new := by
  induction bytes generalizing d with
  | nil => cases herror
  | cons b rest ih =>
    have hkept := h.kept d b hd
    have hrefused := h.refused d b
    rcases hfeed : Decoder.feed d b with ⟨e' | item, d'⟩
    · rw [hfeed] at hrefused
      simp only [Decoder.feedAll, hfeed]
      exact hrefused e' hd rfl
    · -- the octet is taken, so the error is in the rest
      rw [hfeed] at hkept
      rw [feedAll_cons_of_ok hfeed] at herror ⊢
      exact ih hkept herror

theorem Renews.renewed [LawfulDecoder δ] (h : Renews P new) (hinv : Inv d) (hd : P d) :
    Renewed d new := by
  refine ⟨?_, ?_, ?_, rfl⟩
  · intro b e d' hfeed
    have hrefused := h.refused d b e hd
    rw [hfeed] at hrefused
    exact hrefused rfl
  · intro bytes e d' hslice
    rw [feedSlice_eq d bytes hinv] at hslice
    rcases feedEach_cases d 0 bytes with
      ⟨e', d₁, heach, hall⟩ | ⟨item, n, d₁, heach, -⟩ | ⟨d₁, heach, -⟩
    all_goals
      rw [heach] at hslice
      cases hslice
    have hrun : (Decoder.feedAll d bytes).error = some e →
        (Decoder.feedAll d bytes).decoder = new := h.feedAll hd
    rw [hall] at hrun
    exact hrun rfl
  · intro bytes e herror
    rw [decodeAll_eq hinv] at herror ⊢
    exact h.feedAll hd herror

end Decoder

/-! ### Frames -/

namespace LengthPrefixed

variable {limit : Option Nat} {d : LengthPrefixed}

/-- The longest payload that a decoder with this limit accepts. -/
def longest (limit : Option Nat) : Nat := min (limit.getD Length.greatest) Length.greatest

theorem le_longest_iff {n : Nat} : n ≤ longest limit ↔ Within limit n ∧ n ≤ Length.greatest := by
  cases limit with
  | none => simp [longest, Within]
  | some greatest => rw [longest, Option.getD_some, Nat.le_min, within_some]

/-- `Awaits limit d`: the decoder, which has this limit, awaits a prefix or a payload. -/
inductive Awaits (limit : Option Nat) : LengthPrefixed → Prop where
  /-- A prefix that is complete is read at once. -/
  | header {pending : Array UInt8} (hlt : pending.size < Length.octets) :
      Awaits limit ⟨none, pending, limit⟩
  /-- A payload that is complete is delivered at once. -/
  | payload {n : Nat} {pending : Array UInt8} (hpos : 1 ≤ n) (hle : n ≤ longest limit)
      (hlt : pending.size < n) : Awaits limit ⟨some n, pending, limit⟩

theorem awaits_withLimit (limit : Option Nat) : Awaits limit (withLimit limit) :=
  .header (Nat.zero_lt_succ 3)

/-- A prefix that is accepted declares no more than the longest payload. -/
theorem le_longest_of_payloadLength {header : Bytes} {n : Nat}
    (hheader : header.length = Length.octets)
    (h : payloadLength limit (Length.decode header) = .ok n) : 1 ≤ n ∧ n ≤ longest limit := by
  obtain ⟨hdeclared, hpos, hwithin⟩ := payloadLength_eq_ok h
  exact ⟨hpos, le_longest_iff.2 ⟨hwithin, (Length.encode_of_decode hheader hdeclared).2⟩⟩

/-- An octet is held back, or the decoder is as new after it. -/
theorem Awaits.feed_cases (h : Awaits limit d) (b : UInt8) :
    (∃ d', d.feed b = (.ok none, d') ∧ Awaits limit d') ∨ (d.feed b).2 = withLimit limit := by
  cases h with
  | @header pending hlt =>
    by_cases hfull : (pending.push b).size = Length.octets
    · simp only [feed, if_pos hfull]
      cases hlen : payloadLength limit (Length.decode (pending.push b).toList) with
      | error e => exact .inr rfl
      | ok n =>
        obtain ⟨hpos, hle⟩ := le_longest_of_payloadLength hfull hlen
        exact .inl ⟨_, rfl, .payload hpos hle hpos⟩
    · refine .inl ⟨_, if_neg hfull, .header ?_⟩
      simp only [Array.size_push] at hfull ⊢
      omega
  | @payload n pending hpos hle hlt =>
    by_cases hfull : (pending.push b).size = n
    · simp only [feed, if_pos hfull]
      exact .inr rfl
    · refine .inl ⟨_, if_neg hfull, .payload hpos hle ?_⟩
      simp only [Array.size_push] at hfull ⊢
      omega

theorem renews (limit : Option Nat) : Decoder.Renews (Awaits limit) (withLimit limit) where
  kept d b h := by
    show Awaits limit (d.feed b).2
    rcases h.feed_cases b with ⟨d', hfeed, hd'⟩ | hnew
    · rw [hfeed]
      exact hd'
    · rw [hnew]
      exact awaits_withLimit limit
  refused d b e h herror := by
    rcases h.feed_cases b with ⟨d', hfeed, -⟩ | hnew
    · -- an octet that is held back is not refused
      rw [show Decoder.feed d b = (.ok none, d') from hfeed] at herror
      cases herror
    · exact hnew

/-- What a decoder of frames with this limit holds back. -/
structure Holds (limit : Option Nat) (d : LengthPrefixed) : Prop where
  awaits : Awaits limit d
  /-- No peer makes it hold back more than this. -/
  bounded : d.pending.size ≤ max 3 (longest limit - 1)
  /-- An awaited payload needs at least one more octet, and that many complete it. -/
  needed : ∀ n, d.declared = some n →
    0 < n - d.pending.size ∧ d.pending.size + (n - d.pending.size) = n
  /-- A prefix that declares more than the limit is refused with its last octet, so no octet of the
      payload behind it is held back. -/
  oversized : ∀ b (n greatest : Nat), d.declared = none →
    (d.pending.push b).size = Length.octets → Length.decode (d.pending.push b).toList = n →
    limit = some greatest → greatest < n →
    d.feed b = (.error (.frameTooLarge n greatest), withLimit limit)

theorem Awaits.holds (h : Awaits limit d) : Holds limit d where
  awaits := h
  bounded := by
    cases h with
    | header hlt => exact Nat.le_trans (Nat.le_of_lt_succ hlt) (Nat.le_max_left _ _)
    | payload _ hle hlt =>
      have hless := Nat.le_sub_one_of_lt (Nat.lt_of_lt_of_le hlt hle)
      exact Nat.le_trans hless (Nat.le_max_right _ _)
  needed n hdeclared := by
    cases h with
    | header _ => cases hdeclared
    | payload _ _ hlt =>
      cases hdeclared
      exact ⟨Nat.sub_pos_of_lt hlt, Nat.add_sub_of_le (Nat.le_of_lt hlt)⟩
  oversized b n greatest hdeclared hfull hn hlimit hlt := by
    cases h with
    | header _ =>
      subst hlimit
      simp only [feed, if_pos hfull, hn, payloadLength_of_lt hlt]
      rfl
    | payload _ _ _ => cases hdeclared

end LengthPrefixed

/-! ### Arrays -/

namespace StringArray.Streaming

open LengthPrefixed (Awaits withLimit)

/-- A payload that is no array is refused after it was delivered, when the decoder is as new. -/
theorem renews (limit : Option Nat) :
    Decoder.Renews (fun d : Streaming => Awaits limit d.frames) ⟨withLimit limit⟩ where
  kept d b h := (LengthPrefixed.renews limit).kept d.frames b h
  refused d b e h herror := by
    show Streaming.mk (d.frames.feed b).2 = _
    rcases h.feed_cases b with ⟨frames, hfeed, -⟩ | hnew
    · have hnone : (Decoder.feed d b).1 = .ok none := by
        show (d.frames.feed b).1.bind parseItem = _
        rw [hfeed]
        rfl
      rw [hnone] at herror
      cases herror
    · rw [hnew]

end StringArray.Streaming

/-! ### All calls -/

open Decoder (afterCalls)
open LengthPrefixed (withLimit)

/-- **What the peer declares does not fill the memory.** After any calls to a decoder of frames, or
    to a decoder of arrays over one that may have been in use before, calls that failed included:
    what is held back is a part of a prefix, or a part of a payload that the limit allows, and after
    an error the decoder is a new one with the same limit. A slice is taken octet by octet as far as
    a prefix goes, so this is also so wherever a call on a slice begins to take a payload. -/
theorem holds_afterCalls (limit : Option Nat) (before calls : List Decoder.Call) :
    let new := withLimit limit
    let frames := afterCalls new calls
    let arrays := afterCalls (StringArray.Streaming.mk (afterCalls new before)) calls
    frames.Holds limit ∧ Decoder.Renewed frames new ∧
    arrays.frames.Holds limit ∧ Decoder.Renewed arrays ⟨new⟩ := by
  intro new frames arrays
  obtain ⟨-, hframes, harrays⟩ := inv_afterCalls_new limit before calls
  have hrenews := LengthPrefixed.renews limit
  have hall (calls : List Decoder.Call) : (afterCalls new calls).Awaits limit :=
    Decoder.kept_afterCalls hrenews.kept (LengthPrefixed.wellFormed_withLimit limit)
      (LengthPrefixed.awaits_withLimit limit) calls
  have hold : LawfulDecoder.Inv (StringArray.Streaming.mk (afterCalls new before)) :=
    (inv_afterCalls_new limit before []).2.2
  have harray : arrays.frames.Awaits limit :=
    Decoder.kept_afterCalls (StringArray.Streaming.renews limit).kept hold (hall before) calls
  exact ⟨(hall calls).holds, hrenews.renewed hframes (hall calls), harray.holds,
    (StringArray.Streaming.renews limit).renewed harrays harray⟩

/-- The bound is reached, and a prefix above the limit leaves nothing behind. -/
example :
    let d := afterCalls (withLimit (some 5)) [.feedSlice [0, 0, 0, 5, 1, 2, 3, 4]]
    d.pending.size = max 3 (LengthPrefixed.longest (some 5) - 1) ∧
    afterCalls (withLimit (some 5)) [.feedSlice [0, 0, 0, 6, 1, 2, 3, 4]] = withLimit (some 5) := by
  decide +kernel

end Duplex
