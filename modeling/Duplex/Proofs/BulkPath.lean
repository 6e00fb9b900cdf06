import Duplex.Codec.StringArray
import Duplex.Proofs.Octetwise

/-! # The paths for slices

  Each of the three decoders has a path of its own for slices: up to the first NUL in one
  piece, a payload in one piece, and the frame decoder's path under the array decoder. Each
  is shown to be the octet-by-octet path, so the three decoders are lawful.

  For frames this needs an invariant: an unfinished prefix is shorter than a prefix, and an
  unfinished payload is shorter than it was declared. The second half is what keeps the
  number of octets still needed from going below one.
-/

namespace Duplex

open Decoder (feedAll decodeAll afterCalls)

/-! ### Texts -/

namespace NulString

/-- Octet by octet, a decoder of texts gets to the first NUL as well. -/
theorem feedEach_eq (pending : Array UInt8) (c : Nat) (bytes : Bytes) :
    feedEach feed ⟨pending⟩ c bytes =
      let text := bytes.takeWhile (· ≠ nul)
      match bytes.dropWhile (· ≠ nul) with
      | [] => (.ok ⟨c + text.length, none⟩, ⟨pending ++ text⟩)
      | _ :: _ => (.ok ⟨c + text.length + 1, some (Utf8.decode (pending ++ text).toList)⟩, {}) := by
  induction bytes generalizing pending c with
  | nil => simp [feedEach]
  | cons b rest ih =>
    by_cases hb : b = nul
    · simp [feedEach, feed, hb]
    · have htext : (b :: rest).takeWhile (· ≠ nul) = b :: rest.takeWhile (· ≠ nul) := by simp [hb]
      have hrest : (b :: rest).dropWhile (· ≠ nul) = rest.dropWhile (· ≠ nul) := by simp [hb]
      have hpush (text : Bytes) : pending.push b ++ text = pending ++ (b :: text) := by simp
      simp only [feedEach, feed, hb, if_false, ih, htext, hrest, hpush, List.length_cons]
      split <;> simp [Nat.add_assoc, Nat.add_comm 1]

instance : LawfulDecoder NulString where
  Inv _ := True
  inv_feed _ _ _ := trivial
  feedSlice_eq := by
    rintro ⟨pending⟩ bytes -
    show feedSlice ⟨pending⟩ bytes = feedEach feed ⟨pending⟩ 0 bytes
    rw [feedEach_eq]
    cases h : bytes.dropWhile (· ≠ nul) with
    | nil => simp only [feedSlice, h, Nat.zero_add]
    | cons _ _ => simp only [feedSlice, h, Nat.zero_add]

end NulString

/-! ### Frames -/

namespace LengthPrefixed

/-- What holds of a frame decoder between two calls. -/
structure WellFormed (d : LengthPrefixed) : Prop where
  /-- A prefix that is complete is read at once. -/
  awaiting_header : d.declared = none → d.pending.size < Length.octets
  /-- A payload that is complete is delivered at once. -/
  awaiting_payload : ∀ n, d.declared = some n → d.pending.size < n

theorem wellFormed_withLimit (limit : Option Nat) : (withLimit limit).WellFormed :=
  ⟨fun _ => Nat.zero_lt_succ 3, by simp [withLimit]⟩

/-- A prefix never asks for an empty payload. -/
theorem payloadLength_pos {limit : Option Nat} {declared : Int} {n : Nat}
    (h : payloadLength limit declared = .ok n) : 0 < n := by
  simp only [payloadLength] at h
  split at h
  · cases h
  · next hpos =>
    split at h
    · cases h; omega
    · split at h
      · cases h
      · cases h; omega

theorem WellFormed.feed {d : LengthPrefixed} (h : d.WellFormed) (b : UInt8) :
    (d.feed b).2.WellFormed := by
  obtain ⟨declared, pending, limit⟩ := d
  cases declared with
  | none =>
    have hlt := h.awaiting_header rfl
    simp only [LengthPrefixed.feed]
    split
    · split
      · exact wellFormed_withLimit limit
      · next n hn => exact ⟨by simp, by simp [payloadLength_pos hn]⟩
    · refine ⟨fun _ => ?_, by simp⟩
      simp only [Array.size_push] at *
      omega
  | some n =>
    have hlt := h.awaiting_payload n rfl
    simp only [LengthPrefixed.feed]
    split
    · exact wellFormed_withLimit limit
    · refine ⟨by simp, ?_⟩
      simp only [Array.size_push, Option.some.injEq, forall_eq'] at *
      omega

/-- Octet by octet, a payload takes as much as it still needs. -/
theorem feedEach_payload (limit : Option Nat) {n : Nat} {pending : Array UInt8} (c : Nat)
    (bytes : Bytes) (h : pending.size < n) :
    feedEach feed ⟨some n, pending, limit⟩ c bytes = takePayload limit n pending c bytes := by
  induction bytes generalizing pending c with
  | nil =>
    have hne : pending.size ≠ n := by omega
    simp [feedEach, takePayload, hne]
  | cons b rest ih =>
    have htake : (b :: rest).take (n - pending.size) = b :: rest.take (n - pending.size - 1) :=
      List.take_cons (by omega)
    -- the first octet completes the payload, or one less is needed from the rest
    by_cases hfull : pending.size + 1 = n
    · have hone : n - pending.size = 1 := by omega
      simp [feedEach, feed, takePayload, hfull, hone]
    · have hneeded : n - (pending.push b).size = n - pending.size - 1 := by
        simp only [Array.size_push]
        omega
      have hpush (text : Bytes) : pending.push b ++ text = pending ++ (b :: text) := by simp
      have htaken : c + 1 + (n - pending.size - 1) = c + (n - pending.size) := by omega
      have hall : c + 1 + rest.length = c + (rest.length + 1) := by omega
      simp only [feedEach, feed, Array.size_push, hfull, if_false]
      rw [ih (c + 1) (by simp only [Array.size_push]; omega)]
      simp only [takePayload, hneeded, htake, hpush, List.length_cons, htaken, hall]

/-- The path for slices takes a prefix octet by octet, and a payload in one piece. -/
theorem feedFrom_eq {d : LengthPrefixed} (h : d.WellFormed) (c : Nat) (bytes : Bytes) :
    feedFrom d c bytes = feedEach LengthPrefixed.feed d c bytes := by
  induction bytes generalizing d c with
  | nil => rfl
  | cons b rest ih =>
    -- awaiting a payload the call ends here, awaiting a prefix it goes on octet by octet
    cases hd : d.declared with
    | some n =>
      obtain ⟨declared, pending, limit⟩ := d
      cases hd
      rw [feedEach_payload limit c (b :: rest) (h.awaiting_payload n rfl)]
      rfl
    | none =>
      have hfed := h.feed b
      simp only [feedFrom, hd, feedEach]
      rcases hfeed : LengthPrefixed.feed d b with ⟨e | item, d₁⟩
      · rfl
      · rw [hfeed] at hfed
        cases item with
        | some frame => rfl
        | none => exact ih hfed (c + 1)

instance : LawfulDecoder LengthPrefixed where
  Inv := WellFormed
  inv_feed _ b h := h.feed b
  feedSlice_eq _ bytes h := feedFrom_eq h 0 bytes

end LengthPrefixed

/-! ### Arrays -/

namespace StringArray.Streaming

/-- Octet by octet, an array decoder does what its frame decoder does, and parses the frame. -/
theorem feedEach_eq (d : Streaming) (c : Nat) (bytes : Bytes) :
    feedEach feed d c bytes =
      let (r, frames) := feedEach LengthPrefixed.feed d.frames c bytes
      (r.bind fun fed => (parseItem fed.item).map (⟨fed.consumed, ·⟩), ⟨frames⟩) := by
  induction bytes generalizing d c with
  | nil => rfl
  | cons b rest ih =>
    simp only [feedEach, feed]
    rcases LengthPrefixed.feed d.frames b with ⟨e | item, frames⟩
    · rfl
    · cases item with
      | some payload =>
        -- a payload that is no array fails the call after its last octet was taken
        simp only [Except.bind, parseItem]
        cases parse payload <;> rfl
      | none => exact ih ⟨frames⟩ (c + 1)

instance : LawfulDecoder Streaming where
  Inv d := d.frames.WellFormed
  inv_feed _ b h := h.feed b
  feedSlice_eq d bytes h := by
    show feedSlice d bytes = feedEach feed d 0 bytes
    rw [feedEach_eq, ← LengthPrefixed.feedFrom_eq h]
    rfl

end StringArray.Streaming

/-! ### The two paths -/

section paths

variable {δ ι : Type} [Decoder δ ι]

/-- A decoder that is fed octet by octet takes a slice as its octets by definition. -/
instance : LawfulDecoder (Bytewise δ) where
  Inv _ := True
  inv_feed _ _ _ := trivial
  feedSlice_eq _ _ _ := rfl

theorem feedAll_bytewise (d : δ) (bytes : Bytes) :
    feedAll (Bytewise.mk d) bytes =
      ⟨(feedAll d bytes).items, (feedAll d bytes).error, ⟨(feedAll d bytes).decoder⟩⟩ := by
  induction bytes generalizing d with
  | nil => rfl
  | cons b rest ih =>
    have hfeed : Decoder.feed (Bytewise.mk d) b =
        ((Decoder.feed d b).1, ⟨(Decoder.feed d b).2⟩) := rfl
    simp only [feedAll, hfeed]
    rcases Decoder.feed d b with ⟨e | item, d₁⟩
    · rfl
    · simp only [ih, Decoder.Run.prepend]

/-- On a slice, the decoder's own path does what feeding it octet by octet does: one call
    takes as many octets, gives the same message or error and leaves the same decoder, and so
    does a run over all of the slice. -/
def PathsAgree (d : δ) (bytes : Bytes) : Prop :=
  Decoder.feedSlice d bytes = feedEach Decoder.feed d 0 bytes ∧
  let each := decodeAll (Bytewise.mk d) bytes
  let own := decodeAll d bytes
  own.items = each.items ∧ own.error = each.error ∧ own.decoder = each.decoder.inner

theorem pathsAgree_of_inv [LawfulDecoder δ] {d : δ} (h : LawfulDecoder.Inv d) (bytes : Bytes) :
    PathsAgree d bytes := by
  refine ⟨LawfulDecoder.feedSlice_eq d bytes h, ?_⟩
  simp only [Decoder.decodeAll_eq h, Decoder.decodeAll_eq (d := Bytewise.mk d) trivial,
    feedAll_bytewise, and_self]

/-- The three decoders keep their invariants from new on, whatever calls they get. -/
theorem inv_afterCalls_new (limit : Option Nat) (before calls : List Decoder.Call) :
    LawfulDecoder.Inv (afterCalls ({} : NulString) calls) ∧
    LawfulDecoder.Inv (afterCalls (LengthPrefixed.withLimit limit) calls) ∧
    LawfulDecoder.Inv (afterCalls (StringArray.Streaming.mk
      (afterCalls (LengthPrefixed.withLimit limit) before)) calls) := by
  have hnew : (LengthPrefixed.withLimit limit).WellFormed :=
    LengthPrefixed.wellFormed_withLimit limit
  have hbefore : (afterCalls (LengthPrefixed.withLimit limit) before).WellFormed :=
    Decoder.inv_afterCalls (d := LengthPrefixed.withLimit limit) hnew before
  exact ⟨Decoder.inv_afterCalls trivial calls, Decoder.inv_afterCalls hnew calls,
    Decoder.inv_afterCalls hbefore calls⟩

/-- **The paths for slices are exact.** After any calls to any of the three decoders, calls
    that failed included, the decoder's own path for a slice is the octet-by-octet path, for
    one call and for a run. An array decoder may stand on a frame decoder that was used
    before. A payload that is awaited is never complete, so the number of octets that it
    still needs is positive. -/
theorem paths_agree_afterCalls (limit : Option Nat) (before calls : List Decoder.Call)
    (bytes : Bytes) :
    let texts := afterCalls ({} : NulString) calls
    let frames := afterCalls (LengthPrefixed.withLimit limit) calls
    let arrays := afterCalls
      (StringArray.Streaming.mk (afterCalls (LengthPrefixed.withLimit limit) before)) calls
    PathsAgree texts bytes ∧ PathsAgree frames bytes ∧ PathsAgree arrays bytes ∧
    (∀ n, frames.declared = some n → frames.pending.size < n) ∧
    (∀ n, arrays.frames.declared = some n → arrays.frames.pending.size < n) := by
  intro texts frames arrays
  obtain ⟨htexts, hframes, harrays⟩ := inv_afterCalls_new limit before calls
  refine ⟨pathsAgree_of_inv htexts bytes, pathsAgree_of_inv hframes bytes,
    pathsAgree_of_inv harrays bytes, ?_, ?_⟩
  · exact LengthPrefixed.WellFormed.awaiting_payload hframes
  · exact LengthPrefixed.WellFormed.awaiting_payload harrays

end paths

end Duplex
