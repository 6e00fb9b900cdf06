import Duplex.Proofs.BulkPath

/-! # Runs over frames

  What the run of a frame decoder is over each part of a frame: an unfinished prefix or
  payload is held back, a complete prefix is judged by the length that it declares, a
  complete payload is delivered. From these follows the run over a frame that the encoder
  made, and by induction the run over any number of them.
-/

namespace Duplex

open Decoder (feedAll)

/-! ### Prefixes -/

namespace Length

theorem length_encode (n : Nat) : (encode n).length = octets := rfl

theorem unsigned_encode {n : Nat} (h : n ≤ greatest) : unsigned (encode n) = n := by
  have hlt : n < 4294967296 := Nat.lt_of_le_of_lt h (by decide)
  simp only [unsigned, encode, List.foldl_cons, List.foldl_nil, UInt8.toNat_ofNat']
  omega

/-- A prefix is read as the length that it was written for. -/
theorem decode_encode {n : Nat} (h : n ≤ greatest) : decode (encode n) = n := by
  simp only [decode, unsigned_encode h, h, if_true]

end Length

namespace LengthPrefixed

variable {limit : Option Nat}

/-- Whether a decoder with this limit accepts payloads of `n` octets. -/
def Within (limit : Option Nat) (n : Nat) : Prop := ∀ greatest ∈ limit, n ≤ greatest

theorem within_some {n greatest : Nat} : Within (some greatest) n ↔ n ≤ greatest := by
  simp [Within]

theorem payloadLength_of_within {n : Nat} (hpos : 0 < n) (hn : Within limit n) :
    payloadLength limit n = .ok n := by
  have hnot : ¬ (n : Int) ≤ 0 := by omega
  simp only [payloadLength, hnot, if_false, Int.toNat_natCast]
  cases limit with
  | none => rfl
  | some greatest =>
    have hle : n ≤ greatest := within_some.1 hn
    simp only [Nat.not_lt.2 hle, if_false]

theorem payloadLength_of_lt {n greatest : Nat} (hn : greatest < n) :
    payloadLength (some greatest) n = .error (.frameTooLarge n greatest) := by
  have hnot : ¬ (n : Int) ≤ 0 := by omega
  simp only [payloadLength, hnot, if_false, Int.toNat_natCast, hn, if_true]

/-! ### Parts of a frame -/

/-- An unfinished prefix or payload is added to what is held back of it. -/
theorem feedAll_pending {declared : Option Nat} {pending : Array UInt8} {bytes : Bytes}
    (h : pending.size + bytes.length < declared.getD Length.octets) :
    feedAll ⟨declared, pending, limit⟩ bytes =
      ⟨#[], none, (⟨declared, pending ++ bytes, limit⟩ : LengthPrefixed)⟩ := by
  induction bytes generalizing pending with
  | nil => simp [feedAll]
  | cons b rest ih =>
    simp only [List.length_cons] at h
    have hne : (pending.push b).size ≠ declared.getD Length.octets := by
      simp only [Array.size_push]
      omega
    have hlt : (pending.push b).size + rest.length < declared.getD Length.octets := by
      simp only [Array.size_push]
      omega
    have hfeed : Decoder.feed (⟨declared, pending, limit⟩ : LengthPrefixed) b =
        (.ok none, ⟨declared, pending.push b, limit⟩) := by
      cases declared with
      | none => exact if_neg hne
      | some n => exact if_neg hne
    rw [Decoder.feedAll_cons_of_ok hfeed, ih hlt]
    simp

/-- An unfinished prefix or payload is held back. -/
theorem feedAll_unfinished {declared : Option Nat} {bytes : Bytes}
    (h : bytes.length < declared.getD Length.octets) :
    feedAll ⟨declared, #[], limit⟩ bytes =
      ⟨#[], none, (⟨declared, bytes.toArray, limit⟩ : LengthPrefixed)⟩ := by
  have hlt : (#[] : Array UInt8).size + bytes.length < declared.getD Length.octets := by
    rwa [Array.size_empty, Nat.zero_add]
  rw [feedAll_pending hlt]
  simp

/-- What `finish` answers where `received` of `expected` octets are held back: the stream may
    end where none are. -/
def missing (expected received : Nat) : Except FrameError Unit :=
  if received = 0 then .ok () else .error (.incomplete expected received)

theorem missing_eq_ok_iff {expected received : Nat} :
    missing expected received = .ok () ↔ received = 0 := by
  by_cases h : received = 0
  · simp only [missing, h, if_true]
  · simp only [missing, h, if_false, reduceCtorEq]

theorem missing_of_pos {expected received : Nat} (h : 0 < received) :
    missing expected received = .error (.incomplete expected received) :=
  if_neg (Nat.ne_of_gt h)

theorem finish_eq_missing (declared : Option Nat) (bytes : Bytes) :
    finish ⟨declared, bytes.toArray, limit⟩ =
      missing (declared.getD Length.octets) bytes.length := by
  cases bytes with
  | nil => rfl
  | cons b rest => rfl

/-- A complete prefix is judged by the length that it declares. -/
theorem feedAll_header {header : Bytes} (h : header.length = Length.octets) :
    feedAll (withLimit limit) header =
      match payloadLength limit (Length.decode header) with
      | .error e => ⟨#[], some e, withLimit limit⟩
      | .ok n => ⟨#[], none, ⟨some n, #[], limit⟩⟩ := by
  -- all octets but the last are held back, and the last one completes the prefix
  have hne : header ≠ [] := by
    rintro rfl
    cases h
  obtain ⟨most, last, rfl⟩ : ∃ most last, header = most ++ [last] :=
    ⟨_, _, (List.dropLast_concat_getLast hne).symm⟩
  simp only [List.length_append, List.length_cons, List.length_nil] at h
  have hmost : feedAll (withLimit limit) most =
      ⟨#[], none, (⟨none, most.toArray, limit⟩ : LengthPrefixed)⟩ :=
    feedAll_unfinished (by rw [← h]; exact Nat.lt_succ_self _)
  rw [Decoder.feedAll_append, Decoder.Run.resume_of_ok (by rw [hmost]), hmost]
  cases hlen : payloadLength limit (Length.decode (most ++ [last])) with
  | error e => simp [feedAll, Decoder.feed, feed, h, hlen, withLimit]
  | ok n => simp [feedAll, Decoder.feed, feed, h, hlen]

/-- A complete payload is delivered. -/
theorem feedAll_payload {payload : Bytes} (h : 0 < payload.length) :
    feedAll ⟨some payload.length, #[], limit⟩ payload = ⟨#[payload], none, withLimit limit⟩ := by
  obtain ⟨most, last, rfl⟩ : ∃ most last, payload = most ++ [last] :=
    ⟨_, _, (List.dropLast_concat_getLast (List.length_pos_iff.1 h)).symm⟩
  have hmost : feedAll ⟨some (most ++ [last]).length, #[], limit⟩ most =
      ⟨#[], none, (⟨some (most ++ [last]).length, most.toArray, limit⟩ : LengthPrefixed)⟩ :=
    feedAll_unfinished (by simp)
  rw [Decoder.feedAll_append, Decoder.Run.resume_of_ok (by rw [hmost]), hmost]
  simp [feedAll, Decoder.feed, feed, withLimit, Decoder.Run.prepend]

/-! ### Frames -/

/-- Whether there is a frame for a payload. -/
def Framable (payload : Bytes) : Prop := 0 < payload.length ∧ payload.length ≤ Length.greatest

/-- The octets that a frame is made of. -/
def frame (payload : Bytes) : Bytes := Length.encode payload.length ++ payload

theorem length_frame (payload : Bytes) :
    (frame payload).length = Length.octets + payload.length := by
  rw [frame, List.length_append, Length.length_encode]

/-- The encoder frames what can be framed, and refuses all else. -/
theorem encode_eq_ok_iff {payload bytes : Bytes} :
    encode payload = .ok bytes ↔ Framable payload ∧ bytes = frame payload := by
  cases payload with
  | nil => simp [encode, Framable]
  | cons b rest =>
    by_cases hle : (b :: rest).length ≤ Length.greatest
    · have hframable : Framable (b :: rest) := ⟨Nat.zero_lt_succ _, hle⟩
      have hencode : encode (b :: rest) = .ok (frame (b :: rest)) := by
        simp only [encode, List.isEmpty_cons, header, hle, if_true]
        rfl
      rw [hencode, Except.ok.injEq, eq_comm]
      exact (and_iff_right hframable).symm
    · have hencode : encode (b :: rest) =
          .error (.frameTooLarge (b :: rest).length Length.greatest) := by
        simp only [encode, List.isEmpty_cons, header, hle, if_false]
        rfl
      rw [hencode]
      constructor
      · intro h
        cases h
      · rintro ⟨hframable, -⟩
        exact absurd hframable.2 hle

/-- The encoder makes frames of some payloads where each of them can be framed. -/
theorem mapM_encode_eq_ok_iff {payloads frames : List Bytes} :
    payloads.mapM encode = .ok frames ↔
      (∀ payload ∈ payloads, Framable payload) ∧ frames = payloads.map frame := by
  induction payloads generalizing frames with
  | nil => simp [pure, Except.pure, eq_comm]
  | cons payload others ih =>
    rw [List.mapM_cons, List.forall_mem_cons, List.map_cons]
    constructor
    · intro h
      cases hfirst : encode payload with
      | error e => rw [hfirst] at h; cases h
      | ok first =>
        cases hothers : others.mapM encode with
        | error e => rw [hfirst, hothers] at h; cases h
        | ok more =>
          rw [hfirst, hothers] at h
          cases h
          obtain ⟨hpayload, rfl⟩ := encode_eq_ok_iff.1 hfirst
          obtain ⟨hall, rfl⟩ := ih.1 hothers
          exact ⟨⟨hpayload, hall⟩, rfl⟩
    · rintro ⟨⟨hpayload, hall⟩, rfl⟩
      rw [encode_eq_ok_iff.2 ⟨hpayload, rfl⟩, ih.2 ⟨hall, rfl⟩]
      rfl

/-- A prefix that is accepted makes the decoder await its payload. -/
theorem feedAll_encode {n : Nat} (hpos : 0 < n) (hle : n ≤ Length.greatest)
    (hwithin : Within limit n) :
    feedAll (withLimit limit) (Length.encode n) =
      ⟨#[], none, (⟨some n, #[], limit⟩ : LengthPrefixed)⟩ := by
  rw [feedAll_header (Length.length_encode n), Length.decode_encode hle,
    payloadLength_of_within hpos hwithin]

/-- A prefix above the limit ends the run, and the decoder awaits the next prefix. -/
theorem feedAll_encode_of_lt {n greatest : Nat} (hle : n ≤ Length.greatest)
    (hlt : greatest < n) :
    feedAll (withLimit (some greatest)) (Length.encode n) =
      ⟨#[], some (.frameTooLarge n greatest), withLimit (some greatest)⟩ := by
  rw [feedAll_header (Length.length_encode n), Length.decode_encode hle, payloadLength_of_lt hlt]

/-- The run over a frame that is accepted delivers its payload, and goes on. -/
theorem feedAll_frame {payload : Bytes} (h : Framable payload)
    (hwithin : Within limit payload.length) (rest : Bytes) :
    feedAll (withLimit limit) (frame payload ++ rest) =
      (feedAll (withLimit limit) rest).prepend #[payload] := by
  have hframe : feedAll (withLimit limit) (frame payload) =
      ⟨#[payload], none, withLimit limit⟩ := by
    rw [frame, Decoder.feedAll_append, feedAll_encode h.1 h.2 hwithin,
      Decoder.Run.resume_of_ok rfl, feedAll_payload h.1]
    rfl
  rw [Decoder.feedAll_append, hframe, Decoder.Run.resume_of_ok rfl]

/-- The run over frames that are all accepted delivers their payloads, and goes on. -/
theorem feedAll_frames {payloads : List Bytes} (h : ∀ payload ∈ payloads, Framable payload)
    (hwithin : ∀ payload ∈ payloads, Within limit payload.length) (rest : Bytes) :
    feedAll (withLimit limit) ((payloads.map frame).flatten ++ rest) =
      (feedAll (withLimit limit) rest).prepend payloads.toArray := by
  induction payloads with
  | nil => simp
  | cons payload others ih =>
    obtain ⟨hpayload, hothers⟩ := List.forall_mem_cons.1 h
    obtain ⟨hfirst, hrest⟩ := List.forall_mem_cons.1 hwithin
    rw [List.map_cons, List.flatten_cons, List.append_assoc, feedAll_frame hpayload hfirst,
      ih hothers hrest, Decoder.Run.prepend_prepend]
    simp

end LengthPrefixed

end Duplex
