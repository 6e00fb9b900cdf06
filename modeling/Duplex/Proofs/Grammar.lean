import Duplex.Proofs.Frames

/-! # The grammar of framed streams

  Any string of octets is, in one way only, a number of frames and what is left after them:
  an unfinished prefix, a prefix and an unfinished payload, or a prefix that is refused and
  whatever follows it. A decoder reads a string by this grammar. The frames that it delivers
  are those that the encoder makes of their payloads, so no octet is skipped or made up.

  There is such a reading of every string (`exists_reading`), and what is left after the
  frames settles how the run ends (`feedAll_unfinishedTail`, `feedAll_refusedTail`).
-/

namespace Duplex

open Decoder (feedAll decodeAll)

/-! ### Prefixes -/

namespace Length

theorem unsigned_lt {header : Bytes} (h : header.length = octets) :
    unsigned header < 4294967296 := by
  match header, h with
  | [a, b, c, d], _ =>
    have ha := a.toNat_lt
    have hb := b.toNat_lt
    have hc := c.toNat_lt
    have hd := d.toNat_lt
    simp only [unsigned, List.foldl_cons, List.foldl_nil]
    omega

/-- A number is written with the octets that it was read from. -/
theorem encode_unsigned {header : Bytes} (h : header.length = octets) :
    encode (unsigned header) = header := by
  match header, h with
  | [a, b, c, d], _ =>
    have ha := a.toNat_lt
    have hb := b.toNat_lt
    have hc := c.toNat_lt
    have hd := d.toNat_lt
    simp only [encode, unsigned, List.foldl_cons, List.foldl_nil, List.cons.injEq, and_true,
      ← UInt8.toNat_inj, UInt8.toNat_ofNat']
    refine ⟨?_, ?_, ?_, ?_⟩ <;> omega

/-- A prefix that declares a length is the one that is written for it. -/
theorem encode_of_decode {header : Bytes} {n : Nat} (h : header.length = octets)
    (hn : decode header = n) : encode n = header ∧ n ≤ greatest := by
  have hlt := unsigned_lt h
  simp only [decode] at hn
  split at hn
  · next hle =>
    obtain rfl : unsigned header = n := by exact_mod_cast hn
    exact ⟨encode_unsigned h, hle⟩
  · -- the number is too great to be positive
    omega

end Length

namespace LengthPrefixed

variable {limit : Option Nat}

/-- What a prefix must declare to be accepted. -/
theorem payloadLength_eq_ok {declared : Int} {n : Nat}
    (h : payloadLength limit declared = .ok n) :
    declared = n ∧ 0 < n ∧ Within limit n := by
  have hpos := payloadLength_pos h
  simp only [payloadLength] at h
  split at h
  · cases h
  · cases limit with
    | none =>
      cases h
      exact ⟨by omega, hpos, by simp [Within]⟩
    | some greatest =>
      dsimp only at h
      split at h
      · cases h
      · next hle =>
        cases h
        exact ⟨by omega, hpos, within_some.2 (Nat.le_of_not_lt hle)⟩

/-! ### What is left after the frames -/

/-- `UnfinishedTail limit tail held`: the octets `tail` begin a frame that a decoder with this
    limit accepts so far, and `held` of them are octets of the part that is under way. -/
inductive UnfinishedTail (limit : Option Nat) : Bytes → Nat → Prop where
  /-- A prefix is under way, or nothing at all. -/
  | header {tail : Bytes} (hlength : tail.length < Length.octets) :
      UnfinishedTail limit tail tail.length
  /-- A prefix is complete, and the payload that it declares is under way. -/
  | payload {header payload : Bytes} {n : Nat} (hheader : header.length = Length.octets)
      (hdeclared : Length.decode header = n) (hpos : 1 ≤ n) (hgreatest : n ≤ Length.greatest)
      (hwithin : Within limit n) (hlength : payload.length < n) :
      UnfinishedTail limit (header ++ payload) payload.length

/-- `RefusedTail limit tail error`: the octets `tail` begin with a prefix that a decoder with
    this limit refuses with this error. -/
inductive RefusedTail (limit : Option Nat) : Bytes → FrameError → Prop where
  /-- The declared length is not positive. -/
  | notPositive {header rest : Bytes} (hheader : header.length = Length.octets)
      (hdeclared : Length.decode header ≤ 0) :
      RefusedTail limit (header ++ rest) (.invalidLength (Length.decode header))
  /-- The declared length is above the limit. -/
  | aboveLimit {header rest : Bytes} {n greatest : Nat} (hheader : header.length = Length.octets)
      (hdeclared : Length.decode header = n) (hlimit : limit = some greatest)
      (hlt : greatest < n) :
      RefusedTail limit (header ++ rest) (.frameTooLarge n greatest)

/-- An unfinished frame is held back. -/
theorem feedAll_unfinishedTail {tail : Bytes} {held : Nat} (h : UnfinishedTail limit tail held) :
    let run := feedAll (withLimit limit) tail
    run.items = #[] ∧ run.error = none ∧ run.decoder.pending.size = held ∧
      (run.decoder.atBoundary = true ↔ tail = []) := by
  intro run
  cases h with
  | header hlength =>
    have hrun : run = ⟨#[], none, ⟨none, tail.toArray, limit⟩⟩ := feedAll_unfinished hlength
    rw [hrun]
    exact ⟨rfl, rfl, List.size_toArray, by simp [atBoundary]⟩
  | @payload header payload n hheader hdeclared hpos hgreatest hwithin hlength =>
    have hpayload : feedAll ⟨some n, #[], limit⟩ payload =
        ⟨#[], none, (⟨some n, payload.toArray, limit⟩ : LengthPrefixed)⟩ :=
      feedAll_unfinished hlength
    have hrun : run = ⟨#[], none, ⟨some n, payload.toArray, limit⟩⟩ := by
      simp only [run]
      rw [Decoder.feedAll_append, feedAll_header hheader, hdeclared,
        payloadLength_of_within hpos hwithin, Decoder.Run.resume_of_ok rfl, hpayload]
      rfl
    have hne : header ≠ [] := by
      rintro rfl
      cases hheader
    rw [hrun]
    exact ⟨rfl, rfl, List.size_toArray, by simp [atBoundary, hne]⟩

/-- A refused prefix ends the run. -/
theorem feedAll_refusedTail {tail : Bytes} {e : FrameError} (h : RefusedTail limit tail e) :
    feedAll (withLimit limit) tail = ⟨#[], some e, withLimit limit⟩ := by
  cases h with
  | @notPositive header rest hheader hdeclared =>
    have hlen : payloadLength limit (Length.decode header) =
        .error (.invalidLength (Length.decode header)) := if_pos hdeclared
    rw [Decoder.feedAll_append, feedAll_header hheader, hlen, Decoder.Run.resume_of_error rfl]
  | aboveLimit hheader hdeclared hlimit hlt =>
    rw [Decoder.feedAll_append, feedAll_header hheader, hdeclared, hlimit,
      payloadLength_of_lt hlt, Decoder.Run.resume_of_error rfl]

/-- A prefix that is not accepted is refused for what it declares. -/
theorem refusedTail_of_error {header : Bytes} {e : FrameError}
    (hheader : header.length = Length.octets)
    (h : payloadLength limit (Length.decode header) = .error e) (rest : Bytes) :
    RefusedTail limit (header ++ rest) e := by
  simp only [payloadLength] at h
  split at h
  · next hle =>
    cases h
    exact .notPositive hheader hle
  · next hpos =>
    cases limit with
    | none => cases h
    | some greatest =>
      dsimp only at h
      split at h
      · next hlt =>
        cases h
        exact .aboveLimit hheader (by omega) rfl hlt
      · cases h

/-! ### Readings -/

/-- A string of octets as frames, all of which a decoder with this limit accepts, and what is
    left after them. -/
structure Reading (limit : Option Nat) (bytes : Bytes) (payloads frames : List Bytes)
    (tail : Bytes) : Prop where
  /-- The frames are those that the encoder makes of the payloads. -/
  encoded : payloads.mapM encode = .ok frames
  /-- No payload is empty, too long for a prefix or above the limit. -/
  accepted : ∀ payload ∈ payloads,
    1 ≤ payload.length ∧ payload.length ≤ Length.greatest ∧ Within limit payload.length
  /-- The frames and the tail are all there is. -/
  split : bytes = frames.flatten ++ tail

theorem Reading.nil (limit : Option Nat) (bytes : Bytes) : Reading limit bytes [] [] bytes :=
  ⟨rfl, by simp, rfl⟩

/-- A frame may be put in front of what is read. -/
theorem Reading.cons {bytes payload tail : Bytes} {payloads frames : List Bytes}
    (h : Reading limit bytes payloads frames tail) (hframable : Framable payload)
    (hwithin : Within limit payload.length) :
    Reading limit (frame payload ++ bytes) (payload :: payloads) (frame payload :: frames)
      tail := by
  obtain ⟨hall, hframes⟩ := mapM_encode_eq_ok_iff.1 h.encoded
  constructor
  case encoded =>
    refine mapM_encode_eq_ok_iff.2 ⟨List.forall_mem_cons.2 ⟨hframable, hall⟩, ?_⟩
    rw [hframes, List.map_cons]
  case accepted =>
    exact List.forall_mem_cons.2 ⟨⟨hframable.1, hframable.2, hwithin⟩, h.accepted⟩
  case split => rw [h.split, List.flatten_cons, List.append_assoc]

/-- A string that is long enough has a first part of any length. -/
theorem exists_append_of_le_length {bytes : Bytes} {n : Nat} (h : n ≤ bytes.length) :
    ∃ first rest : Bytes, first.length = n ∧ bytes = first ++ rest :=
  ⟨bytes.take n, bytes.drop n, List.length_take_of_le h, (List.take_append_drop n bytes).symm⟩

/-- Every string has a reading, whose tail is unfinished or refused. -/
theorem exists_reading (limit : Option Nat) (bytes : Bytes) :
    ∃ payloads frames tail, Reading limit bytes payloads frames tail ∧
      ((∃ held, UnfinishedTail limit tail held) ∨ ∃ e, RefusedTail limit tail e) := by
  -- a frame is not empty, so what follows it is shorter
  induction hn : bytes.length using Nat.strongRecOn generalizing bytes with
  | ind n ih =>
    by_cases hshort : bytes.length < Length.octets
    · exact ⟨[], [], bytes, .nil limit bytes, .inl ⟨_, .header hshort⟩⟩
    · obtain ⟨header, more, hheader, rfl⟩ := exists_append_of_le_length (Nat.le_of_not_lt hshort)
      cases hlen : payloadLength limit (Length.decode header) with
      | error e =>
        exact ⟨[], [], header ++ more, .nil limit _,
          .inr ⟨e, refusedTail_of_error hheader hlen more⟩⟩
      | ok declared =>
        obtain ⟨hdeclared, hpos, hwithin⟩ := payloadLength_eq_ok hlen
        obtain ⟨hencode, hgreatest⟩ := Length.encode_of_decode hheader hdeclared
        by_cases hlt : more.length < declared
        · exact ⟨[], [], header ++ more, .nil limit _,
            .inl ⟨_, .payload hheader hdeclared hpos hgreatest hwithin hlt⟩⟩
        · obtain ⟨payload, rest, rfl, rfl⟩ := exists_append_of_le_length (Nat.le_of_not_lt hlt)
          have hrest : rest.length < n := by
            simp only [List.length_append] at hn
            omega
          obtain ⟨payloads, frames, tail, hreading, htail⟩ := ih _ hrest rest rfl
          have hframe : header ++ (payload ++ rest) = frame payload ++ rest := by
            rw [frame, hencode, List.append_assoc]
          rw [hframe]
          exact ⟨payload :: payloads, frame payload :: frames, tail,
            hreading.cons ⟨hpos, hgreatest⟩ hwithin, htail⟩

/-- A run delivers the payloads of a reading and goes on with its tail. -/
theorem Reading.feedAll_eq {bytes tail : Bytes} {payloads frames : List Bytes}
    (h : Reading limit bytes payloads frames tail) :
    feedAll (withLimit limit) bytes =
      (feedAll (withLimit limit) tail).prepend payloads.toArray := by
  obtain ⟨hall, hframes⟩ := mapM_encode_eq_ok_iff.1 h.encoded
  rw [h.split, hframes, feedAll_frames hall fun payload hmem => (h.accepted payload hmem).2.2]

/-- How the run over a string ends, from what is left after the frames. -/
def EndsLike (limit : Option Nat) (tail : Bytes) (error : Option FrameError)
    (d : LengthPrefixed) : Prop :=
  match error with
  | none => UnfinishedTail limit tail (Decoder.pendingLen d) ∧ (d.atBoundary = true ↔ tail = [])
  | some e => RefusedTail limit tail e

/-- **A decoder accepts exactly the grammar.** A new decoder delivers these payloads from a
    string and ends in this way just where the string is the frames of the payloads, as the
    encoder makes them, followed

    - where there is no error, by an unfinished frame: a part of a prefix, or an acceptable
      prefix and a part of its payload. The octets of that part are held back, and the
      decoder stands between two frames if nothing is left;
    - where there is an error, by a prefix whose length is not positive or above the limit. -/
theorem decodeAll_eq_iff_reading (limit : Option Nat) (bytes : Bytes) (payloads : List Bytes)
    (error : Option FrameError) :
    let run := decodeAll (withLimit limit) bytes
    (run.items = payloads.toArray ∧ run.error = error) ↔
      ∃ frames tail, Reading limit bytes payloads frames tail ∧
        EndsLike limit tail error run.decoder := by
  intro run
  have hrun : run = feedAll (withLimit limit) bytes :=
    Decoder.decodeAll_eq (wellFormed_withLimit limit) bytes
  constructor
  · rintro ⟨hitems, rfl⟩
    obtain ⟨read, frames, tail, hreading, htail⟩ := exists_reading limit bytes
    rw [hreading.feedAll_eq] at hrun
    -- what was read is what was delivered
    have hread : run.items = read.toArray := by
      rcases htail with ⟨held, htail⟩ | ⟨e, htail⟩
      · rw [hrun, Decoder.Run.items_prepend, (feedAll_unfinishedTail htail).1,
          Array.append_empty]
      · rw [hrun, Decoder.Run.items_prepend, feedAll_refusedTail htail, Array.append_empty]
    obtain rfl : payloads = read := by
      rw [hitems] at hread
      exact congrArg Array.toList hread
    refine ⟨frames, tail, hreading, ?_⟩
    rcases htail with ⟨held, htail⟩ | ⟨e, htail⟩
    · obtain ⟨-, herror, hheld, hboundary⟩ := feedAll_unfinishedTail htail
      rw [hrun, Decoder.Run.error_prepend, Decoder.Run.decoder_prepend, herror]
      refine ⟨?_, hboundary⟩
      rw [← hheld] at htail
      exact htail
    · rw [hrun, Decoder.Run.error_prepend, feedAll_refusedTail htail]
      exact htail
  · rintro ⟨frames, tail, hreading, hends⟩
    rw [hreading.feedAll_eq] at hrun
    cases error with
    | none =>
      obtain ⟨hitems, herror, -⟩ := feedAll_unfinishedTail hends.1
      rw [hrun]
      exact ⟨by simp [hitems], herror⟩
    | some e =>
      rw [hrun, feedAll_refusedTail hends]
      exact ⟨by simp, rfl⟩

end LengthPrefixed

end Duplex
