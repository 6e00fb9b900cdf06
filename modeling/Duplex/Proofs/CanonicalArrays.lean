import Duplex.Proofs.TextStreams
import Duplex.Proofs.WholeFrames

/-! # Reading an array is exact

  Each payload that ends with a NUL is an array, one text for each NUL, and no other payload is
  (`parses`). What was read can be written again. The octets are the same where the payload was
  valid UTF-8, and only there (`encode_eq_ok_iff_valid`): anything ill-formed was replaced. Where it
  was replaced, the array that is read back is still the same, since nothing is replaced twice
  (`decodeFrame_of_encode_eq_ok`).

  Both rest on the cut of the payload at its NULs. A payload is the pieces of its cut, each with its
  NUL (`Cut.eq_flatMap`), and reading and writing go piece by piece.
-/

namespace Duplex

open NulString (Cut exists_cut)
open LengthPrefixed (frame)

/-! ### Valid UTF-8 -/

namespace Utf8

/-- Octets are valid UTF-8 if they are those of some characters. -/
theorem isValidUTF8_iff (bytes : Bytes) :
    bytes.toByteArray.IsValidUTF8 ↔ ∃ cs, bytes = octets cs := by
  constructor
  · rintro ⟨cs, hbytes⟩
    refine ⟨cs, ?_⟩
    have hdata := congrArg (fun b => b.data.toList) hbytes
    simpa [List.utf8Encode, octets] using hdata
  · rintro ⟨cs, rfl⟩
    exact ⟨cs, rfl⟩

end Utf8

/-! ### Cuts -/

namespace NulString.Cut

variable {bytes tail : Bytes} {texts : List Bytes}

theorem eq_flatMap (h : Cut bytes texts tail) : bytes = texts.flatMap (· ++ [nul]) ++ tail := by
  induction h with
  | last => rfl
  | text _ _ ih =>
    rw [List.flatMap_cons, List.append_assoc, ← ih, List.append_assoc]
    rfl

/-- The tail is what comes after the last NUL, or all there is. -/
theorem tail_spec (h : Cut bytes texts tail) :
    nul ∉ tail ∧ (bytes = tail ∨ ∃ before, bytes = before ++ nul :: tail) := by
  induction h with
  | last hnul => exact ⟨hnul, .inl rfl⟩
  | @text text rest texts tail _ _ ih =>
    obtain ⟨hnul, rfl | ⟨before, rfl⟩⟩ := ih
    · exact ⟨hnul, .inr ⟨text, rfl⟩⟩
    · refine ⟨hnul, .inr ⟨text ++ nul :: before, ?_⟩⟩
      rw [List.append_assoc]
      rfl

/-- Read from the end, octets come to the tail and then to a NUL, if there is one. -/
theorem takeWhile_reverse (h : Cut bytes texts tail) :
    bytes.reverse.takeWhile (· ≠ nul) = tail.reverse := by
  obtain ⟨hnul, hbytes⟩ := h.tail_spec
  have htail : ∀ b ∈ tail.reverse, decide (b ≠ nul) = true := by
    intro b hb
    refine decide_eq_true fun hb' => hnul ?_
    rw [← hb']
    exact List.mem_reverse.1 hb
  rcases hbytes with rfl | ⟨before, rfl⟩
  · rw [← List.append_nil bytes.reverse, List.takeWhile_append_of_pos htail]
    rfl
  · rw [List.reverse_append, List.reverse_cons, List.append_assoc,
      List.takeWhile_append_of_pos htail]
    simp

end NulString.Cut

namespace StringArray

/-! ### Parsing -/

/-- A payload that ends with a NUL is read piece by piece. -/
theorem parse_of_cut {payload : Bytes} {texts : List Bytes} (h : Cut payload texts [])
    (hne : payload ≠ []) : parse payload = .ok (texts.map Utf8.decode) := by
  have hlast : payload.getLast? = some nul := (h.tail_eq_nil_iff.1 rfl).resolve_left hne
  obtain ⟨bytes, rfl⟩ := List.getLast?_eq_some_iff.1 hlast
  have hsplit : (bytes ++ [nul]).splitOn nul = bytes.splitOn nul ++ [[]] :=
    List.splitOnP_append_cons _ _ (beq_self_eq_true nul)
  have hcut : bytes.splitOn nul = texts :=
    List.append_cancel_right (hsplit.symm.trans h.splitOn_eq)
  rw [parse_concat_nul, hcut]

/-- Any other payload is refused. -/
theorem parse_of_not_last {payload tail : Bytes} {texts : List Bytes} (h : Cut payload texts tail)
    (hlast : payload.getLast? ≠ some nul) :
    parse payload = .error (.noTermination tail.length) := by
  rw [parse, if_neg hlast, h.takeWhile_reverse, List.length_reverse]

/-- A payload that was read is cut with nothing left. -/
theorem cut_of_parse {payload : Bytes} {texts : List String} (h : parse payload = .ok texts) :
    payload.getLast? = some nul ∧
      ∃ pieces, Cut payload pieces [] ∧ texts = pieces.map Utf8.decode := by
  obtain ⟨pieces, tail, hcut⟩ := exists_cut payload
  by_cases hlast : payload.getLast? = some nul
  · obtain rfl := hcut.tail_eq_nil_iff.2 (.inr hlast)
    have hne : payload ≠ [] := by
      rintro rfl
      cases hlast
    rw [parse_of_cut hcut hne] at h
    cases h
    exact ⟨hlast, pieces, hcut, rfl⟩
  · rw [parse_of_not_last hcut hlast] at h
    cases h

/-- What a payload is read as. -/
structure Parses (payload : Bytes) : Prop where
  /-- It is an array if it is not empty and its last octet is NUL. -/
  ok_iff : (∃ texts, parse payload = .ok texts) ↔ payload ≠ [] ∧ payload.getLast? = some nul
  /-- The array has one element for each NUL, and none of them has a NUL in it. -/
  elements : ∀ texts, parse payload = .ok texts →
    texts.length = payload.count nul ∧ ∀ text ∈ texts, '\x00' ∉ text.toList
  /-- Any other payload is refused, with the number of octets after its last NUL, or of all octets
      where there is none. -/
  error : ¬ (payload ≠ [] ∧ payload.getLast? = some nul) →
    ∃ tail, nul ∉ tail ∧ (payload = tail ∨ ∃ before, payload = before ++ nul :: tail) ∧
      parse payload = .error (.noTermination tail.length)

theorem parses (payload : Bytes) : Parses payload := by
  obtain ⟨pieces, tail, hcut⟩ := exists_cut payload
  constructor
  case ok_iff =>
    constructor
    · rintro ⟨texts, h⟩
      obtain ⟨hlast, -⟩ := cut_of_parse h
      refine ⟨?_, hlast⟩
      rintro rfl
      cases hlast
    · rintro ⟨hne, hlast⟩
      obtain rfl := hcut.tail_eq_nil_iff.2 (.inr hlast)
      exact ⟨_, parse_of_cut hcut hne⟩
  case elements =>
    intro texts h
    obtain ⟨-, pieces, hcut, rfl⟩ := cut_of_parse h
    exact ⟨by rw [List.length_map, hcut.count_eq], hcut.nul_notMem_decode⟩
  case error =>
    intro h
    have hlast : payload.getLast? ≠ some nul := by
      intro hlast
      refine h ⟨?_, hlast⟩
      rintro rfl
      cases hlast
    obtain ⟨hnul, hbytes⟩ := hcut.tail_spec
    exact ⟨tail, hnul, hbytes, parse_of_not_last hcut hlast⟩

/-! ### Frames that were read -/

theorem body_frame (p : Bytes) : body (frame p) = p := by
  rw [body, frame, ← Length.length_encode p.length, List.drop_left]

/-- What is known of a frame that was read. -/
theorem cut_of_decodeFrame {f : Bytes} {texts : List String} (h : decodeFrame f = .ok texts) :
    f = frame (body f) ∧ (body f).length ≤ Length.greatest ∧
      ∃ pieces, Cut (body f) pieces [] ∧ texts = pieces.map Utf8.decode := by
  by_cases hempty : f = [0, 0, 0, 0]
  · -- the frame without a payload is the empty array
    subst hempty
    have hread : decodeFrame (frame []) = .ok [] := decodeFrame_frame (Nat.zero_le _)
    obtain rfl : [] = texts := Except.ok.inj (hread.symm.trans h)
    exact ⟨rfl, Nat.zero_le _, [], .last List.not_mem_nil, rfl⟩
  · obtain ⟨p, hframable, rfl, hparse⟩ := (decodeFrame_eq_ok_iff hempty texts).1 h
    obtain ⟨-, hcut⟩ := cut_of_parse hparse
    rw [body_frame]
    exact ⟨rfl, hframable.2, hcut⟩

/-- The octets of texts that were read, written again. -/
theorem payload_of_cut (pieces : List Bytes) :
    payload ((pieces.map Utf8.decode).map some) =
      (pieces.map fun piece => Utf8.encode (Utf8.decode piece)).flatMap (· ++ [nul]) := by
  rw [payload, List.map_map, List.flatMap_map, List.flatMap_map]
  rfl

/-- The pieces of valid UTF-8 are written as they were. -/
theorem payload_of_valid {bytes : Bytes} {pieces : List Bytes} (hcut : Cut bytes pieces [])
    (hvalid : bytes.toByteArray.IsValidUTF8) :
    payload ((pieces.map Utf8.decode).map some) = bytes := by
  obtain ⟨cs, hcs⟩ := (Utf8.isValidUTF8_iff bytes).1 hvalid
  have hpieces : pieces ++ [[]] = (cs.splitOn '\x00').map Utf8.octets := by
    rw [← hcut.splitOn_eq, hcs, Utf8.splitOn_octets]
  have hsame : pieces.map (fun piece => Utf8.encode (Utf8.decode piece)) = pieces := by
    refine (List.map_congr_left fun piece hpiece => ?_).trans (List.map_id pieces)
    have hmem : piece ∈ (cs.splitOn '\x00').map Utf8.octets := by
      rw [← hpieces]
      exact List.mem_append_left _ hpiece
    obtain ⟨chars, -, rfl⟩ := List.mem_map.1 hmem
    rw [Utf8.decode_octets]
    show Utf8.octets (String.ofList chars).toList = _
    rw [String.toList_ofList]
    rfl
  rw [payload_of_cut, hsame]
  exact (hcut.eq_flatMap.trans (List.append_nil _)).symm

/-- What was written is valid UTF-8. -/
theorem isValidUTF8_payload (texts : List (Option String)) :
    (payload texts).toByteArray.IsValidUTF8 := by
  rw [Utf8.isValidUTF8_iff]
  refine ⟨texts.flatMap fun text => (text.getD "").toList ++ ['\x00'], ?_⟩
  induction texts with
  | nil => rfl
  | cons text texts ih =>
    have hcons : payload (text :: texts) =
        Utf8.octets ((text.getD "").toList) ++ Utf8.octets ['\x00'] ++ payload texts := rfl
    rw [hcons, ih, List.flatMap_cons]
    simp only [Utf8.octets, List.flatMap_append]

/-- What could be written is the frame of its payload. -/
theorem eq_frame_of_encode_eq_ok {texts : List (Option String)} {g : Bytes}
    (h : encode texts = .ok g) :
    payloadSize texts ≤ Length.greatest ∧ g = frame (payload texts) := by
  have hle : payloadSize texts ≤ Length.greatest := by
    refine Nat.le_of_not_lt fun hlt => ?_
    rw [encode_of_lt hlt] at h
    cases h
  rw [encode_of_le hle] at h
  cases h
  exact ⟨hle, rfl⟩

/-- A frame that was read is written again as it was just if its payload is valid UTF-8. -/
theorem encode_eq_ok_iff_valid {f : Bytes} {texts : List String} (h : decodeFrame f = .ok texts) :
    encode (texts.map some) = .ok f ↔ (body f).toByteArray.IsValidUTF8 := by
  obtain ⟨hframe, hle, pieces, hcut, rfl⟩ := cut_of_decodeFrame h
  constructor
  · intro hencode
    obtain ⟨-, rfl⟩ := eq_frame_of_encode_eq_ok hencode
    rw [body_frame]
    exact isValidUTF8_payload _
  · intro hvalid
    have hpayload := payload_of_valid hcut hvalid
    rw [encode_eq, hpayload, LengthPrefixed.header, if_pos hle]
    exact congrArg _ hframe.symm

/-- What was read and can be written again is read back. -/
theorem decodeFrame_of_encode_eq_ok {f g : Bytes} {texts : List String}
    (h : decodeFrame f = .ok texts) (hencode : encode (texts.map some) = .ok g) :
    decodeFrame g = .ok texts := by
  obtain ⟨hle, rfl⟩ := eq_frame_of_encode_eq_ok hencode
  obtain ⟨-, -, pieces, hcut, hpieces⟩ := cut_of_decodeFrame h
  have hnul : ∀ text ∈ texts, '\x00' ∉ text.toList := hpieces ▸ hcut.nul_notMem_decode
  have hback : readBack (texts.map some) = texts := by
    rw [readBack_of_nul_notMem (by simpa using hnul), List.map_map]
    exact List.map_id texts
  rw [decodeFrame_of_le hle, hback]

/-- **Arrays are read exactly, and what was read is canonical.**

    - A payload is read as one text for each NUL if it ends with a NUL, and refused if it does not.
    - A frame that was read is written again octet for octet just where its payload is valid UTF-8.
    - Whatever was read, ill-formed octets included, is read back unchanged where it can be written
      again; only an array that has become too long for a frame cannot. -/
theorem reads_exactly :
    (∀ payload : Bytes, Parses payload) ∧
    ∀ (f : Bytes) (texts : List String), decodeFrame f = .ok texts →
      ((body f).toByteArray.IsValidUTF8 ↔ encode (texts.map some) = .ok f) ∧
      (∀ g, encode (texts.map some) = .ok g → decodeFrame g = .ok texts) ∧
      ((∃ g, encode (texts.map some) = .ok g) ↔
        payloadSize (texts.map some) ≤ Length.greatest) := by
  refine ⟨parses, ?_⟩
  intro f texts h
  refine ⟨(encode_eq_ok_iff_valid h).symm,
    fun g hencode => decodeFrame_of_encode_eq_ok h hencode, ?_⟩
  constructor
  · rintro ⟨g, hencode⟩
    exact (eq_frame_of_encode_eq_ok hencode).1
  · intro hle
    exact ⟨_, encode_of_le hle⟩

/-- A frame of valid UTF-8 with empty elements at both ends and in the middle, and one with a
    surrogate, which is longer when it is written again. -/
theorem reads_exactly_of_surrogate :
    let valid : Bytes := [0, 0, 0, 6, 0, 0xC3, 0xA9, 0, 0, 0]
    let surrogate : Bytes := [0, 0, 0, 4, 0xED, 0xA0, 0x80, 0]
    let longer : Bytes := [0, 0, 0, 10, 0xEF, 0xBF, 0xBD, 0xEF, 0xBF, 0xBD, 0xEF, 0xBF, 0xBD, 0]
    decodeFrame valid = .ok ["", "é", "", ""] ∧
    encode (["", "é", "", ""].map some) = .ok valid ∧
    decodeFrame surrogate = .ok ["\uFFFD\uFFFD\uFFFD"] ∧
    encode (["\uFFFD\uFFFD\uFFFD"].map some) = .ok longer ∧
    decodeFrame longer = .ok ["\uFFFD\uFFFD\uFFFD"] := by
  intro valid surrogate longer
  obtain ⟨-, hframes⟩ := reads_exactly
  have hvalid : decodeFrame valid = .ok ["", "é", "", ""] :=
    decodeFrame_framable (p := [0, 0xC3, 0xA9, 0, 0, 0]) ⟨by decide, by decide⟩
  have hsurrogate : decodeFrame surrogate = .ok ["\uFFFD\uFFFD\uFFFD"] :=
    decodeFrame_framable (p := [0xED, 0xA0, 0x80, 0]) ⟨by decide, by decide⟩
  have hlonger : encode (["\uFFFD\uFFFD\uFFFD"].map some) = .ok longer := by rfl
  obtain ⟨hsame, -, -⟩ := hframes valid _ hvalid
  obtain ⟨-, hback, -⟩ := hframes surrogate _ hsurrogate
  have hutf8 : (body valid).toByteArray.IsValidUTF8 := ⟨['\x00', 'é', '\x00', '\x00', '\x00'], rfl⟩
  exact ⟨hvalid, hsame.1 hutf8, hsurrogate, hlonger, hback longer hlonger⟩

end StringArray

end Duplex
