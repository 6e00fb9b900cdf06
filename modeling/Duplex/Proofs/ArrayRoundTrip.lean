import Duplex.Proofs.Chunking
import Duplex.Proofs.Wire
import Duplex.Proofs.WrittenText

/-! # Arrays of texts on the wire

  An array is written as its texts, each ended by a NUL, behind their length. What is read back
  of an element is its pieces between the NUL characters, so it is the element itself where it
  has none (`parse_payload`, `readBack_of_nul_notMem`). Both readers see to the frame first and
  then parse its payload. They differ in one point: to the whole-frame reader a frame without a
  payload is the empty array, to the streaming decoder it is an error.

  The run of the streaming decoder is that of its frame decoder with the payloads parsed
  (`Streaming.feedAll_eq`), so what is known of runs over frames carries over to it.
-/

namespace Duplex

open Decoder (feedAll decodeAll)

namespace Decoder

variable {δ ι : Type} [Decoder δ ι]

/-- Runs over chunks one after the other, up to the first error. -/
def decodeChunks (d : δ) : List Bytes → Run δ ι
  | [] => ⟨#[], none, d⟩
  | chunk :: rest =>
    let run := decodeAll d chunk
    match run.error with
    | some _ => run
    | none => (decodeChunks run.decoder rest).prepend run.items

/-- How a string of octets is cut into chunks does not show in the run over them. -/
theorem decodeChunks_eq [LawfulDecoder δ] {d : δ} (h : LawfulDecoder.Inv d)
    (chunks : List Bytes) : decodeChunks d chunks = feedAll d chunks.flatten := by
  induction chunks generalizing d with
  | nil => rfl
  | cons chunk rest ih =>
    have hinv := inv_feedAll h chunk
    rw [List.flatten_cons, feedAll_append]
    simp only [decodeChunks, decodeAll_eq h]
    cases herror : (feedAll d chunk).error with
    | some e => rw [Run.resume_of_error herror]
    | none => rw [Run.resume_of_ok herror, ih hinv]

end Decoder

namespace StringArray

open LengthPrefixed (Framable Within frame withLimit)

/-! ### Payloads -/

theorem splitNul_eq_splitOn (bytes : Bytes) : splitNul bytes = bytes.splitOn nul := by
  induction bytes with
  | nil => rfl
  | cons b rest ih =>
    have hcons : splitNul (b :: rest) =
        if b = nul then [] :: splitNul rest else extendHead b (splitNul rest) := rfl
    rw [hcons, ih, List.splitOn_cons_eq_if_modifyHead]
    by_cases hb : b = nul
    · rw [if_pos hb, if_pos (beq_iff_eq.2 hb)]
    · rw [if_neg hb, if_neg (mt beq_iff_eq.1 hb)]
      cases hpieces : rest.splitOn nul with
      | nil => exact absurd hpieces (List.splitOn_ne_nil nul rest)
      | cons piece pieces => rfl

/-- A payload that ends with NUL is the texts between its NUL octets. -/
theorem parse_concat_nul (bytes : Bytes) :
    parse (bytes ++ [nul]) = .ok ((bytes.splitOn nul).map Utf8.decode) := by
  rw [parse, if_pos List.getLast?_concat, List.dropLast_concat, splitNul_eq_splitOn]

/-- What is read back of an element: its pieces between the NUL characters. An absent element
    is read like an empty one. -/
def pieces (text : Option String) : List String :=
  ((text.getD "").toList.splitOn '\x00').map String.ofList

/-- What is read back of an array. -/
def readBack (texts : List (Option String)) : List String := texts.flatMap pieces

theorem pieces_of_nul_notMem {text : Option String} (h : '\x00' ∉ (text.getD "").toList) :
    pieces text = [text.getD ""] := by
  rw [pieces, List.splitOn_eq_singleton h, List.map_singleton, String.ofList_toList]

/-- An array is read back as it was where none of its elements has a NUL. -/
theorem readBack_of_nul_notMem {texts : List (Option String)}
    (h : ∀ text ∈ texts, '\x00' ∉ (text.getD "").toList) :
    readBack texts = texts.map (·.getD "") := by
  induction texts with
  | nil => rfl
  | cons text texts ih =>
    obtain ⟨htext, htexts⟩ := List.forall_mem_cons.1 h
    rw [readBack, List.flatMap_cons, pieces_of_nul_notMem htext, List.map_cons, ← ih htexts]
    rfl

/-- Between its NUL octets, a payload has the pieces of its elements, and nothing after the
    last one. -/
theorem splitOn_payload (texts : List (Option String)) :
    (payload texts).splitOn nul =
      (texts.flatMap fun text => (Utf8.encode (text.getD "")).splitOn nul) ++ [[]] := by
  induction texts with
  | nil => rfl
  | cons text texts ih =>
    have hcons : payload (text :: texts) =
        Utf8.encode (text.getD "") ++ nul :: payload texts := by
      rw [payload, List.flatMap_cons, NulString.encode, List.append_assoc]
      rfl
    have hcut : (payload (text :: texts)).splitOn nul =
        (Utf8.encode (text.getD "")).splitOn nul ++ (payload texts).splitOn nul := by
      rw [hcons]
      exact List.splitOnP_append_cons _ _ (beq_self_eq_true nul)
    rw [hcut, ih, List.flatMap_cons, List.append_assoc]

/-- The octets of an element, cut at each NUL, are read as its pieces. -/
theorem map_decode_splitOn (text : Option String) :
    ((Utf8.encode (text.getD "")).splitOn nul).map Utf8.decode = pieces text := by
  rw [show Utf8.encode (text.getD "") = Utf8.octets (text.getD "").toList from rfl,
    Utf8.splitOn_octets, List.map_map, pieces]
  exact List.map_congr_left fun cs _ => Utf8.decode_octets cs

/-- The payload of an array that is not empty is read back. -/
theorem parse_payload {texts : List (Option String)} (h : texts ≠ []) :
    parse (payload texts) = .ok (readBack texts) := by
  obtain ⟨bytes, hbytes⟩ := exists_payload_concat h
  have hcut : bytes.splitOn nul =
      texts.flatMap fun text => (Utf8.encode (text.getD "")).splitOn nul := by
    have hpayload := splitOn_payload texts
    rw [hbytes, show (bytes ++ [nul]).splitOn nul = bytes.splitOn nul ++ [[]] from
      List.splitOnP_append_cons _ _ (beq_self_eq_true nul)] at hpayload
    exact List.append_cancel_right hpayload
  rw [hbytes, parse_concat_nul, hcut, List.map_flatMap, readBack]
  simp only [map_decode_splitOn]

/-! ### Frames -/

/-- The number of octets in the payload of an array: one more than each text has. -/
def payloadSize : List (Option String) → Nat
  | [] => 0
  | text :: texts => (text.getD "").utf8ByteSize + 1 + payloadSize texts

theorem length_payload (texts : List (Option String)) :
    (payload texts).length = payloadSize texts := by
  induction texts with
  | nil => rfl
  | cons text texts ih =>
    rw [payload, List.flatMap_cons, List.length_append, NulString.encode, List.length_append,
      Utf8.length_encode, payloadSize, ← ih]
    rfl

theorem encode_of_le {texts : List (Option String)} (h : payloadSize texts ≤ Length.greatest) :
    encode texts = .ok (frame (payload texts)) := by
  rw [encode_eq, length_payload, LengthPrefixed.header, if_pos h, frame, length_payload]
  rfl

theorem encode_of_lt {texts : List (Option String)} (h : Length.greatest < payloadSize texts) :
    encode texts = .error (.frameTooLarge (payloadSize texts) Length.greatest) := by
  rw [encode_eq, length_payload, LengthPrefixed.header, if_neg (Nat.not_le.2 h)]
  rfl

theorem mapM_encode_of_le {arrays : List (List (Option String))}
    (h : ∀ texts ∈ arrays, payloadSize texts ≤ Length.greatest) :
    arrays.mapM encode = .ok (arrays.map fun texts => frame (payload texts)) := by
  induction arrays with
  | nil => rfl
  | cons texts arrays ih =>
    obtain ⟨htexts, harrays⟩ := List.forall_mem_cons.1 h
    rw [List.mapM_cons, encode_of_le htexts, ih harrays]
    rfl

/-- The whole-frame reader on octets that begin with a prefix. -/
theorem decodeFrame_append {header : Bytes} (h : header.length = Length.octets)
    (payload : Bytes) :
    decodeFrame (header ++ payload) =
      if Length.decode header < 0 then .error (.invalidLength (Length.decode header))
      else if payload.length < (Length.decode header).toNat then
        .error (.incomplete (Length.decode header).toNat payload.length)
      else if (Length.decode header).toNat < payload.length then
        .error (.trailingBytes (payload.length - (Length.decode header).toNat))
      else if (Length.decode header).toNat = 0 then .ok [] else parse payload := by
  have hlength : ¬ (header ++ payload).length < Length.octets := by
    rw [List.length_append, h]
    exact Nat.not_lt.2 (Nat.le_add_right _ _)
  rw [decodeFrame, if_neg hlength, ← h, List.take_left, List.drop_left]

/-- The whole-frame reader parses the payload of a frame; where there is none, the array is
    empty. -/
theorem decodeFrame_frame {p : Bytes} (h : p.length ≤ Length.greatest) :
    decodeFrame (frame p) = if p.length = 0 then .ok [] else parse p := by
  have hdecode : Length.decode (Length.encode p.length) = p.length := Length.decode_encode h
  have hnat : ¬ (p.length : Int) < 0 := by omega
  rw [frame, decodeFrame_append (Length.length_encode p.length), hdecode, if_neg hnat,
    Int.toNat_natCast, if_neg (Nat.lt_irrefl _), if_neg (Nat.lt_irrefl _)]

/-- The whole-frame reader reads back what was written. -/
theorem decodeFrame_of_le {texts : List (Option String)}
    (h : payloadSize texts ≤ Length.greatest) :
    decodeFrame (frame (payload texts)) = .ok (readBack texts) := by
  rw [decodeFrame_frame (by rwa [length_payload])]
  by_cases hempty : texts = []
  · subst hempty
    rfl
  · rw [if_neg (Nat.ne_of_gt (payload_pos hempty)), parse_payload hempty]

/-! ### Streams -/

theorem parseAll_payloads {arrays : List (List (Option String))}
    (h : ∀ texts ∈ arrays, texts ≠ []) :
    parseAll (arrays.map payload) = (arrays.map readBack, none) := by
  induction arrays with
  | nil => rfl
  | cons texts arrays ih =>
    obtain ⟨htexts, harrays⟩ := List.forall_mem_cons.1 h
    rw [List.map_cons, parseAll_of_ok (parse_payload htexts), ih harrays, List.map_cons]

/-- The frame without a payload ends a run of frames. -/
theorem feedAll_frame_nil (rest : Bytes) :
    feedAll (withLimit none) (frame [] ++ rest) =
      ⟨#[], some (.invalidLength 0), withLimit none⟩ := by
  have hheader : feedAll (withLimit none) (frame []) =
      ⟨#[], some (.invalidLength 0), withLimit none⟩ := by rfl
  rw [Decoder.feedAll_append, hheader, Decoder.Run.resume_of_error rfl]

/-- The frames of arrays are delivered up to the first array that is empty. -/
theorem feedAll_frames {arrays : List (List (Option String))}
    (h : ∀ texts ∈ arrays, payloadSize texts ≤ Length.greatest) :
    feedAll (withLimit none) (arrays.map fun texts => frame (payload texts)).flatten =
      ⟨((arrays.takeWhile (· ≠ [])).map payload).toArray,
        if [] ∈ arrays then some (.invalidLength 0) else none, withLimit none⟩ := by
  induction arrays with
  | nil => rfl
  | cons texts arrays ih =>
    obtain ⟨htexts, harrays⟩ := List.forall_mem_cons.1 h
    rw [List.map_cons, List.flatten_cons]
    by_cases hempty : texts = []
    · subst hempty
      exact feedAll_frame_nil _
    · have hframable : Framable (payload texts) :=
        ⟨payload_pos hempty, by rwa [length_payload]⟩
      have hwithin : Within none (payload texts).length := by simp [Within]
      have hmem : [] ∈ texts :: arrays ↔ [] ∈ arrays := by simp [Ne.symm hempty]
      rw [LengthPrefixed.feedAll_frame hframable hwithin, ih harrays,
        List.takeWhile_cons_of_pos (by simpa using hempty)]
      simp [Decoder.Run.prepend, hmem]

/-- What the octets of some arrays come to for the streaming decoder. -/
structure ReadsArrays (arrays : List (List (Option String)))
    (run : Decoder.Run Streaming (List String)) : Prop where
  /-- The arrays are read back up to the first that is empty. -/
  items : run.items.toList = (arrays.takeWhile (· ≠ [])).map readBack
  /-- An empty array is an error. -/
  error : run.error = if [] ∈ arrays then some (.invalidLength 0) else none
  /-- The stream may end there. -/
  finish : Decoder.finish run.decoder = .ok ()

theorem readsArrays {arrays : List (List (Option String))}
    (h : ∀ texts ∈ arrays, payloadSize texts ≤ Length.greatest) :
    ReadsArrays arrays
      (feedAll ({} : Streaming) (arrays.map fun texts => frame (payload texts)).flatten) := by
  have hparse : parseAll ((arrays.takeWhile (· ≠ [])).map payload) =
      ((arrays.takeWhile (· ≠ [])).map readBack, none) :=
    parseAll_payloads fun texts hmem => by
      simpa using List.all_eq_true.1 List.all_takeWhile texts hmem
  have hrun := Streaming.feedAll_eq (withLimit none)
    (arrays.map fun texts => frame (payload texts)).flatten
  rw [feedAll_frames h] at hrun
  obtain ⟨hitems, herror, hdecoder⟩ := hrun
  rw [hparse] at hitems herror hdecoder
  refine ⟨hitems, herror, ?_⟩
  rw [show ({} : Streaming) = ⟨withLimit none⟩ from rfl, hdecoder rfl]
  rfl

/-- The answers of a stream of arrays: the arrays that are read back, and after an empty array
    the error, else the end. -/
def arraysOutcome {ε : Type} [FromFrame ε] (arrays : List (List (Option String))) :
    Outcome (List String) ε :=
  ⟨(arrays.takeWhile (· ≠ [])).map readBack,
    if [] ∈ arrays then .failed (FromFrame.ofFrame (.invalidLength 0)) else .ended⟩

theorem outcome_of_readsArrays {ε : Type} [FromFrame ε] {arrays : List (List (Option String))}
    {wire : Bytes} (h : ReadsArrays arrays (feedAll ({} : Streaming) wire)) :
    Decoder.outcome (ε := ε) ({} : Streaming) (wire, none) = arraysOutcome arrays := by
  by_cases hempty : [] ∈ arrays
  · simp only [Decoder.outcome, h.items, h.error, arraysOutcome, if_pos hempty]
  · simp only [Decoder.outcome, h.items, h.error, arraysOutcome, if_neg hempty, Decoder.closing,
      h.finish]

/-- **Arrays of texts survive the wire.**

    - An array that fits in a frame is written, and the whole-frame reader reads it back: each
      element as its pieces between the NUL characters, so the array itself if there are none.
    - An array that does not fit is refused, with the size of its payload.
    - The frames of any arrays that fit, in whatever chunks they come, make a streaming decoder
      without a limit deliver them up to the first that is empty, which is an error. A framed
      stream over it answers the same. -/
theorem arrays_round_trip {ε : Type} [FromFrame ε] :
    (∀ texts : List (Option String), payloadSize texts ≤ Length.greatest →
      ∃ frame, encode texts = .ok frame ∧ decodeFrame frame = .ok (readBack texts)) ∧
    (∀ texts : List (Option String), (∀ text ∈ texts, '\x00' ∉ (text.getD "").toList) →
      readBack texts = texts.map (·.getD "")) ∧
    (∀ texts : List (Option String), Length.greatest < payloadSize texts →
      encode texts = .error (.frameTooLarge (payloadSize texts) Length.greatest)) ∧
    (∀ arrays : List (List (Option String)),
      (∀ texts ∈ arrays, payloadSize texts ≤ Length.greatest) →
      ∃ frames, arrays.mapM encode = .ok frames ∧
        (∀ chunks : List Bytes, chunks.flatten = frames.flatten →
          ReadsArrays arrays (Decoder.decodeChunks ({} : Streaming) chunks)) ∧
        ∀ source : Script Bytes ε, Script.carried source.answers = (frames.flatten, none) →
          Source.Answers (FramedStream.new source ({} : Streaming)) (arraysOutcome arrays)) := by
  have hnew : LawfulDecoder.Inv ({} : Streaming) := LengthPrefixed.wellFormed_withLimit none
  refine ⟨?_, ?_, ?_, ?_⟩
  · intro texts h
    exact ⟨_, encode_of_le h, decodeFrame_of_le h⟩
  · intro texts h
    exact readBack_of_nul_notMem h
  · intro texts h
    exact encode_of_lt h
  · intro arrays h
    refine ⟨_, mapM_encode_of_le h, ?_, ?_⟩
    · intro chunks hchunks
      rw [Decoder.decodeChunks_eq hnew, hchunks]
      exact readsArrays h
    · intro source hsource
      have hanswers := FramedStream.answers_new hnew source
      rwa [hsource, outcome_of_readsArrays (readsArrays h)] at hanswers

/-- An array with a NUL inside a text and an absent element, another one, and an empty one
    behind them, in chunks that are cut inside a prefix and inside a character. -/
theorem arrays_round_trip_of_cut_character :
    let arrays : List (List (Option String)) := [[some "a\x00b", none], [some "é"], []]
    let chunks : List Bytes :=
      [[0, 0], [0, 5, 97, 0, 98, 0, 0, 0, 0, 0, 3, 0xC3], [0xA9, 0, 0, 0, 0, 0]]
    let run := Decoder.decodeChunks ({} : Streaming) chunks
    decodeFrame [0, 0, 0, 5, 97, 0, 98, 0, 0] = .ok ["a", "b", ""] ∧
    (∀ texts ∈ arrays, payloadSize texts ≤ Length.greatest) ∧
    run.items.toList = [["a", "b", ""], ["é"]] ∧ run.error = some (.invalidLength 0) := by
  intro arrays chunks run
  have hfit : ∀ texts ∈ arrays, payloadSize texts ≤ Length.greatest := by decide +kernel
  obtain ⟨hwhole, -, -, hstream⟩ := arrays_round_trip (ε := StreamError String)
  obtain ⟨frame, hframe, hread⟩ := hwhole [some "a\x00b", none] (by decide +kernel)
  obtain ⟨frames, hframes, hchunks, -⟩ := hstream arrays hfit
  have hwritten : encode [some "a\x00b", none] = .ok [0, 0, 0, 5, 97, 0, 98, 0, 0] := by
    rfl
  have hall : arrays.mapM encode = .ok [[0, 0, 0, 5, 97, 0, 98, 0, 0], [0, 0, 0, 3, 0xC3, 0xA9, 0],
      [0, 0, 0, 0]] := by rfl
  cases hframe.symm.trans hwritten
  cases hframes.symm.trans hall
  have hrun := hchunks chunks rfl
  refine ⟨hread.trans (congrArg _ (by decide +kernel)), hfit,
    hrun.items.trans (by decide +kernel), ?_⟩
  exact hrun.error

end StringArray

end Duplex
