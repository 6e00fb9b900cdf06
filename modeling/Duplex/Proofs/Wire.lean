import Duplex.Proofs.Frames
import Duplex.Proofs.Framings

/-! # What the encoders write

  A wire is what an encoder has written for some messages, one after the other. Its decoder
  reads it, and each part of it from the start, without an error: a part may end inside a
  message, but that is for `finish` to say (`finish_eq`).
-/

namespace Duplex

open Decoder (feedAll)

namespace Decoder

variable {δ ι : Type} [Decoder δ ι]

/-- What is read without an error is read so up to any point. -/
theorem error_of_prefix {d : δ} {bytes more : Bytes}
    (h : (feedAll d (bytes ++ more)).error = none) :
    (feedAll d bytes).error = none := by
  cases herror : (feedAll d bytes).error with
  | none => rfl
  | some e =>
    rw [feedAll_append, Run.resume_of_error herror, herror] at h
    exact h

end Decoder

/-- A decoder of texts has nothing to object to. -/
theorem NulString.error_feedAll (d : NulString) (bytes : Bytes) :
    (feedAll d bytes).error = none := by
  induction bytes generalizing d with
  | nil => rfl
  | cons b rest ih =>
    by_cases hb : b = nul
    · have hfeed : Decoder.feed d b = (.ok (some (Utf8.decode d.pending.toList)), {}) := if_pos hb
      rw [Decoder.feedAll_cons_of_ok hfeed]
      exact ih _
    · have hfeed : Decoder.feed d b = (.ok none, ⟨d.pending.push b⟩) := if_neg hb
      rw [Decoder.feedAll_cons_of_ok hfeed]
      exact ih _

namespace StringArray

open LengthPrefixed (Framable Within frame)

/-! ### Arrays of texts -/

/-- The octets of the texts of an array, an absent one being written like an empty one. -/
def payload (texts : List (Option String)) : Bytes :=
  texts.flatMap fun text => NulString.encode (text.getD "")

theorem toList_add (e : Encoder) (text : Option String) :
    (e.add text).buffer.toList = e.buffer.toList ++ NulString.encode (text.getD "") := by
  cases text with
  | none => simp [Encoder.add, Encoder.pushNull, NulString.encode, Utf8.encode]
  | some text => simp [Encoder.add, Encoder.push, NulString.encode]

theorem toList_foldl_add (e : Encoder) (texts : List (Option String)) :
    (texts.foldl Encoder.add e).buffer.toList = e.buffer.toList ++ payload texts := by
  induction texts generalizing e with
  | nil => simp [payload]
  | cons text texts ih =>
    rw [List.foldl_cons, ih, toList_add, List.append_assoc]
    rfl

/-- The encoder writes the texts behind the length of their octets. -/
theorem encode_eq (texts : List (Option String)) :
    encode texts =
      (LengthPrefixed.header (payload texts).length).map (· ++ payload texts) := by
  have hbuffer := toList_foldl_add {} texts
  have hdrop : (texts.foldl Encoder.add {}).buffer.toList.drop Length.octets = payload texts := by
    rw [hbuffer]
    rfl
  have hlength : (texts.foldl Encoder.add {}).payloadLen = (payload texts).length := by
    rw [Encoder.payloadLen, ← Array.length_toList, ← List.length_drop, hdrop]
  rw [encode, Encoder.finish, hlength, hdrop]

theorem payload_pos {texts : List (Option String)} (h : texts ≠ []) :
    0 < (payload texts).length := by
  cases texts with
  | nil => exact absurd rfl h
  | cons text texts =>
    rw [payload, List.flatMap_cons, NulString.encode]
    simp only [List.length_append, List.length_singleton]
    omega

/-- What it writes for an array that is not empty is a frame. -/
theorem encode_eq_ok {texts : List (Option String)} {bytes : Bytes} (hne : texts ≠ [])
    (h : encode texts = .ok bytes) : Framable (payload texts) ∧ bytes = frame (payload texts) := by
  rw [encode_eq] at h
  by_cases hle : (payload texts).length ≤ Length.greatest
  · rw [LengthPrefixed.header, if_pos hle] at h
    cases h
    exact ⟨⟨payload_pos hne, hle⟩, rfl⟩
  · rw [LengthPrefixed.header, if_neg hle] at h
    cases h

theorem mapM_encode_eq_ok {arrays : List (List (Option String))} {frames : List Bytes}
    (hne : ∀ texts ∈ arrays, texts ≠ []) (h : arrays.mapM encode = .ok frames) :
    (∀ p ∈ arrays.map payload, Framable p) ∧ frames = (arrays.map payload).map frame := by
  induction arrays generalizing frames with
  | nil =>
    cases h
    exact ⟨by simp, rfl⟩
  | cons texts arrays ih =>
    obtain ⟨htexts, harrays⟩ := List.forall_mem_cons.1 hne
    rw [List.mapM_cons] at h
    cases hfirst : encode texts with
    | error e => rw [hfirst] at h; cases h
    | ok first =>
      cases hothers : arrays.mapM encode with
      | error e => rw [hfirst, hothers] at h; cases h
      | ok others =>
        rw [hfirst, hothers] at h
        cases h
        obtain ⟨hframable, rfl⟩ := encode_eq_ok htexts hfirst
        obtain ⟨hall, rfl⟩ := ih harrays hothers
        exact ⟨List.forall_mem_cons.2 ⟨hframable, hall⟩, rfl⟩

/-- A payload ends with the NUL behind the last text. -/
theorem exists_payload_concat {texts : List (Option String)} (h : texts ≠ []) :
    ∃ bytes, payload texts = bytes ++ [nul] := by
  obtain ⟨most, last, rfl⟩ : ∃ most last, texts = most ++ [last] :=
    ⟨_, _, (List.dropLast_concat_getLast h).symm⟩
  refine ⟨payload most ++ Utf8.encode (last.getD ""), ?_⟩
  simp [payload, NulString.encode]

/-- The payload of an array that is not empty can be parsed. -/
theorem exists_parse_payload {texts : List (Option String)} (h : texts ≠ []) :
    ∃ parsed, parse (payload texts) = .ok parsed := by
  obtain ⟨bytes, hbytes⟩ := exists_payload_concat h
  rw [hbytes]
  exact ⟨_, if_pos List.getLast?_concat⟩

/-- The arrays of some payloads, up to the first payload that has none, and its error. -/
def parseAll : List Bytes → List (List String) × Option FrameError
  | [] => ([], none)
  | p :: rest =>
    match parse p with
    | .error e => ([], some e)
    | .ok texts => (texts :: (parseAll rest).1, (parseAll rest).2)

theorem parseAll_of_ok {p : Bytes} {texts : List String} (h : parse p = .ok texts)
    (rest : List Bytes) :
    parseAll (p :: rest) = (texts :: (parseAll rest).1, (parseAll rest).2) := by
  simp only [parseAll, h]

theorem parseAll_error {payloads : List Bytes}
    (h : ∀ p ∈ payloads, ∃ texts, parse p = .ok texts) : (parseAll payloads).2 = none := by
  induction payloads with
  | nil => rfl
  | cons p rest ih =>
    obtain ⟨⟨texts, hp⟩, hrest⟩ := List.forall_mem_cons.1 h
    rw [parseAll_of_ok hp]
    exact ih hrest

/-- What a run of frames comes to for an array decoder: the payloads are parsed, and the first
    that has no array ends the run. -/
structure Streaming.RunsAs (run : Decoder.Run Streaming (List String))
    (frames : Decoder.Run LengthPrefixed Bytes) : Prop where
  items : run.items.toList = (parseAll frames.items.toList).1
  error : run.error = (parseAll frames.items.toList).2.or frames.error
  decoder : (parseAll frames.items.toList).2 = none → run.decoder = ⟨frames.decoder⟩

theorem Streaming.feedAll_eq (d : LengthPrefixed) (bytes : Bytes) :
    RunsAs (feedAll (Streaming.mk d) bytes) (feedAll d bytes) := by
  induction bytes generalizing d with
  | nil => exact ⟨rfl, rfl, fun _ => rfl⟩
  | cons b rest ih =>
    have hstep : Decoder.feed (Streaming.mk d) b =
        ((Decoder.feed d b).1.bind Streaming.parseItem, ⟨(Decoder.feed d b).2⟩) := rfl
    simp only [feedAll, hstep]
    rcases Decoder.feed d b with ⟨e | _ | p, d₁⟩
    · exact ⟨rfl, rfl, fun _ => rfl⟩
    · simpa [Except.bind, Streaming.parseItem] using ih d₁
    · -- the octet completes a payload, which has an array or ends the run
      obtain ⟨hitems, herror, hdecoder⟩ := ih d₁
      cases hparse : parse p with
      | error e =>
        have hall : parseAll (p :: (feedAll d₁ rest).items.toList) = ([], some e) := by
          simp only [parseAll, hparse]
        constructor <;> simp [Except.bind, Streaming.parseItem, hparse, hall, Except.map]
      | ok texts =>
        have hall := parseAll_of_ok hparse (feedAll d₁ rest).items.toList
        constructor <;>
          simp [Except.bind, Streaming.parseItem, hparse, hall, Except.map, hitems, herror]
        exact hdecoder

/-- Where all payloads of a run can be parsed, the run over them delivers arrays. -/
theorem Streaming.error_feedAll {d : LengthPrefixed} {bytes : Bytes}
    (herror : (feedAll d bytes).error = none)
    (hparse : ∀ p ∈ (feedAll d bytes).items, ∃ parsed, parse p = .ok parsed) :
    (feedAll (Streaming.mk d) bytes).error = none := by
  have hall : (parseAll (feedAll d bytes).items.toList).2 = none :=
    parseAll_error fun p hp => hparse p (Array.mem_toList_iff.1 hp)
  rw [(Streaming.feedAll_eq d bytes).error, hall, herror]
  rfl

end StringArray

/-! ### Wires -/

namespace Framing

open LengthPrefixed (Within)

/-- The wires that a new decoder is meant for: texts; payloads of frames within its limit; or
    arrays, none of them empty, within its limit. -/
inductive WireOf : SoundDecoder Framing → Bytes → Prop where
  | texts (ts : List String) : WireOf newTexts (ts.map NulString.encode).flatten
  | frames {limit : Option Nat} {payloads frames : List Bytes}
      (hencode : payloads.mapM LengthPrefixed.encode = .ok frames)
      (hwithin : ∀ payload ∈ payloads, Within limit payload.length) :
      WireOf (newFrames limit) frames.flatten
  | arrays {limit : Option Nat} {arrays : List (List (Option String))} {frames : List Bytes}
      (hencode : arrays.mapM StringArray.encode = .ok frames)
      (hne : ∀ texts ∈ arrays, texts ≠ [])
      (hwithin : ∀ texts ∈ arrays, Within limit (StringArray.payload texts).length) :
      WireOf (newArrays limit) frames.flatten

theorem feedAll_of_frames {limit : Option Nat} {payloads : List Bytes}
    (h : ∀ payload ∈ payloads, LengthPrefixed.Framable payload)
    (hwithin : ∀ payload ∈ payloads, Within limit payload.length) :
    feedAll (LengthPrefixed.withLimit limit) (payloads.map LengthPrefixed.frame).flatten =
      ⟨payloads.toArray, none, .withLimit limit⟩ := by
  have hrun := LengthPrefixed.feedAll_frames h hwithin []
  rw [List.append_nil] at hrun
  rw [hrun]
  simp [feedAll, Decoder.Run.prepend]

theorem WireOf.error_eq_none {d : SoundDecoder Framing} {wire : Bytes} (h : WireOf d wire) :
    (feedAll d.1 wire).error = none := by
  cases h with
  | texts ts =>
    rw [show newTexts.1 = Framing.texts {} from rfl, feedAll_wrap fun _ _ => rfl]
    exact NulString.error_feedAll {} _
  | @frames limit payloads frames hencode hwithin =>
    obtain ⟨hframable, rfl⟩ := LengthPrefixed.mapM_encode_eq_ok_iff.1 hencode
    rw [show (newFrames limit).1 = Framing.frames (.withLimit limit) from rfl,
      feedAll_wrap fun _ _ => rfl, feedAll_of_frames hframable hwithin]
  | @arrays limit arrays frames hencode hne hwithin =>
    obtain ⟨hframable, rfl⟩ := StringArray.mapM_encode_eq_ok hne hencode
    have hwithin' : ∀ p ∈ arrays.map StringArray.payload, Within limit p.length := by
      simpa using hwithin
    have hrun := feedAll_of_frames hframable hwithin'
    rw [show (newArrays limit).1 = Framing.arrays ⟨.withLimit limit⟩ from rfl,
      feedAll_wrap fun _ _ => rfl]
    apply StringArray.Streaming.error_feedAll
    · rw [hrun]
    · rw [hrun]
      intro p hp
      obtain ⟨texts, htexts, rfl⟩ : ∃ texts ∈ arrays, StringArray.payload texts = p := by
        simpa using hp
      exact StringArray.exists_parse_payload (hne texts htexts)

/-- What is missing where a stream ends inside a message. -/
def unfinished : Framing → FrameError
  | texts d => .noTermination d.pending.size
  | frames d | arrays ⟨d⟩ => .incomplete (d.declared.getD Length.octets) d.pending.size

/-- A stream may end where nothing is held back. -/
theorem finish_eq (d : Framing) :
    Decoder.finish d = if d.pendingLen = 0 then .ok () else .error d.unfinished := by
  cases d with
  | texts d | frames d | arrays d =>
    simp only [Decoder.finish, finish, NulString.finish, LengthPrefixed.finish,
      Array.isEmpty_iff_size_eq_zero]
    rfl

end Framing

end Duplex
