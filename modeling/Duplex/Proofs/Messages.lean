import Duplex.Proofs.Truncation
import Duplex.Proofs.WholeFrames

/-! # Encoded messages

  The three encoders and the decoders that go with them, message by message. The octets of a message
  make its decoder deliver that message and be as new, so those of many messages make it deliver all
  of them. Of a message that was cut the decoder has something to say at the end, unless the cut is
  where it holds nothing back: in front of the message, or right after a length prefix
  (`feedAll_cut_message`).
-/

namespace Duplex

open Decoder (feedAll)

/-! ### Texts -/

/-- No octet of a text is NUL, unless a character of it is. -/
theorem Utf8.nul_notMem_encode {text : String} (h : '\x00' ∉ text.toList) :
    nul ∉ Utf8.encode text := by
  intro hmem
  obtain ⟨c, hc, hnul⟩ := List.mem_flatMap.1 hmem
  refine nul_notMem_encodeChar ?_ hnul
  rintro rfl
  exact h hc

namespace NulString

/-- Octets without a NUL are held back. -/
theorem feedAll_of_notMem {bytes : Bytes} (h : nul ∉ bytes) (pending : Array UInt8) :
    feedAll (NulString.mk pending) bytes =
      ⟨#[], none, (⟨pending ++ bytes⟩ : NulString)⟩ := by
  induction bytes generalizing pending with
  | nil => simp [feedAll]
  | cons b rest ih =>
    obtain ⟨hb, hrest⟩ := not_or.1 (mt List.mem_cons.2 h)
    have hfeed : Decoder.feed (NulString.mk pending) b = (.ok none, ⟨pending.push b⟩) :=
      if_neg (Ne.symm hb)
    rw [Decoder.feedAll_cons_of_ok hfeed, ih hrest]
    simp

theorem feedAll_encode {text : String} (h : '\x00' ∉ text.toList) :
    feedAll ({} : NulString) (encode text) = ⟨#[text], none, ({} : NulString)⟩ := by
  have hfeed : Decoder.feed (NulString.mk ((#[] : Array UInt8) ++ Utf8.encode text)) nul =
      (.ok (some (Utf8.decode (Utf8.encode text))), ({} : NulString)) := by
    simp [Decoder.feed, feed]
  rw [encode, Decoder.feedAll_append, feedAll_of_notMem (Utf8.nul_notMem_encode h),
    Decoder.Run.resume_of_ok rfl, Decoder.feedAll_cons_of_ok hfeed, Utf8.decode_encode]
  rfl

/-- What is there of a text that was cut is held back. -/
theorem feedAll_take_encode {text : String} (h : '\x00' ∉ text.toList) {k : Nat}
    (hk : k < (encode text).length) :
    feedAll ({} : NulString) ((encode text).take k) =
      ⟨#[], none, (⟨((encode text).take k).toArray⟩ : NulString)⟩ := by
  have hle : k ≤ (Utf8.encode text).length := by
    rw [encode, List.length_append] at hk
    exact Nat.lt_succ_iff.1 hk
  rw [encode, List.take_append_of_le_length hle,
    feedAll_of_notMem fun hmem => Utf8.nul_notMem_encode h (List.mem_of_mem_take hmem)]
  simp

end NulString

/-! ### Arrays -/

/-- A decoder without a limit accepts payloads of any length. -/
theorem LengthPrefixed.within_none (n : Nat) : Within none n := by simp [Within]

namespace StringArray

open LengthPrefixed (Framable frame withLimit)

/-- The texts of an array none of which has a NUL, as they are read back. -/
theorem parse_payload_map_some {texts : List String} (hne : texts ≠ [])
    (hnul : ∀ text ∈ texts, '\x00' ∉ text.toList) :
    parse (payload (texts.map some)) = .ok texts := by
  have hback : readBack (texts.map some) = texts := by
    rw [readBack_of_nul_notMem (by simpa using hnul), List.map_map]
    exact List.map_id texts
  rw [parse_payload (by simpa using hne), hback]

/-- The run over the frame of an array delivers it. -/
theorem feedAll_frame {texts : List String} {p : Bytes} (h : Framable p)
    (hparse : parse p = .ok texts) :
    feedAll ({} : Streaming) (frame p) = ⟨#[texts], none, ({} : Streaming)⟩ := by
  have hall : parseAll [p] = ([texts], none) := parseAll_eq_single_iff.2 ⟨p, rfl, hparse⟩
  obtain ⟨hitems, herror, hdecoder⟩ := run_of_frame h
  simp only [hall] at hitems herror hdecoder
  generalize feedAll ({} : Streaming) (frame p) = run at hitems herror hdecoder
  obtain ⟨items, error, decoder⟩ := run
  obtain rfl : items = #[texts] := Array.toList_inj.1 hitems
  obtain rfl : error = none := herror
  obtain rfl : decoder = ⟨withLimit none⟩ := hdecoder trivial
  rfl

/-- The run over part of a frame is that of its frame decoder. -/
theorem feedAll_take_frame {p : Bytes} (h : Framable p) {k : Nat} (hk : k < (frame p).length) :
    let run := feedAll ({} : Streaming) ((frame p).take k)
    run.items = #[] ∧ run.error = none ∧
      Decoder.finish run.decoder = LengthPrefixed.shortfall p k := by
  intro run
  have hruns : Streaming.RunsAs run (feedAll (withLimit none) ((frame p).take k)) :=
    Streaming.feedAll_eq (withLimit none) ((frame p).take k)
  obtain ⟨hitems, herror, hfinish⟩ := LengthPrefixed.feedAll_take_frame none h
    (fun _ => LengthPrefixed.within_none p.length) hk
  generalize feedAll (withLimit none) ((frame p).take k) = frames at hitems herror hfinish hruns
  obtain ⟨items, error, decoder⟩ := frames
  cases hitems
  cases herror
  obtain ⟨hitems, herror, hdecoder⟩ := hruns.of_no_items
  refine ⟨hitems, herror, ?_⟩
  rw [hdecoder]
  exact hfinish

end StringArray

/-! ### Messages -/

namespace Framing

/-- `Encoded d m bytes`: these octets are what is written for the message `m` in the framing that
    the new decoder `d`, which has no limit, is meant for. -/
inductive Encoded : SoundDecoder Framing → Message → Bytes → Prop where
  | text {t : String} (hnul : '\x00' ∉ t.toList) :
      Encoded newTexts (.text t) (NulString.encode t)
  | frame {payload bytes : Bytes} (hencode : LengthPrefixed.encode payload = .ok bytes) :
      Encoded (newFrames none) (.frame payload) bytes
  | array {texts : List String} {bytes : Bytes} (hne : texts ≠ [])
      (hnul : ∀ text ∈ texts, '\x00' ∉ text.toList)
      (hencode : StringArray.encode (texts.map some) = .ok bytes) :
      Encoded (newArrays none) (.array texts) bytes

end Framing

/-- What the end is to a decoder that has only the first `k` octets of a message: those of a text
    are all held back; of a frame, those of the prefix until it is complete, and then those of the
    payload. -/
def Message.shortfall : Message → Nat → Except FrameError Unit
  | .text _, k => if k = 0 then .ok () else .error (.noTermination k)
  | .frame payload, k => LengthPrefixed.shortfall payload k
  | .array texts, k => LengthPrefixed.shortfall (StringArray.payload (texts.map some)) k

namespace Framing

section encoded

variable {d : SoundDecoder Framing} {m : Message} {bytes : Bytes}

/-- The run over an encoded message delivers it, and the decoder is as new. -/
theorem Encoded.feedAll_eq (h : Encoded d m bytes) : feedAll d.1 bytes = ⟨#[m], none, d.1⟩ := by
  cases h with
  | text hnul =>
    rw [show newTexts.1 = Framing.texts {} from rfl, feedAll_wrap fun _ _ => rfl,
      NulString.feedAll_encode hnul, List.map_toArray]
    rfl
  | frame hencode =>
    obtain ⟨hframable, rfl⟩ := LengthPrefixed.encode_eq_ok_iff.1 hencode
    have hrun := LengthPrefixed.feedAll_frame hframable (LengthPrefixed.within_none _) []
    rw [List.append_nil] at hrun
    rw [show (newFrames none).1 = Framing.frames (.withLimit none) from rfl,
      feedAll_wrap fun _ _ => rfl, hrun]
    simp [feedAll]
  | array hne hnul hencode =>
    obtain ⟨hframable, rfl⟩ := StringArray.encode_eq_ok (by simpa using hne) hencode
    rw [show (newArrays none).1 = Framing.arrays {} from rfl, feedAll_wrap fun _ _ => rfl,
      StringArray.feedAll_frame hframable (StringArray.parse_payload_map_some hne hnul),
      List.map_toArray]
    rfl

/-- The run over encoded messages delivers them, and goes on. -/
theorem feedAll_encoded {messages : List Message} {parts : List Bytes}
    (h : List.Forall₂ (Encoded d) messages parts) (rest : Bytes) :
    feedAll d.1 (parts.flatten ++ rest) = (feedAll d.1 rest).prepend messages.toArray := by
  induction h with
  | nil => simp
  | cons hfirst _ ih =>
    rw [List.flatten_cons, List.append_assoc, Decoder.feedAll_append, hfirst.feedAll_eq,
      Decoder.Run.resume_of_ok rfl, ih, Decoder.Run.prepend_prepend]
    simp

/-- The run over a message that is cut delivers nothing, and `finish` says what is missing. -/
theorem Encoded.feedAll_take (h : Encoded d m bytes) {k : Nat} (hk : k < bytes.length) :
    let run := feedAll d.1 (bytes.take k)
    run.items = #[] ∧ run.error = none ∧ Decoder.finish run.decoder = m.shortfall k := by
  intro run
  cases h with
  | @text t hnul =>
    have hlength : ((NulString.encode t).take k).length = k :=
      List.length_take_of_le (Nat.le_of_lt hk)
    have hrun : run = ⟨#[], none, Framing.texts ⟨((NulString.encode t).take k).toArray⟩⟩ := by
      simp only [run]
      rw [show newTexts.1 = Framing.texts {} from rfl, feedAll_wrap fun _ _ => rfl,
        NulString.feedAll_take_encode hnul hk, Array.map_empty]
    refine ⟨by rw [hrun], by rw [hrun], ?_⟩
    rw [hrun, finish_eq]
    simp only [pendingLen, unfinished, Decoder.pendingLen, List.size_toArray, hlength]
    rfl
  | frame hencode =>
    obtain ⟨hframable, rfl⟩ := LengthPrefixed.encode_eq_ok_iff.1 hencode
    obtain ⟨hitems, herror, hfinish⟩ :=
      LengthPrefixed.feedAll_take_frame none hframable (fun _ => LengthPrefixed.within_none _) hk
    have hrun : run = _ := feedAll_wrap (fun _ _ => rfl) (LengthPrefixed.withLimit none) _
    rw [hrun]
    exact ⟨by simp [hitems], herror, hfinish⟩
  | array hne hnul hencode =>
    obtain ⟨hframable, rfl⟩ := StringArray.encode_eq_ok (by simpa using hne) hencode
    obtain ⟨hitems, herror, hfinish⟩ := StringArray.feedAll_take_frame hframable hk
    have hrun : run = _ := feedAll_wrap (fun _ _ => rfl) ({} : StringArray.Streaming) _
    rw [hrun]
    exact ⟨by simp [hitems], herror, hfinish⟩

/-- The run over encoded messages and part of one more. -/
theorem feedAll_cut_message {messages : List Message} {parts : List Bytes}
    (hsent : List.Forall₂ (Encoded d) messages parts) (hlast : Encoded d m bytes) {k : Nat}
    (hk : k < bytes.length) :
    let run := feedAll d.1 (parts.flatten ++ bytes.take k)
    run.items.toList = messages ∧ run.error = none ∧
      Decoder.finish run.decoder = m.shortfall k := by
  intro run
  obtain ⟨hitems, herror, hfinish⟩ := hlast.feedAll_take hk
  have hrun : run = _ := feedAll_encoded hsent (bytes.take k)
  rw [hrun]
  exact ⟨by simp [hitems], herror, hfinish⟩

/-- The decoder has nothing to say just where it holds nothing back. -/
theorem shortfall_eq_ok_iff {messages : List Message} {parts : List Bytes}
    (hsent : List.Forall₂ (Encoded d) messages parts) (hlast : Encoded d m bytes) {k : Nat}
    (hk : k < bytes.length) :
    m.shortfall k = .ok () ↔
      (feedAll d.1 (parts.flatten ++ bytes.take k)).decoder.pendingLen = 0 := by
  rw [← (feedAll_cut_message hsent hlast hk).2.2, finish_eq]
  split <;> simp_all

end encoded

end Framing

end Duplex
