import Duplex.Proofs.ArrayRoundTrip
import Duplex.Proofs.Grammar

/-! # The two readers of string arrays

  The whole-frame reader looks at all its octets at once; the streaming decoder gets them one
  after the other and does not know how many there will be. Both accept the same octets, the
  frame without a payload apart (`decodeFrame_eq_ok_iff`, `accepts_iff`). Where they do not
  accept, the first octets settle what both have to say: a prefix that is unfinished or refused,
  a payload that is unfinished, complete, or followed by more.
-/

namespace Duplex.StringArray

open Decoder (feedAll)
open LengthPrefixed (Framable frame withLimit missing)

/-- The length that the octets of a frame declare. -/
def declaredLength (f : Bytes) : Int := Length.decode (f.take Length.octets)

/-- The octets of a frame behind its prefix. -/
def body (f : Bytes) : Bytes := f.drop Length.octets

/-! ### The whole-frame reader -/

theorem decodeFrame_of_short {f : Bytes} (h : f.length < Length.octets) :
    decodeFrame f = .error (.incomplete Length.octets f.length) := if_pos h

/-- A frame with a payload is read as what its payload is parsed to. -/
theorem decodeFrame_framable {p : Bytes} (h : Framable p) : decodeFrame (frame p) = parse p := by
  rw [decodeFrame_frame h.2, if_neg (Nat.ne_of_gt h.1)]

/-- Octets with a prefix are that prefix and the octets behind it. -/
theorem exists_header {f : Bytes} (h : Length.octets ≤ f.length) :
    ∃ header rest, header.length = Length.octets ∧ f = header ++ rest ∧
      declaredLength f = Length.decode header ∧ body f = rest := by
  obtain ⟨header, rest, hheader, rfl⟩ := LengthPrefixed.exists_append_of_le_length h
  refine ⟨header, rest, hheader, rfl, ?_, ?_⟩
  · rw [declaredLength, ← hheader, List.take_left]
  · rw [body, ← hheader, List.drop_left]

/-- What it accepts: the frames whose payload is an array, and the frame without a payload. -/
theorem decodeFrame_eq_ok_iff {f : Bytes} (hf : f ≠ [0, 0, 0, 0]) (texts : List String) :
    decodeFrame f = .ok texts ↔ ∃ p, Framable p ∧ f = frame p ∧ parse p = .ok texts := by
  constructor
  · intro h
    by_cases hshort : f.length < Length.octets
    · rw [decodeFrame_of_short hshort] at h
      cases h
    obtain ⟨header, rest, hheader, rfl, -, -⟩ := exists_header (Nat.not_lt.1 hshort)
    rw [decodeFrame_append hheader] at h
    split at h
    · cases h
    split at h
    · cases h
    split at h
    · cases h
    · next hnot hle hge =>
      have hdeclared : Length.decode header = rest.length := by omega
      obtain ⟨hencode, hgreatest⟩ := Length.encode_of_decode hheader hdeclared
      have hframe : header ++ rest = frame rest := by rw [frame, hencode]
      split at h
      · -- the frame is the one without a payload
        next hzero =>
        have hrest : rest = [] := List.eq_nil_of_length_eq_zero (by omega)
        subst hrest
        exact absurd hframe hf
      · next hzero =>
        exact ⟨rest, ⟨by omega, hgreatest⟩, hframe, h⟩
  · rintro ⟨p, hframable, rfl, hparse⟩
    rw [decodeFrame_framable hframable, hparse]

/-! ### The streaming decoder -/

/-- A run without payloads is that of the frame decoder. -/
theorem Streaming.RunsAs.of_no_items {run : Decoder.Run Streaming (List String)}
    {error : Option FrameError} {d : LengthPrefixed} (h : RunsAs run ⟨#[], error, d⟩) :
    run.items = #[] ∧ run.error = error ∧ run.decoder = ⟨d⟩ := by
  refine ⟨?_, h.error, h.decoder rfl⟩
  exact Array.toList_eq_nil_iff.1 h.items

/-- A prefix that declares no payload, or less than none, ends a run. -/
theorem runsAs_notPositive {header : Bytes} (hheader : header.length = Length.octets)
    (hdeclared : Length.decode header ≤ 0) (rest : Bytes) :
    let run := feedAll ({} : Streaming) (header ++ rest)
    run.items = #[] ∧ run.error = some (.invalidLength (Length.decode header)) := by
  intro run
  have hrun : Streaming.RunsAs run (feedAll (withLimit none) (header ++ rest)) :=
    Streaming.feedAll_eq (withLimit none) (header ++ rest)
  rw [LengthPrefixed.feedAll_refusedTail (.notPositive hheader hdeclared)] at hrun
  exact ⟨hrun.of_no_items.1, hrun.of_no_items.2.1⟩

/-- What is held back of a prefix. -/
theorem run_of_short {f : Bytes} (h : f.length < Length.octets) :
    let run := feedAll ({} : Streaming) f
    run.items = #[] ∧ run.error = none ∧
      Decoder.finish run.decoder = missing Length.octets f.length := by
  intro run
  have hrun : Streaming.RunsAs run (feedAll (withLimit none) f) :=
    Streaming.feedAll_eq (withLimit none) f
  have hframes : feedAll (withLimit none) f =
      ⟨#[], none, (⟨none, f.toArray, none⟩ : LengthPrefixed)⟩ :=
    LengthPrefixed.feedAll_unfinished h
  rw [hframes] at hrun
  obtain ⟨hitems, herror, hdecoder⟩ := hrun.of_no_items
  refine ⟨hitems, herror, ?_⟩
  rw [hdecoder]
  exact LengthPrefixed.finish_eq_missing none f

/-- What is held back of a payload. -/
theorem run_of_unfinished {header : Bytes} {n : Nat} (hheader : header.length = Length.octets)
    (hdeclared : Length.decode header = n) {rest : Bytes} (hlt : rest.length < n) :
    let run := feedAll ({} : Streaming) (header ++ rest)
    run.items = #[] ∧ run.error = none ∧
      Decoder.finish run.decoder = missing n rest.length := by
  intro run
  have hpos : 0 < n := Nat.zero_lt_of_lt hlt
  have hwithin : LengthPrefixed.Within none n := by simp [LengthPrefixed.Within]
  have hrun : Streaming.RunsAs run (feedAll (withLimit none) (header ++ rest)) :=
    Streaming.feedAll_eq (withLimit none) (header ++ rest)
  have hheld : feedAll ⟨some n, #[], none⟩ rest =
      ⟨#[], none, (⟨some n, rest.toArray, none⟩ : LengthPrefixed)⟩ :=
    LengthPrefixed.feedAll_unfinished hlt
  have hframes : feedAll (withLimit none) (header ++ rest) =
      ⟨#[], none, ⟨some n, rest.toArray, none⟩⟩ := by
    rw [Decoder.feedAll_append, LengthPrefixed.feedAll_header hheader, hdeclared,
      LengthPrefixed.payloadLength_of_within hpos hwithin, Decoder.Run.resume_of_ok rfl, hheld]
    rfl
  rw [hframes] at hrun
  obtain ⟨hitems, herror, hdecoder⟩ := hrun.of_no_items
  refine ⟨hitems, herror, ?_⟩
  rw [hdecoder]
  exact LengthPrefixed.finish_eq_missing (some n) rest

/-- A single frame is parsed. -/
theorem run_of_frame {p : Bytes} (h : Framable p) :
    Streaming.RunsAs (feedAll ({} : Streaming) (frame p)) ⟨#[p], none, withLimit none⟩ := by
  have hrun := Streaming.feedAll_eq (withLimit none) (frame p)
  have hframes := LengthPrefixed.feedAll_frame h
    (show LengthPrefixed.Within none p.length by simp [LengthPrefixed.Within]) []
  rw [List.append_nil] at hframes
  rw [hframes] at hrun
  exact hrun

theorem parseAll_eq_single_iff {payloads : List Bytes} {texts : List String} :
    parseAll payloads = ([texts], none) ↔ ∃ p, payloads = [p] ∧ parse p = .ok texts := by
  constructor
  · intro h
    cases payloads with
    | nil => cases h
    | cons p rest =>
      cases hparse : parse p with
      | error e => simp [parseAll, hparse] at h
      | ok first =>
        rw [parseAll_of_ok hparse] at h
        cases rest with
        | nil =>
          cases h
          exact ⟨p, rfl, hparse⟩
        | cons q rest =>
          cases hq : parse q with
          | error e => simp [parseAll, hq] at h
          | ok second => simp [parseAll_of_ok hq] at h
  · rintro ⟨p, rfl, hparse⟩
    rw [parseAll_of_ok hparse]
    rfl

/-- What it accepts as one array and nothing else: the frames whose payload is that array. -/
theorem accepts_iff (f : Bytes) (texts : List String) :
    let run := feedAll ({} : Streaming) f
    (run.items = #[texts] ∧ run.error = none ∧ run.decoder.frames.atBoundary = true) ↔
      ∃ p, Framable p ∧ f = frame p ∧ parse p = .ok texts := by
  intro run
  constructor
  · rintro ⟨hitems, herror, hboundary⟩
    have hrun : Streaming.RunsAs run (feedAll (withLimit none) f) :=
      Streaming.feedAll_eq (withLimit none) f
    -- the octets are whole frames and a tail, and only an empty tail ends at a frame boundary
    obtain ⟨payloads, frames, tail, hreading, htail⟩ := LengthPrefixed.exists_reading none f
    rw [hreading.feedAll_eq] at hrun
    rcases htail with ⟨held, htail⟩ | ⟨e, htail⟩
    · obtain ⟨hnone, hok, -, hends⟩ := LengthPrefixed.feedAll_unfinishedTail htail
      have hall : parseAll payloads = ([texts], none) := by
        have hread := hrun.items
        have hfailed := hrun.error
        simp only [Decoder.Run.items_prepend, Decoder.Run.error_prepend, hnone, hok, hitems, herror,
          Array.append_empty, Option.or_none] at hread hfailed
        exact Prod.ext hread.symm hfailed.symm
      obtain ⟨p, rfl, hparse⟩ := parseAll_eq_single_iff.1 hall
      have hdecoder : run.decoder = ⟨(feedAll (withLimit none) tail).decoder⟩ := by
        apply hrun.decoder
        simp only [Decoder.Run.items_prepend, hnone, Array.append_empty, hall]
      rw [hdecoder] at hboundary
      obtain rfl : tail = [] := hends.1 hboundary
      obtain ⟨hframable, hframes⟩ := LengthPrefixed.mapM_encode_eq_ok_iff.1 hreading.encoded
      refine ⟨p, hframable p (List.mem_singleton_self p), ?_, hparse⟩
      rw [hreading.split, hframes]
      simp
    · -- a refused prefix is an error of the run
      have hfailed := hrun.error
      rw [herror, Decoder.Run.error_prepend, LengthPrefixed.feedAll_refusedTail htail,
        Option.or_some] at hfailed
      cases hfailed
  · rintro ⟨p, hframable, rfl, hparse⟩
    obtain ⟨hitems, herror, hdecoder⟩ := run_of_frame hframable
    have hall : parseAll [p] = ([texts], none) := parseAll_eq_single_iff.2 ⟨p, rfl, hparse⟩
    simp only [hall] at hitems herror hdecoder
    refine ⟨Array.toList_inj.1 hitems, herror, ?_⟩
    rw [show run.decoder = _ from hdecoder trivial]
    rfl

/-! ### Both -/

/-- How the whole-frame reader on the octets `f` and a run of the streaming decoder over them
    compare. -/
structure ReadAlike (f : Bytes) (run : Decoder.Run Streaming (List String)) : Prop where
  /-- They accept the same arrays. Only the frame without a payload is left out. -/
  accepted : f ≠ [0, 0, 0, 0] → ∀ texts, decodeFrame f = .ok texts ↔
    run.items = #[texts] ∧ run.error = none ∧ run.decoder.frames.atBoundary = true
  /-- Both refuse a negative length. -/
  negative : Length.octets ≤ f.length → declaredLength f < 0 →
    decodeFrame f = .error (.invalidLength (declaredLength f)) ∧
    run.items = #[] ∧ run.error = some (.invalidLength (declaredLength f))
  /-- For a single frame they have the same error, that of its payload. -/
  single : Length.octets ≤ f.length → 0 < declaredLength f →
    declaredLength f = (body f).length → ∀ e,
    (decodeFrame f = .error e ↔ parse (body f) = .error e) ∧
    (run.error = some e ↔ parse (body f) = .error e)
  /-- An unfinished prefix is incomplete; to the streaming decoder, unless it is empty. -/
  header : f.length < Length.octets →
    decodeFrame f = .error (.incomplete Length.octets f.length) ∧
    run.items = #[] ∧ run.error = none ∧
    Decoder.finish run.decoder =
      if f.length = 0 then .ok () else .error (.incomplete Length.octets f.length)
  /-- An unfinished payload is incomplete; to the streaming decoder, unless it is empty. -/
  payload : Length.octets ≤ f.length → (body f).length < declaredLength f →
    decodeFrame f = .error (.incomplete (declaredLength f).toNat (body f).length) ∧
    run.items = #[] ∧ run.error = none ∧
    Decoder.finish run.decoder =
      if (body f).length = 0 then .ok ()
      else .error (.incomplete (declaredLength f).toNat (body f).length)
  /-- The whole-frame reader counts the octets behind the frame. -/
  excess : Length.octets ≤ f.length → 0 ≤ declaredLength f →
    declaredLength f < (body f).length →
    decodeFrame f = .error (.trailingBytes ((body f).length - (declaredLength f).toNat))

theorem single_of_frame {p : Bytes} (h : Framable p) (e : FrameError) :
    (decodeFrame (frame p) = .error e ↔ parse p = .error e) ∧
    ((feedAll ({} : Streaming) (frame p)).error = some e ↔ parse p = .error e) := by
  rw [decodeFrame_framable h, (run_of_frame h).error]
  refine ⟨Iff.rfl, ?_⟩
  cases hparse : parse p with
  | error e' => simp [parseAll, hparse]
  | ok texts => simp [parseAll, hparse]

/-- **The two readers of string arrays agree.** The octets are any octets, and a new streaming
    decoder without a limit gets them in any chunks. -/
theorem readers_agree (chunks : List Bytes) :
    ReadAlike chunks.flatten (Decoder.decodeChunks ({} : Streaming) chunks) := by
  have hnew : LawfulDecoder.Inv ({} : Streaming) := LengthPrefixed.wellFormed_withLimit none
  rw [Decoder.decodeChunks_eq hnew]
  generalize chunks.flatten = f
  constructor
  case accepted =>
    intro hf texts
    exact (decodeFrame_eq_ok_iff hf texts).trans (accepts_iff f texts).symm
  case negative =>
    intro hlength hnegative
    obtain ⟨header, rest, hheader, rfl, hdeclared, -⟩ := exists_header hlength
    rw [hdeclared] at hnegative ⊢
    refine ⟨?_, runsAs_notPositive hheader (Int.le_of_lt hnegative) rest⟩
    rw [decodeFrame_append hheader, if_pos hnegative]
  case single =>
    intro hlength hpos hbody e
    obtain ⟨header, rest, hheader, rfl, hdeclared, hrest⟩ := exists_header hlength
    rw [hdeclared, hrest] at hbody
    rw [hdeclared] at hpos
    obtain ⟨hencode, hgreatest⟩ := Length.encode_of_decode hheader hbody
    have hframe : header ++ rest = frame rest := by rw [frame, hencode]
    rw [hrest, hframe]
    exact single_of_frame ⟨by omega, hgreatest⟩ e
  case header =>
    intro hshort
    exact ⟨decodeFrame_of_short hshort, run_of_short hshort⟩
  case payload =>
    intro hlength hlt
    obtain ⟨header, rest, hheader, rfl, hdeclared, hrest⟩ := exists_header hlength
    rw [hdeclared, hrest] at hlt ⊢
    have hnat : Length.decode header = (Length.decode header).toNat := by omega
    refine ⟨?_, run_of_unfinished hheader hnat (by omega)⟩
    rw [decodeFrame_append hheader, if_neg (by omega), if_pos (by omega)]
  case excess =>
    intro hlength hnonneg hlt
    obtain ⟨header, rest, hheader, rfl, hdeclared, hrest⟩ := exists_header hlength
    rw [hdeclared] at hnonneg
    rw [hdeclared, hrest] at hlt ⊢
    rw [decodeFrame_append hheader, if_neg (by omega), if_neg (by omega), if_pos (by omega)]

end Duplex.StringArray
