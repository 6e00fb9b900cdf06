import Duplex.Proofs.Frames
import Mathlib.Data.List.GetD

/-! # Frames that are cut short

  A stream of frames may be cut at any octet. The cut falls between two frames, inside a
  prefix, right after one or inside a payload, and each place has its own outcome: the
  payloads in front of the cut are delivered, and `finish` says what is missing from the one
  that it falls into. A prefix above the limit ends the run at its last octet.

  A cut has exactly one place (`exists_place`, `Place.eq_of_le_of_lt`), so the outcome at a
  place can be read off the position of the cut.
-/

namespace Duplex

open Decoder (feedAll decodeAll Run)

namespace LengthPrefixed

/-! ### Places -/

/-- The number of octets in front of the `i`-th of some frames. -/
def offset (frames : List Bytes) (i : Nat) : Nat := (frames.take i).flatten.length

/-- The cut after `k` octets falls `r` octets into the `m`-th frame, or after the last one. -/
structure Place (frames : List Bytes) (k m r : Nat) : Prop where
  /-- The octets in front of the cut. -/
  split : k = offset frames m + r
  /-- The cut falls into a frame, or no frame is left. -/
  inside : (∃ h : m < frames.length, r < frames[m].length) ∨ m = frames.length ∧ r = 0

theorem offset_succ {frames : List Bytes} {i : Nat} (h : i < frames.length) :
    offset frames (i + 1) = offset frames i + frames[i].length := by
  unfold offset
  rw [List.take_succ_eq_append_getElem h, List.flatten_append, List.length_append,
    List.flatten_singleton]

theorem offset_cons (first : Bytes) (frames : List Bytes) (i : Nat) :
    offset (first :: frames) (i + 1) = first.length + offset frames i := by
  unfold offset
  rw [List.take_succ_cons, List.flatten_cons, List.length_append]

theorem offset_le_offset (frames : List Bytes) {i j : Nat} (h : i ≤ j) :
    offset frames i ≤ offset frames j := by
  obtain ⟨n, rfl⟩ := Nat.exists_eq_add_of_le h
  unfold offset
  rw [List.take_add, List.flatten_append, List.length_append]
  exact Nat.le_add_right _ _

/-- Every cut has a place. -/
theorem exists_place {frames : List Bytes} {k : Nat} (h : k ≤ frames.flatten.length) :
    ∃ m r, Place frames k m r := by
  induction frames generalizing k with
  | nil => exact ⟨0, 0, Nat.le_zero.1 h, .inr ⟨rfl, rfl⟩⟩
  | cons first others ih =>
    by_cases hlt : k < first.length
    · exact ⟨0, k, by simp [offset], .inl ⟨Nat.zero_lt_succ _, hlt⟩⟩
    · have hle : k - first.length ≤ others.flatten.length := by
        simp only [List.flatten_cons, List.length_append] at h
        omega
      obtain ⟨m, r, hsplit, hinside⟩ := ih hle
      have hk : k = offset (first :: others) (m + 1) + r := by
        rw [offset_cons, Nat.add_assoc, ← hsplit]
        exact (Nat.add_sub_cancel' (Nat.not_lt.1 hlt)).symm
      refine ⟨m + 1, r, hk, ?_⟩
      rcases hinside with ⟨hm, hr⟩ | ⟨rfl, rfl⟩
      · exact .inl ⟨Nat.succ_lt_succ hm, hr⟩
      · exact .inr ⟨rfl, rfl⟩

section place

variable {frames : List Bytes} {k m r : Nat}

theorem Place.le (h : Place frames k m r) : m ≤ frames.length := by
  rcases h.inside with ⟨hm, _⟩ | ⟨rfl, _⟩
  · exact Nat.le_of_lt hm
  · exact Nat.le_refl _

/-- The frames in front of the cut are those that end there or earlier. -/
theorem Place.lt_iff (h : Place frames k m r) {i : Nat} (hi : i < frames.length) :
    i < m ↔ offset frames (i + 1) ≤ k := by
  constructor
  · intro him
    have hle : offset frames (i + 1) ≤ offset frames m := offset_le_offset frames him
    have hsplit := h.split
    omega
  · intro hle
    rcases h.inside with ⟨hm, hr⟩ | ⟨rfl, -⟩
    · refine Nat.lt_of_not_le fun hmi => ?_
      have hend : offset frames (m + 1) ≤ offset frames (i + 1) :=
        offset_le_offset frames (Nat.succ_le_succ hmi)
      rw [offset_succ hm] at hend
      have hsplit := h.split
      omega
    · exact hi

/-- A cut has only one place. -/
theorem Place.eq_of_le_of_lt (h : Place frames k m r) {i : Nat} (hi : i < frames.length)
    (hle : offset frames i ≤ k) (hlt : k < offset frames (i + 1)) : i = m := by
  have hnot : ¬ i < m := fun him => absurd ((h.lt_iff hi).1 him) (Nat.not_le.2 hlt)
  refine Nat.le_antisymm (Nat.le_of_not_lt fun hmi => ?_) (Nat.le_of_not_lt hnot)
  have hend : offset frames (m + 1) ≤ k := Nat.le_trans (offset_le_offset frames hmi) hle
  exact absurd ((h.lt_iff (Nat.lt_trans hmi hi)).2 hend) (Nat.lt_irrefl m)

/-- A cut is at the start of a frame, or at the end, just where it falls into no frame. -/
theorem Place.exists_offset_iff (h : Place frames k m r) (hpos : ∀ f ∈ frames, 0 < f.length) :
    (∃ i ≤ frames.length, k = offset frames i) ↔ r = 0 := by
  have hsplit := h.split
  constructor
  · rintro ⟨i, hi, hki⟩
    rcases h.inside with ⟨hm, _⟩ | ⟨_, hr⟩
    · have him : i ≤ m := by
        refine Nat.le_of_not_lt fun hmi => Nat.lt_irrefl m ((h.lt_iff hm).2 ?_)
        rw [hki]
        exact offset_le_offset frames hmi
      have hlt : i < frames.length := Nat.lt_of_le_of_lt him hm
      have hfirst := hpos _ (List.getElem_mem hlt)
      have hnext := offset_succ hlt
      obtain rfl := h.eq_of_le_of_lt hlt (Nat.le_of_eq hki.symm) (by omega)
      omega
    · exact hr
  · rintro rfl
    exact ⟨m, h.le, hsplit⟩

/-- A cut is `n` octets into some frame just where it is into the one it falls into. -/
theorem Place.exists_offset_add_iff (h : Place frames k m r) {n : Nat} (hpos : 0 < n)
    (hn : ∀ f ∈ frames, n < f.length) :
    (∃ i < frames.length, k = offset frames i + n) ↔ r = n := by
  have hsplit := h.split
  constructor
  · rintro ⟨i, hi, hki⟩
    have hlonger := hn _ (List.getElem_mem hi)
    have hnext := offset_succ hi
    obtain rfl := h.eq_of_le_of_lt hi (by omega) (by omega)
    omega
  · rintro rfl
    rcases h.inside with ⟨hm, _⟩ | ⟨_, hr⟩
    · exact ⟨m, hm, hsplit⟩
    · exact absurd hr (Nat.ne_of_gt hpos)

/-- The octets in front of a cut. -/
theorem take_flatten (frames : List Bytes) (m r : Nat) :
    frames.flatten.take (offset frames m + r) =
      (frames.take m).flatten ++ (frames.drop m).flatten.take r := by
  have hparts : frames.flatten = (frames.take m).flatten ++ (frames.drop m).flatten := by
    rw [← List.flatten_append, List.take_append_drop]
  rw [hparts, offset, List.take_length_add_append]

end place

/-! ### The frame that is cut -/

/-- What `finish` answers `r` octets into the frame of a payload: octets of the prefix are
    missing, or octets of the payload. -/
def shortfall (payload : Bytes) (r : Nat) : Except FrameError Unit :=
  if r < Length.octets then missing Length.octets r
  else missing payload.length (r - Length.octets)

/-- Nothing is missing in front of a frame, and nothing right after its prefix. -/
theorem shortfall_eq_ok_iff {payload : Bytes} {r : Nat} :
    shortfall payload r = .ok () ↔ r = 0 ∨ r = Length.octets := by
  have hoctets : 0 < Length.octets := Nat.zero_lt_succ 3
  unfold shortfall
  by_cases hlt : r < Length.octets
  · rw [if_pos hlt, missing_eq_ok_iff]
    omega
  · rw [if_neg hlt, missing_eq_ok_iff]
    omega

theorem shortfall_of_lt {payload : Bytes} {r : Nat} (hpos : 0 < r) (hlt : r < Length.octets) :
    shortfall payload r = .error (.incomplete Length.octets r) := by
  unfold shortfall
  rw [if_pos hlt, missing_of_pos hpos]

theorem shortfall_of_gt {payload : Bytes} {r : Nat} (hgt : Length.octets < r) :
    shortfall payload r = .error (.incomplete payload.length (r - Length.octets)) := by
  have hge : ¬ r < Length.octets := Nat.not_lt.2 (Nat.le_of_lt hgt)
  unfold shortfall
  rw [if_neg hge, missing_of_pos (Nat.sub_pos_of_lt hgt)]

/-- The run over a part of a frame delivers nothing, and `finish` says what is missing. The
    limit is of no concern before the prefix is complete. -/
theorem feedAll_take_frame (limit : Option Nat) {payload : Bytes} {r : Nat}
    (h : Framable payload) (hwithin : Length.octets ≤ r → Within limit payload.length)
    (hr : r < (frame payload).length) :
    let run := feedAll (withLimit limit) ((frame payload).take r)
    run.items = #[] ∧ run.error = none ∧ finish run.decoder = shortfall payload r := by
  intro run
  have hheader := Length.length_encode payload.length
  by_cases hlt : r < Length.octets
  · -- the cut falls into the prefix
    have hlength : ((frame payload).take r).length = r :=
      List.length_take_of_le (Nat.le_of_lt hr)
    have hrun : run = ⟨#[], none, ⟨none, ((frame payload).take r).toArray, limit⟩⟩ :=
      feedAll_unfinished (by rwa [hlength])
    refine ⟨by rw [hrun], by rw [hrun], ?_⟩
    rw [hrun, finish_eq_missing, hlength, shortfall, if_pos hlt]
    rfl
  · -- the prefix is complete and accepted
    have hle : Length.octets ≤ r := Nat.le_of_not_lt hlt
    have htake : (frame payload).take r =
        Length.encode payload.length ++ payload.take (r - Length.octets) := by
      rw [frame, List.take_append, List.take_of_length_le (by rwa [hheader]), hheader]
    have hlength : (payload.take (r - Length.octets)).length = r - Length.octets := by
      rw [length_frame] at hr
      exact List.length_take_of_le (by omega)
    have hunfinished : (payload.take (r - Length.octets)).length <
        (some payload.length).getD Length.octets := by
      rw [length_frame] at hr
      rw [hlength, Option.getD_some]
      omega
    have hrun : run = ⟨#[], none,
        ⟨some payload.length, (payload.take (r - Length.octets)).toArray, limit⟩⟩ := by
      simp only [run]
      rw [htake, Decoder.feedAll_append, feedAll_encode h.1 h.2 (hwithin hle),
        Run.resume_of_ok rfl, feedAll_unfinished hunfinished]
      rfl
    refine ⟨by rw [hrun], by rw [hrun], ?_⟩
    rw [hrun, finish_eq_missing, hlength, shortfall, if_neg hlt]
    rfl

/-! ### Streams that are cut -/

section cut

variable {limit : Option Nat} {payloads : List Bytes} {k m r : Nat}

theorem length_lt_of_mem_frames (h : ∀ payload ∈ payloads, Framable payload) :
    ∀ f ∈ payloads.map frame, Length.octets < f.length := by
  intro f hf
  obtain ⟨payload, hmem, rfl⟩ := List.mem_map.1 hf
  have hpos := (h payload hmem).1
  rw [length_frame]
  omega

theorem offset_map_frame_succ {i : Nat} (h : i < payloads.length) :
    offset (payloads.map frame) (i + 1) =
      offset (payloads.map frame) i + (Length.octets + payloads[i].length) := by
  rw [offset_succ (by rwa [List.length_map]), List.getElem_map, length_frame]

theorem forall_mem_take {p : Bytes → Prop}
    (h : ∀ (i : Nat) (hi : i < payloads.length), i < m → p payloads[i]) :
    ∀ payload ∈ payloads.take m, p payload := by
  intro payload hmem
  obtain ⟨i, hi, rfl⟩ := List.mem_take_iff_getElem.1 hmem
  exact h i (by omega) (by omega)

/-- Of the payloads, the decoder accepts all whose prefix lies in front of the cut. -/
def AcceptsCut (limit : Option Nat) (payloads frames : List Bytes) (k : Nat) : Prop :=
  ∀ (i : Nat) (h : i < payloads.length), offset frames i + Length.octets ≤ k →
    Within limit payloads[i].length

/-- The run over the octets in front of a cut delivers the payloads in front of it, and
    `finish` says what is missing from the frame that the cut falls into. -/
theorem feedAll_cut (h : ∀ payload ∈ payloads, Framable payload)
    (hplace : Place (payloads.map frame) k m r)
    (haccepts : AcceptsCut limit payloads (payloads.map frame) k) :
    let run := feedAll (withLimit limit) ((payloads.map frame).flatten.take k)
    run.items = (payloads.take m).toArray ∧ run.error = none ∧
      finish run.decoder = shortfall (payloads.getD m []) r := by
  intro run
  have hsplit := hplace.split
  -- the frames in front of the cut are complete, so their prefixes are accepted
  have hwithin : ∀ payload ∈ payloads.take m, Within limit payload.length := by
    apply forall_mem_take
    intro i hi him
    have hle := offset_le_offset (payloads.map frame) him
    rw [offset_map_frame_succ hi] at hle
    exact haccepts i hi (by omega)
  have hrun : run = (feedAll (withLimit limit)
      (((payloads.map frame).drop m).flatten.take r)).prepend (payloads.take m).toArray := by
    simp only [run]
    rw [hsplit, take_flatten, ← List.map_take,
      feedAll_frames (fun payload hmem => h payload (List.mem_of_mem_take hmem)) hwithin]
  rcases hplace.inside with ⟨hm, hr⟩ | ⟨rfl, rfl⟩
  · have hlt : m < payloads.length := by rwa [List.length_map] at hm
    have hcut : ((payloads.map frame).drop m).flatten.take r = (frame payloads[m]).take r := by
      rw [List.drop_eq_getElem_cons hm, List.flatten_cons,
        List.take_append_of_le_length (Nat.le_of_lt hr), List.getElem_map]
    rw [List.getElem_map] at hr
    obtain ⟨hitems, herror, hfinish⟩ := feedAll_take_frame limit
      (h _ (List.getElem_mem hlt)) (fun hle => haccepts m hlt (by omega)) hr
    rw [hrun, hcut]
    refine ⟨by simp [hitems], herror, ?_⟩
    rw [List.getD_eq_getElem _ _ hlt]
    exact hfinish
  · have hcut : ((payloads.map frame).drop (payloads.map frame).length).flatten.take 0 = [] :=
      List.take_zero
    rw [hrun, hcut]
    exact ⟨Array.append_empty, rfl, (shortfall_eq_ok_iff.2 (.inl rfl)).symm⟩

/-- What a run over the octets in front of a cut comes to where the decoder accepts all
    prefixes among them. -/
structure ReadsCut (payloads frames : List Bytes) (k : Nat) (run : Run LengthPrefixed Bytes) :
    Prop where
  /-- There is no error. -/
  error : run.error = none
  /-- The payloads whose frames lie in front of the cut are delivered, and no others. -/
  items : ∃ m ≤ payloads.length,
    (∀ i < payloads.length, i < m ↔ offset frames (i + 1) ≤ k) ∧
    run.items = (payloads.take m).toArray
  /-- The stream may end between two frames and right after a prefix, and nowhere else. -/
  finish_ok : finish run.decoder = .ok () ↔
    (∃ i ≤ payloads.length, k = offset frames i) ∨
    (∃ i < payloads.length, k = offset frames i + Length.octets)
  /-- Inside a prefix, octets of the prefix are missing. -/
  finish_header : ∀ i < payloads.length, offset frames i < k →
    k < offset frames i + Length.octets →
    finish run.decoder = .error (.incomplete Length.octets (k - offset frames i))
  /-- Inside a payload, octets of the payload are missing. -/
  finish_payload : ∀ (i : Nat) (h : i < payloads.length), offset frames i + Length.octets < k →
    k < offset frames (i + 1) →
    finish run.decoder =
      .error (.incomplete payloads[i].length (k - (offset frames i + Length.octets)))

theorem readsCut (h : ∀ payload ∈ payloads, Framable payload)
    (hk : k ≤ (payloads.map frame).flatten.length)
    (haccepts : AcceptsCut limit payloads (payloads.map frame) k) :
    ReadsCut payloads (payloads.map frame) k
      (feedAll (withLimit limit) ((payloads.map frame).flatten.take k)) := by
  obtain ⟨m, r, hplace⟩ := exists_place hk
  obtain ⟨hitems, herror, hfinish⟩ := feedAll_cut h hplace haccepts
  have hsplit := hplace.split
  have hlength : (payloads.map frame).length = payloads.length := List.length_map frame
  have hlonger := length_lt_of_mem_frames h
  -- a cut in front of the end of the `i`-th frame falls into it
  have hinto : ∀ {i : Nat}, i < payloads.length → offset (payloads.map frame) i ≤ k →
      k < offset (payloads.map frame) (i + 1) → i = m :=
    fun hi => hplace.eq_of_le_of_lt (by rwa [hlength])
  constructor
  case error => exact herror
  case items =>
    refine ⟨m, ?_, ?_, hitems⟩
    · rw [← hlength]
      exact hplace.le
    · intro i hi
      exact hplace.lt_iff (by rwa [hlength])
  case finish_ok =>
    have hstart := hplace.exists_offset_iff fun f hf => Nat.zero_lt_of_lt (hlonger f hf)
    have hheader := hplace.exists_offset_add_iff (Nat.zero_lt_succ 3) hlonger
    rw [hlength] at hstart hheader
    rw [hfinish, shortfall_eq_ok_iff, hstart]
    exact or_congr Iff.rfl hheader.symm
  case finish_header =>
    intro i hi hlt hgt
    have hnext := offset_map_frame_succ hi
    obtain rfl := hinto hi (Nat.le_of_lt hlt) (by omega)
    have hr : k - offset (payloads.map frame) i = r := by omega
    rw [hfinish, hr]
    exact shortfall_of_lt (by omega) (by omega)
  case finish_payload =>
    intro i hi hlt hgt
    obtain rfl := hinto hi (by omega) hgt
    have hr : k - (offset (payloads.map frame) i + Length.octets) = r - Length.octets := by omega
    rw [hfinish, hr, List.getD_eq_getElem _ _ hi]
    exact shortfall_of_gt (by omega)

/-- A prefix above the limit ends the run right after it, whatever follows. -/
theorem feedAll_refused {greatest i : Nat} (h : ∀ payload ∈ payloads, Framable payload)
    (hi : i < payloads.length) (hlt : greatest < payloads[i].length)
    (hbefore : ∀ (j : Nat) (hj : j < i), payloads[j].length ≤ greatest)
    (hk : offset (payloads.map frame) i + Length.octets ≤ k) :
    feedAll (withLimit (some greatest)) ((payloads.map frame).flatten.take k) =
      ⟨(payloads.take i).toArray, some (.frameTooLarge payloads[i].length greatest),
        withLimit (some greatest)⟩ := by
  have hwithin : ∀ payload ∈ payloads.take i, Within (some greatest) payload.length := by
    apply forall_mem_take
    intro j _ hj
    exact within_some.2 (hbefore j hj)
  obtain ⟨n, rfl⟩ := Nat.exists_eq_add_of_le hk
  have hi' : i < (payloads.map frame).length := by rwa [List.length_map]
  have htake : ((payloads.map frame).drop i).flatten.take (Length.octets + n) =
      Length.encode payloads[i].length ++
        (payloads[i] ++ ((payloads.map frame).drop (i + 1)).flatten).take n := by
    rw [List.drop_eq_getElem_cons hi', List.flatten_cons, List.getElem_map, frame,
      List.append_assoc, ← Length.length_encode payloads[i].length, List.take_length_add_append]
  rw [Nat.add_assoc, take_flatten, ← List.map_take,
    feedAll_frames (fun payload hmem => h payload (List.mem_of_mem_take hmem)) hwithin, htake,
    Decoder.feedAll_append, feedAll_encode_of_lt (h _ (List.getElem_mem hi)).2 hlt,
    Run.resume_of_error rfl, Run.prepend, Array.append_empty]

/-- **Decoding inverts encoding wherever the stream is cut.** Let a new decoder run over the
    first `k` octets of the frames that the encoder makes of some payloads.

    - Where it accepts all prefixes among these octets, it delivers the payloads whose frames
      are complete, and `finish` says whether the stream may end there and what is missing.
    - Otherwise let the `i`-th payload be the first above the limit. The run ends with the last
      octet of its prefix: it is the run up to there, it delivers the payloads in front of it,
      and no shorter run has an error. -/
theorem decodeAll_take_frames (limit : Option Nat) (payloads frames : List Bytes) (k : Nat)
    (hframes : payloads.mapM encode = .ok frames) (hk : k ≤ frames.flatten.length) :
    let run (k : Nat) := decodeAll (withLimit limit) (frames.flatten.take k)
    (AcceptsCut limit payloads frames k → ReadsCut payloads frames k (run k)) ∧
    (∀ (i : Nat) (hi : i < payloads.length) (greatest : Nat), limit = some greatest →
      offset frames i + Length.octets ≤ k → greatest < payloads[i].length →
      (∀ (j : Nat) (hj : j < i), payloads[j].length ≤ greatest) →
      (run k).items = (payloads.take i).toArray ∧
      (run k).error = some (.frameTooLarge payloads[i].length greatest) ∧
      run k = run (offset frames i + Length.octets) ∧
      ∀ k' < offset frames i + Length.octets, (run k').error = none) := by
  intro run
  obtain ⟨hframable, rfl⟩ := mapM_encode_eq_ok_iff.1 hframes
  have hrun : ∀ k, run k = feedAll (withLimit limit) ((payloads.map frame).flatten.take k) :=
    fun k => Decoder.decodeAll_eq (wellFormed_withLimit limit) _
  refine ⟨?_, ?_⟩
  · intro haccepts
    rw [hrun]
    exact readsCut hframable hk haccepts
  · rintro i hi greatest rfl hik hlt hbefore
    have hrefused : ∀ k, offset (payloads.map frame) i + Length.octets ≤ k → run k =
        ⟨(payloads.take i).toArray, some (.frameTooLarge payloads[i].length greatest),
          withLimit (some greatest)⟩ := by
      intro k hle
      rw [hrun]
      exact feedAll_refused hframable hi hlt hbefore hle
    refine ⟨by rw [hrefused k hik], by rw [hrefused k hik], ?_, ?_⟩
    · rw [hrefused k hik, hrefused _ (Nat.le_refl _)]
    · -- in front of that octet, only prefixes of earlier payloads are complete
      intro k' hk'
      have haccepts : AcceptsCut (some greatest) payloads (payloads.map frame) k' := by
        intro j hj hle
        have hji : j < i := by
          refine Nat.lt_of_not_le fun hij => ?_
          have hmono := offset_le_offset (payloads.map frame) hij
          omega
        exact within_some.2 (hbefore j hji)
      rw [hrun]
      exact (readsCut hframable (by omega) haccepts).error

/-- Three octets into a prefix one is missing; the fourth makes a decoder refuse a payload of
    two octets where its limit is one. -/
theorem decodeAll_take_two_frames :
    let payloads : List Bytes := [[7], [8, 9]]
    let frames : List Bytes := [[0, 0, 0, 1, 7], [0, 0, 0, 2, 8, 9]]
    let run (k : Nat) := decodeAll (withLimit (some 1)) (frames.flatten.take k)
    payloads.mapM encode = .ok frames ∧
    ((run 8).error = none ∧ finish (run 8).decoder = .error (.incomplete 4 3)) ∧
    (run 11).items = #[[7]] ∧ (run 11).error = some (.frameTooLarge 2 1) ∧ run 11 = run 9 := by
  intro payloads frames run
  have hframes : payloads.mapM encode = .ok frames := by rfl
  have haccepts : AcceptsCut (some 1) payloads frames 8 := by
    intro i hi hle
    match i with
    | 0 => exact within_some.2 (Nat.le_refl 1)
    | 1 => exact absurd hle (by decide)
  have hcut : ReadsCut payloads frames 8 (run 8) :=
    (decodeAll_take_frames (some 1) payloads frames 8 hframes (by decide)).1 haccepts
  obtain ⟨hitems, herror, hstop, _⟩ :=
    (decodeAll_take_frames (some 1) payloads frames 11 hframes (by decide)).2 1 (by decide) 1 rfl
      (by decide) (by decide) (fun | 0, _ => Nat.le_refl 1)
  exact ⟨hframes, ⟨hcut.error, hcut.finish_header 1 (by decide) (by decide) (by decide)⟩,
    hitems, herror, hstop⟩

end cut

end LengthPrefixed

end Duplex
