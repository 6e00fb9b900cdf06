import Duplex.Proofs.CanonicalArrays
import Duplex.Proofs.MaximalSubparts

/-! # Text, split before it is read or after

  A decoder cuts octets at each NUL and then reads the pieces, of which any may be ill-formed. To
  read all the octets and then cut the text gives the same pieces (`splitOn_chars`). In whatever
  state a NUL meets the reader, it ends the sequence that is open, which is replaced, and then it is
  read as itself (`step_nul`). So nothing before a NUL has an effect on what is read after it
  (`chars_append_nul`), and as no other octet is read as a NUL, the cuts are the same ones.
-/

namespace Duplex

open NulString (exists_cut)
open StringArray (parse)

namespace Utf8

/-- No open sequence allows a NUL: it is replaced, and the NUL is read at a boundary. -/
theorem step_nul {state : State} (h : state.Sound) :
    step state nul = (flush state ++ ['\x00'], .ground) := by
  cases state with
  | ground => rfl
  | within owed low high bits =>
    cases owed with
    | zero => exact h.elim
    | succ k =>
      have hlow : 0x80 ≤ low.toNat := h.1
      have hrange : ¬ (low ≤ nul ∧ nul ≤ high) := by
        rintro ⟨hle, -⟩
        rw [UInt8.le_iff_toNat_le] at hle
        exact absurd (Nat.le_trans hlow hle) (by decide)
      simp only [step, if_neg hrange]
      rfl

theorem sound_step {state : State} (h : state.Sound) (b : UInt8) : (step state b).2.Sound := by
  by_cases hb : b = nul
  · rw [hb, step_nul h]
    trivial
  · exact (noNul_step h hb).2

theorem charsFrom_append_nul {state : State} (h : state.Sound) (first rest : Bytes) :
    charsFrom state (first ++ nul :: rest) = charsFrom state first ++ '\x00' :: chars rest := by
  induction first generalizing state with
  | nil =>
    rw [List.nil_append, chars_eq_charsFrom]
    simp only [charsFrom, step_nul h, List.append_assoc]
    rfl
  | cons b first ih =>
    rw [List.cons_append, charsFrom, charsFrom, ih (sound_step h b), List.append_assoc]

/-- What is in front of a NUL is read as if the octets ended there, and what comes after it as if
    they began there. -/
theorem chars_append_nul (first rest : Bytes) :
    chars (first ++ nul :: rest) = chars first ++ '\x00' :: chars rest := by
  have hground : State.ground.Sound := trivial
  rw [chars_eq_charsFrom, charsFrom_append_nul hground, ← chars_eq_charsFrom]

theorem decode_append_nul (first rest : Bytes) :
    decode (first ++ nul :: rest) = decode first ++ "\x00" ++ decode rest := by
  rw [← String.toList_inj]
  simp [decode, chars_append_nul]

/-- The characters of some octets, cut at each NUL, are those of the octets, cut so. -/
theorem splitOn_chars (bytes : Bytes) :
    (chars bytes).splitOn '\x00' = (bytes.splitOn nul).map chars := by
  obtain ⟨texts, tail, hcut⟩ := exists_cut bytes
  rw [hcut.splitOn_eq]
  induction hcut with
  | last hnul => exact List.splitOn_eq_singleton (nul_notMem_chars hnul)
  | @text text rest texts tail hnul _ ih =>
    have hsplit : (chars text ++ '\x00' :: chars rest).splitOn '\x00' =
        (chars text).splitOn '\x00' ++ (chars rest).splitOn '\x00' :=
      List.splitOnP_append_cons _ _ (beq_self_eq_true '\x00')
    rw [chars_append_nul, hsplit, List.splitOn_eq_singleton (nul_notMem_chars hnul), ih]
    rfl

theorem pieces_decode (bytes : Bytes) :
    NulString.pieces (decode bytes) = (bytes.splitOn nul).map decode := by
  rw [NulString.pieces, decode, String.toList_ofList, splitOn_chars, List.map_map]
  rfl

end Utf8

namespace NulString

/-- The texts that were delivered are those that a NUL ends, and what is held back is read as the
    last piece. -/
theorem pieces_decode_flatten (chunks : List Bytes) :
    let run := Decoder.decodeChunks ({} : NulString) chunks
    run.error = none ∧ pieces (Utf8.decode chunks.flatten) =
      run.items.toList ++ [Utf8.decode run.decoder.pending.toList] := by
  intro run
  obtain ⟨texts, tail, hcut⟩ := exists_cut chunks.flatten
  have hrun : run =
      ⟨(texts.map Utf8.decode).toArray, none, (⟨tail.toArray⟩ : NulString)⟩ :=
    (Decoder.decodeChunks_eq trivial chunks).trans hcut.feedAll_eq
  rw [hrun, Utf8.pieces_decode, hcut.splitOn_eq, List.map_append]
  exact ⟨rfl, rfl⟩

end NulString

namespace StringArray

/-- The elements of an array are the pieces that a NUL ends. Nothing comes after the last one. -/
theorem exists_parse_eq_ok {payload : Bytes} (h : payload.getLast? = some nul) :
    ∃ texts, parse payload = .ok texts ∧
      NulString.pieces (Utf8.decode payload) = texts ++ [""] := by
  obtain ⟨texts, tail, hcut⟩ := exists_cut payload
  obtain rfl := hcut.tail_eq_nil_iff.2 (.inr h)
  have hne : payload ≠ [] := by
    rintro rfl
    cases h
  refine ⟨texts.map Utf8.decode, parse_of_cut hcut hne, ?_⟩
  rw [Utf8.pieces_decode, hcut.splitOn_eq, List.map_append]
  rfl

end StringArray

/-- **Cutting at NUL and lossy reading can be done in either order.**

    - Lossy reading replaces each maximal subpart of what is ill-formed, and nothing else.
    - A NUL is read as itself, whatever is in front of it.
    - The elements of an array are the pieces of the text that its whole payload is read as.
    - Texts that were delivered from any chunks are the pieces of the text that the whole stream is
      read as, and the last piece is what is held back. -/
theorem cuts_commute_with_reading :
    (∀ (bytes : Bytes) (cs : List Char), Utf8.Lossy bytes cs ↔ cs = Utf8.chars bytes) ∧
    (∀ a b : Bytes, Utf8.decode (a ++ nul :: b) = Utf8.decode a ++ "\x00" ++ Utf8.decode b) ∧
    (∀ payload : Bytes, payload.getLast? = some nul →
      ∃ texts, parse payload = .ok texts ∧
      NulString.pieces (Utf8.decode payload) = texts ++ [""]) ∧
    (∀ chunks : List Bytes,
      let run := Decoder.decodeChunks ({} : NulString) chunks
      run.error = none ∧ NulString.pieces (Utf8.decode chunks.flatten) =
        run.items.toList ++ [Utf8.decode run.decoder.pending.toList]) :=
  ⟨Utf8.lossy_iff, Utf8.decode_append_nul, fun _ => StringArray.exists_parse_eq_ok,
    NulString.pieces_decode_flatten⟩

/-- A truncated character, an overlong form of NUL itself and nothing, each in front of a NUL. -/
theorem cuts_commute_with_reading_ill_formed :
    let payload : Bytes := [0xF0, 0x9F, 0x98, 0, 0xC0, 0x80, 0, 0]
    let texts := ["\uFFFD", "\uFFFD\uFFFD", ""]
    payload.getLast? = some nul ∧ parse payload = .ok texts ∧
      Utf8.decode payload = "\uFFFD\x00\uFFFD\uFFFD\x00\x00" ∧
      NulString.pieces (Utf8.decode payload) = texts ++ [""] := by
  intro payload texts
  obtain ⟨-, -, hparse, -⟩ := cuts_commute_with_reading
  obtain ⟨texts', htexts', hpieces⟩ := hparse payload rfl
  have htexts : parse payload = .ok texts := by rfl
  obtain rfl : texts' = texts := Except.ok.inj (htexts'.symm.trans htexts)
  exact ⟨rfl, htexts, by decide +kernel, hpieces⟩

end Duplex
