import Duplex.Proofs.LossyReading
import Duplex.Proofs.Messages

/-! # Streams of texts

  Any octets at all make a decoder of texts deliver one text for each NUL, the octets between two
  of them read lossily, and hold back what comes after the last one. No such text has a NUL, so
  writing it and reading it back changes nothing: what was ill-formed is replaced once and for all.

  A `Cut` is a string of octets taken apart at each NUL. The run of the decoder follows it text by
  text (`Cut.feedAll_eq`). Texts that were written have the cut that their own NULs give.
-/

namespace Duplex.NulString

open Decoder (feedAll decodeChunks)

/-! ### Cuts -/

/-- `Cut bytes texts tail`: the octets are the texts, each ended by a NUL, and a tail without
    one. -/
inductive Cut : Bytes → List Bytes → Bytes → Prop where
  /-- What comes after the last NUL. -/
  | last {tail : Bytes} (hnul : nul ∉ tail) : Cut tail [] tail
  /-- A text, the NUL that ends it, and what follows. -/
  | text {text rest : Bytes} {texts : List Bytes} {tail : Bytes} (hnul : nul ∉ text)
      (hrest : Cut rest texts tail) : Cut (text ++ nul :: rest) (text :: texts) tail

/-- All octets have a cut. -/
theorem exists_cut (bytes : Bytes) : ∃ texts tail, Cut bytes texts tail := by
  by_cases hmem : nul ∈ bytes
  · obtain ⟨text, rest, hbytes, hnul⟩ := List.eq_append_cons_of_mem hmem
    obtain ⟨texts, tail, hrest⟩ := exists_cut rest
    exact ⟨text :: texts, tail, hbytes ▸ .text hnul hrest⟩
  · exact ⟨[], bytes, .last hmem⟩
termination_by bytes.length
decreasing_by
  rw [hbytes, List.length_append, List.length_cons]
  omega

namespace Cut

variable {bytes tail : Bytes} {texts : List Bytes}

theorem nul_notMem (h : Cut bytes texts tail) : ∀ text ∈ texts, nul ∉ text := by
  induction h with
  | last => exact List.forall_mem_nil _
  | text hnul _ ih => exact List.forall_mem_cons.2 ⟨hnul, ih⟩

/-- What the texts are read as has no NUL either. -/
theorem nul_notMem_decode (h : Cut bytes texts tail) :
    ∀ text ∈ texts.map Utf8.decode, '\x00' ∉ text.toList := by
  refine List.forall_mem_map.2 fun text htext => ?_
  rw [Utf8.decode, String.toList_ofList]
  exact Utf8.nul_notMem_chars (h.nul_notMem text htext)

/-- There is one text for each NUL. -/
theorem count_eq (h : Cut bytes texts tail) : bytes.count nul = texts.length := by
  induction h with
  | last hnul => exact List.count_eq_zero.2 hnul
  | text hnul _ ih =>
    rw [List.count_append, List.count_eq_zero.2 hnul, List.count_cons_self, ih, List.length_cons,
      Nat.zero_add]

/-- Nothing is left where the octets end with a NUL, or there are none. -/
theorem tail_eq_nil_iff (h : Cut bytes texts tail) :
    tail = [] ↔ bytes = [] ∨ bytes.getLast? = some nul := by
  induction h with
  | last hnul =>
    refine ⟨.inl, fun h => h.elim id fun hlast => ?_⟩
    exact absurd (List.mem_of_getLast? hlast) hnul
  | @text text rest texts tail _ _ ih =>
    rw [ih]
    rcases List.eq_nil_or_concat rest with rfl | ⟨init, b, rfl⟩
    · simp
    · simp [List.getLast?_append, List.getLast?_cons]

/-- The texts and the tail are the pieces between the NULs. -/
theorem splitOn_eq (h : Cut bytes texts tail) : bytes.splitOn nul = texts ++ [tail] := by
  induction h with
  | last hnul => exact List.splitOn_eq_singleton hnul
  | @text text rest texts tail hnul _ ih =>
    have hcut : (text ++ nul :: rest).splitOn nul = text.splitOn nul ++ rest.splitOn nul :=
      List.splitOnP_append_cons _ _ (beq_self_eq_true nul)
    rw [hcut, List.splitOn_eq_singleton hnul, ih]
    rfl

/-- The decoder delivers the texts and holds the tail back. -/
theorem feedAll_eq (h : Cut bytes texts tail) :
    feedAll ({} : NulString) bytes =
      ⟨(texts.map Utf8.decode).toArray, none, (⟨tail.toArray⟩ : NulString)⟩ := by
  induction h with
  | @last tail hnul =>
    rw [show ({} : NulString) = ⟨#[]⟩ from rfl, feedAll_of_notMem hnul]
    simp
  | @text text rest texts tail hnul _ ih =>
    have hfeed : Decoder.feed (NulString.mk ((#[] : Array UInt8) ++ text)) nul =
        (.ok (some (Utf8.decode text)), ({} : NulString)) := by
      simp [Decoder.feed, feed]
    rw [Decoder.feedAll_append, show ({} : NulString) = ⟨#[]⟩ from rfl, feedAll_of_notMem hnul,
      Decoder.Run.resume_of_ok rfl, Decoder.feedAll_cons_of_ok hfeed, ih]
    simp [Decoder.Run.prepend]

end Cut

/-! ### What a run comes to -/

/-- What the run over some octets comes to. -/
structure Reads (bytes : Bytes) (run : Decoder.Run NulString String) : Prop where
  /-- Nothing is wrong in the middle of a stream. -/
  error : run.error = none
  /-- There is one text for each NUL. -/
  count : run.items.size = bytes.count nul
  /-- The texts are what the octets between the NULs are read as. Octets after the last NUL want
      one more, and the error says how many they are. -/
  cut : ∃ texts tail, Cut bytes texts tail ∧ run.items.toList = texts.map Utf8.decode ∧
    Decoder.finish run.decoder =
      if tail = [] then .ok () else .error (.noTermination tail.length)
  /-- The stream may end where it is empty or ends with a NUL. -/
  finish_ok_iff : Decoder.finish run.decoder = .ok () ↔ bytes = [] ∨ bytes.getLast? = some nul

theorem finish_eq (tail : Bytes) :
    Decoder.finish (⟨tail.toArray⟩ : NulString) =
      if tail = [] then .ok () else .error (.noTermination tail.length) := by
  show finish ⟨tail.toArray⟩ = _
  simp [finish]

theorem reads_feedAll (bytes : Bytes) : Reads bytes (feedAll ({} : NulString) bytes) := by
  obtain ⟨texts, tail, hcut⟩ := exists_cut bytes
  rw [hcut.feedAll_eq]
  refine ⟨rfl, ?_, ⟨texts, tail, hcut, rfl, finish_eq tail⟩, ?_⟩
  · rw [hcut.count_eq, List.size_toArray, List.length_map]
  · rw [finish_eq, ← hcut.tail_eq_nil_iff]
    by_cases htail : tail = [] <;> simp [htail]

/-- A run that delivered these texts, and after which the stream may end. -/
structure Delivers (texts : List String) (run : Decoder.Run NulString String) : Prop where
  items : run.items.toList = texts
  error : run.error = none
  finish : Decoder.finish run.decoder = .ok ()

/-- The texts that were read have no NUL. -/
theorem nul_notMem_items {bytes : Bytes} :
    ∀ text ∈ (feedAll ({} : NulString) bytes).items.toList, '\x00' ∉ text.toList := by
  obtain ⟨texts, tail, hcut⟩ := exists_cut bytes
  rw [hcut.feedAll_eq]
  exact hcut.nul_notMem_decode

/-! ### Texts that were written -/

/-- The pieces of a text between its NULs. -/
def pieces (text : String) : List String := (text.toList.splitOn '\x00').map String.ofList

theorem pieces_of_nul_notMem {texts : List String} (h : ∀ text ∈ texts, '\x00' ∉ text.toList) :
    texts.flatMap pieces = texts := by
  have hback : StringArray.readBack (texts.map some) = (texts.map some).map (·.getD "") :=
    StringArray.readBack_of_nul_notMem (by simpa using h)
  rw [StringArray.readBack, List.flatMap_map, List.map_map] at hback
  exact hback.trans (List.map_id texts)

/-- Texts that were written are cut at their own NULs. -/
theorem cut_encode (texts : List String) :
    Cut (texts.flatMap encode) (texts.flatMap fun text => (Utf8.encode text).splitOn nul) [] := by
  obtain ⟨pieces, tail, hcut⟩ := exists_cut (texts.flatMap encode)
  have hpayload := StringArray.splitOn_payload (texts.map some)
  rw [StringArray.payload, List.flatMap_map, List.flatMap_map] at hpayload
  obtain ⟨rfl, htail⟩ := List.append_inj' (hcut.splitOn_eq.symm.trans hpayload) rfl
  cases htail
  exact hcut

theorem delivers_encode (texts : List String) :
    Delivers (texts.flatMap pieces) (feedAll ({} : NulString) (texts.flatMap encode)) := by
  rw [(cut_encode texts).feedAll_eq]
  refine ⟨?_, rfl, finish_eq []⟩
  rw [List.map_flatMap]
  exact congrArg texts.flatMap (funext fun text => StringArray.map_decode_splitOn (some text))

/-- **Streams of texts, from any octets, and back.**

    - The run over chunks is that over the octets one by one.
    - Any octets come to one text for each NUL (`Reads`). None of these texts has a NUL, and
      written again they are read back unchanged.
    - Any texts that were written are read back as their pieces between the NULs, so as themselves
      if there are none. -/
theorem reads_and_writes :
    (∀ chunks : List Bytes,
      decodeChunks ({} : NulString) chunks = feedAll ({} : NulString) chunks.flatten) ∧
    (∀ bytes : Bytes,
      let run := feedAll ({} : NulString) bytes
      Reads bytes run ∧ (∀ text ∈ run.items.toList, '\x00' ∉ text.toList) ∧
        Delivers run.items.toList (feedAll ({} : NulString) (run.items.toList.flatMap encode))) ∧
    (∀ texts : List String,
      Delivers (texts.flatMap pieces) (feedAll ({} : NulString) (texts.flatMap encode))) ∧
    (∀ texts : List String, (∀ text ∈ texts, '\x00' ∉ text.toList) →
      texts.flatMap pieces = texts) := by
  refine ⟨Decoder.decodeChunks_eq trivial, fun bytes => ?_, delivers_encode,
    fun texts h => pieces_of_nul_notMem h⟩
  refine ⟨reads_feedAll bytes, nul_notMem_items, ?_⟩
  have hagain := delivers_encode (feedAll ({} : NulString) bytes).items.toList
  rwa [pieces_of_nul_notMem nul_notMem_items] at hagain

/-- A surrogate, a truncated character in front of its NUL and an overlong form of NUL itself, in
    chunks that are cut inside the sequences, with one octet too many at the end; and what was read
    of them, written again. -/
theorem reads_and_writes_ill_formed :
    let chunks : List Bytes := [[0xED, 0xA0], [0x80, 0, 0xF0, 0x9F], [0x98, 0, 0xC0], [0x80, 0, 65]]
    let texts := ["\uFFFD\uFFFD\uFFFD", "\uFFFD", "\uFFFD\uFFFD"]
    let run := decodeChunks ({} : NulString) chunks
    run.items.toList = texts ∧ Decoder.finish run.decoder = .error (.noTermination 1) ∧
      (∀ text ∈ texts, '\x00' ∉ text.toList) ∧ texts.flatMap pieces = texts ∧
      Delivers texts (feedAll ({} : NulString) (texts.flatMap encode)) := by
  intro chunks texts run
  obtain ⟨hchunks, hbytes, -, hself⟩ := reads_and_writes
  have hrun : run = feedAll ({} : NulString) chunks.flatten := hchunks chunks
  obtain ⟨-, hnul, hagain⟩ := hbytes chunks.flatten
  have hitems : (feedAll ({} : NulString) chunks.flatten).items.toList = texts := by
    decide +kernel
  rw [hitems] at hnul hagain
  exact ⟨hrun ▸ hitems, hrun ▸ rfl, hnul, hself texts hnul, hagain⟩

end Duplex.NulString
