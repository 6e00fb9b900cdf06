import Duplex.Proofs.Conservation

/-! # The loops end

  Octets from the peer are decoded in loops that go on as long as octets are left: over a slice
  (`Feeding`), inside the call for a slice of frames (`LengthPrefixed.pass`), and in a poll, which
  also pulls chunks (`FramedStream.pass`). How many octets are left after a pass is for the decoder
  to say. One that takes none keeps the loop turning for ever (`Feeding.turns_for_ever`), and one
  that takes more than there are makes it reach past the end.

  So each loop is written here pass by pass, with nothing in it that makes it end, and with `fault`
  for an index out of range or a difference below zero. A lawful decoder takes at least one octet of
  a slice, and all of it where no message is complete (`Decoder.taken_feedSlice`). That is what each
  pass rests on (`Pass.Advance`), and a loop whose passes all advance is left
  (`Pass.leaves_of_advance`), with the result that the library computes.
-/

namespace Duplex

open LawfulDecoder (Inv)
open Decoder (feedAll feedSlice)

/-! ### Passes -/

/-- What one pass of a loop comes to. -/
inductive Pass (σ α : Type) where
  /-- The loop goes on from here. -/
  | again (state : σ)
  /-- The loop is left with a result. -/
  | leave (result : α)
  /-- The pass asked for octets that are not there, or took more from a number than it is. -/
  | fault

namespace Pass

variable {σ α : Type} {pass : σ → Pass σ α} {s s' : σ}

/-- What `n` passes of a loop come to, or fewer where it is left or faults before. -/
def within (pass : σ → Pass σ α) : Nat → σ → Pass σ α
  | 0, s => .again s
  | n + 1, s =>
    match pass s with
    | .again s => within pass n s
    | .leave result => .leave result
    | .fault => .fault

theorem within_of_again (h : pass s = .again s') (n : Nat) :
    within pass (n + 1) s = within pass n s' := by
  simp only [within, h]

/-- What a pass from `s` comes to in a loop that ends, with an invariant `P` of its states, the
    passes that are `left`, and the results that are `Right` for a state. -/
inductive Advance (pass : σ → Pass σ α) (P : σ → Prop) (left : σ → Nat) (Right : σ → α → Prop)
    (s : σ) : Prop where
  /-- The loop is left with a right result. -/
  | leaves {result : α} (hpass : pass s = .leave result) (hright : Right s result) :
      Advance pass P left Right s
  /-- The loop goes on with fewer passes, and what is right afterwards is right here. -/
  | goesOn (s' : σ) (hpass : pass s = .again s') (hkept : P s') (hless : left s' < left s)
      (hback : ∀ result, Right s' result → Right s result) : Advance pass P left Right s

/-- A loop whose passes all advance is left with a right result. -/
theorem leaves_of_advance {P : σ → Prop} {left : σ → Nat} {Right : σ → α → Prop}
    (h : ∀ s, P s → Advance pass P left Right s) (hs : P s) {n : Nat} (hn : left s < n) :
    ∃ result, within pass n s = .leave result ∧ Right s result := by
  induction n generalizing s with
  | zero => exact absurd hn (Nat.not_lt_zero _)
  | succ n ih =>
    cases h s hs with
    | leaves hpass hright =>
      refine ⟨_, ?_, hright⟩
      simp only [within, hpass]
    | goesOn s' hpass hkept hless hback =>
      obtain ⟨result, hwithin, hright⟩ := ih hkept (by omega)
      refine ⟨result, ?_, hback result hright⟩
      rw [within_of_again hpass, hwithin]

end Pass

/-- The octets from `start` up to `stop`, if these lie in the string and in this order. -/
def slice? (bytes : Bytes) (start stop : Nat) : Option Bytes :=
  if start ≤ stop ∧ stop ≤ bytes.length then some ((bytes.take stop).drop start) else none

theorem slice?_length {bytes : Bytes} {n : Nat} (h : n ≤ bytes.length) :
    slice? bytes n bytes.length = some (bytes.drop n) := by
  rw [slice?, if_pos ⟨h, Nat.le_refl _⟩, List.take_length]

theorem slice?_add {bytes : Bytes} {start n : Nat} (h : start + n ≤ bytes.length) :
    slice? bytes start (start + n) = some ((bytes.drop start).take n) := by
  rw [slice?, if_pos ⟨Nat.le_add_right start n, h⟩, List.drop_take, Nat.add_sub_cancel_left]

/-! ### Calls -/

namespace Decoder

variable {δ ι : Type} [Decoder δ ι]

/-- What a call may do to a slice: it refuses an octet, it takes some octets up to the end of a
    message, or it takes all of them. -/
inductive Taken [LawfulDecoder δ] (d : δ) (bytes : Bytes) : Decoded δ (Fed ι) → Prop where
  | refused {e : FrameError} {d' : δ} (hrun : feedAll d bytes = ⟨#[], some e, d'⟩) :
      Taken d bytes (.error e, d')
  | message {item : ι} {n : Nat} {d' : δ} (hpos : 1 ≤ n) (hle : n ≤ bytes.length)
      (hinv : Inv d') (hrun : feedAll d bytes = (feedAll d' (bytes.drop n)).prepend #[item]) :
      Taken d bytes (.ok ⟨n, some item⟩, d')
  | all {d' : δ} (hinv : Inv d') (hrun : feedAll d bytes = ⟨#[], none, d'⟩) :
      Taken d bytes (.ok ⟨bytes.length, none⟩, d')

theorem taken_feedSlice [LawfulDecoder δ] {d : δ} (h : Inv d) (bytes : Bytes) :
    Taken d bytes (feedSlice d bytes) := by
  have hinv := inv_feedEach h 0 bytes
  rw [LawfulDecoder.feedSlice_eq d bytes h]
  rcases feedEach_cases d 0 bytes with
    ⟨e, d', heach, hrun⟩ | ⟨item, n, d', heach, hpos, hle, hrun⟩ | ⟨d', heach, hrun⟩
  · rw [heach]
    exact .refused hrun
  · rw [heach] at hinv ⊢
    rw [Nat.zero_add]
    exact .message hpos hle hinv hrun
  · rw [heach] at hinv ⊢
    rw [Nat.zero_add]
    exact .all hinv hrun

end Decoder

/-! ### Over a slice -/

/-- A loop over a slice: what became of the messages so far, and how often the decoder was
    called. -/
structure Feeding (δ κ : Type) where
  /-- The decoder. -/
  decoder : δ
  /-- What became of the messages. -/
  kept : κ
  /-- The octets that are left. -/
  rest : Bytes
  /-- The number of calls. -/
  calls : Nat := 0

namespace Feeding

variable {δ ι κ : Type} [Decoder δ ι]

/-- One pass: a call for the octets that are left, and the message of it, if there is one. -/
def pass (keep : κ → ι → κ) (s : Feeding δ κ) :
    Pass (Feeding δ κ) (Option FrameError × Feeding δ κ) :=
  if s.rest = [] then .leave (none, s)
  else
    match feedSlice s.decoder s.rest with
    | (.error e, decoder) => .leave (some e, { s with decoder, calls := s.calls + 1 })
    | (.ok fed, decoder) =>
      match slice? s.rest fed.consumed s.rest.length with
      | some rest => .again ⟨decoder, fed.item.elim s.kept (keep s.kept), rest, s.calls + 1⟩
      | none => .fault

/-- A decoder that takes nothing and does not change is called for ever. -/
theorem turns_for_ever {d : δ} {bytes : Bytes} (hne : bytes ≠ [])
    (htaken : feedSlice d bytes = (.ok ⟨0, none⟩, d)) (keep : κ → ι → κ) (kept : κ)
    (calls n : Nat) :
    Pass.within (pass keep) n ⟨d, kept, bytes, calls⟩ = .again ⟨d, kept, bytes, calls + n⟩ := by
  induction n generalizing calls with
  | zero => rfl
  | succ n ih =>
    have hpass : pass keep ⟨d, kept, bytes, calls⟩ = .again ⟨d, kept, bytes, calls + 1⟩ := by
      simp only [pass, if_neg hne, htaken, slice?_length (Nat.zero_le _), List.drop_zero]
      rfl
    rw [Pass.within_of_again hpass, ih, Nat.add_assoc, Nat.add_comm 1 n]

/-- What a loop from `s` comes to: the run over the octets that were left, with at most one call for
    each of them. -/
structure ComesTo (keep : κ → ι → κ) (s : Feeding δ κ) (result : Option FrameError × Feeding δ κ) :
    Prop where
  error : result.1 = (feedAll s.decoder s.rest).error
  decoder : result.2.decoder = (feedAll s.decoder s.rest).decoder
  kept : result.2.kept = (feedAll s.decoder s.rest).items.toList.foldl keep s.kept
  calls : result.2.calls ≤ s.calls + s.rest.length

theorem advance [LawfulDecoder δ] (keep : κ → ι → κ) (s : Feeding δ κ) (hinv : Inv s.decoder) :
    Pass.Advance (pass keep) (fun s => Inv s.decoder) (fun s => s.rest.length)
      (ComesTo keep) s := by
  obtain ⟨d, kept, bytes, calls⟩ := s
  by_cases hne : bytes = []
  · subst hne
    exact .leaves rfl ⟨rfl, rfl, rfl, Nat.le_refl _⟩
  have hpos : 0 < bytes.length := List.length_pos_iff.2 hne
  have htaken := Decoder.taken_feedSlice hinv bytes
  generalize hfeed : feedSlice d bytes = fed at htaken
  cases htaken with
  | @refused e d' hrun =>
    have hpass : pass keep ⟨d, kept, bytes, calls⟩ =
        .leave (some e, ⟨d', kept, bytes, calls + 1⟩) := by
      simp only [pass, if_neg hne, hfeed]
    apply Pass.Advance.leaves hpass
    · constructor <;> simp only [hrun]
      · rfl
      · omega
  | @message item n d' hone hle hinv' hrun =>
    refine .goesOn ⟨d', keep kept item, bytes.drop n, calls + 1⟩ ?_ hinv' ?_ ?_
    · simp only [pass, if_neg hne, hfeed, slice?_length hle]
      rfl
    · show (bytes.drop n).length < bytes.length
      rw [List.length_drop]
      omega
    · intro result hresult
      have hcalls : result.2.calls ≤ calls + 1 + (bytes.drop n).length := hresult.calls
      rw [List.length_drop] at hcalls
      constructor <;> simp only [hrun]
      · exact hresult.error
      · exact hresult.decoder
      · simpa using hresult.kept
      · omega
  | @all d' hinv' hrun =>
    refine .goesOn ⟨d', kept, [], calls + 1⟩ ?_ hinv' hpos ?_
    · simp only [pass, if_neg hne, hfeed, slice?_length (Nat.le_refl _), List.drop_length]
      rfl
    · intro result hresult
      have hcalls : result.2.calls ≤ calls + 1 := hresult.calls
      constructor <;> simp only [hrun]
      · exact hresult.error
      · exact hresult.decoder
      · exact hresult.kept
      · omega

/-- A loop over a slice ends. -/
theorem exists_within_pass [LawfulDecoder δ] {d : δ} (h : Inv d) (keep : κ → ι → κ) (kept : κ)
    (bytes : Bytes) :
    ∃ result, Pass.within (pass keep) (bytes.length + 1) ⟨d, kept, bytes, 0⟩ = .leave result ∧
      ComesTo keep ⟨d, kept, bytes, 0⟩ result :=
  Pass.leaves_of_advance (advance keep) h (Nat.lt_succ_self bytes.length)

end Feeding

/-! ### A slice of frames -/

namespace LengthPrefixed

/-- One pass of the call for a slice of frames, of which `consumed` octets were taken before: the
    octets that a payload still needs, or one octet of a prefix. -/
def pass (bytes : Bytes) :
    LengthPrefixed × Nat → Pass (LengthPrefixed × Nat) (Decoded LengthPrefixed (Fed Bytes))
  | (d, consumed) =>
    if consumed < bytes.length then
      match d.declared with
      | some n =>
        if n < d.pending.size then .fault
        else
          let taken := min (n - d.pending.size) (bytes.length - consumed)
          match slice? bytes consumed (consumed + taken) with
          | none => .fault
          | some octets =>
            let pending := d.pending ++ octets
            if pending.size = n then
              .leave (.ok ⟨consumed + taken, some pending.toList⟩, ⟨none, #[], d.limit⟩)
            else .again (⟨some n, pending, d.limit⟩, consumed + taken)
      | none =>
        match bytes[consumed]? with
        | none => .fault
        | some b =>
          match feed d b with
          | (.error e, d) => .leave (.error e, d)
          | (.ok (some frame), d) => .leave (.ok ⟨consumed + 1, some frame⟩, d)
          | (.ok none, d) => .again (d, consumed + 1)
    else .leave (.ok ⟨consumed, none⟩, d)

/-- A decoder that holds more than was declared, which no calls lead to, would make the pass
    fault. -/
example : pass [0] (⟨some 1, #[1, 2], none⟩, 0) = .fault := rfl

theorem size_append_take (pending : Array UInt8) (k : Nat) (rest : Bytes) :
    (pending ++ rest.take k).size = pending.size + min k rest.length := by
  rw [← Array.length_toList, Array.toList_appendList, List.length_append, Array.length_toList,
    List.length_take]

/-- What of a slice a payload can have: as much as it needs, or all that is there. -/
theorem pass_payload (limit : Option Nat) {n : Nat} {pending : Array UInt8} {bytes : Bytes}
    {consumed : Nat} (hneeded : pending.size < n) (hlt : consumed < bytes.length) :
    let rest := bytes.drop consumed
    let pending' := pending ++ rest.take (n - pending.size)
    pass bytes (⟨some n, pending, limit⟩, consumed) =
      if n - pending.size ≤ rest.length then
        .leave (.ok ⟨consumed + (n - pending.size), some pending'.toList⟩, ⟨none, #[], limit⟩)
      else .again (⟨some n, pending', limit⟩, bytes.length) := by
  intro rest pending'
  have hlength : rest.length = bytes.length - consumed := List.length_drop
  have hguard : ¬ n < pending.size := by omega
  have htaken : consumed + min (n - pending.size) (bytes.length - consumed) ≤ bytes.length := by
    omega
  have hoctets : rest.take (min (n - pending.size) (bytes.length - consumed)) =
      rest.take (n - pending.size) := by
    rw [← hlength, ← List.take_eq_take_min]
  have hsize : pending'.size = pending.size + min (n - pending.size) rest.length :=
    size_append_take pending _ rest
  simp only [pass, if_pos hlt, if_neg hguard, slice?_add htaken]
  rw [hoctets]
  by_cases henough : n - pending.size ≤ rest.length
  · have hfull : pending'.size = n := by omega
    have hmin : min (n - pending.size) (bytes.length - consumed) = n - pending.size := by omega
    rw [if_pos henough, if_pos hfull, hmin]
  · have hshort : pending'.size ≠ n := by omega
    have hmin : consumed + min (n - pending.size) (bytes.length - consumed) = bytes.length := by
      omega
    rw [if_neg henough, if_neg hshort, hmin]

/-- The same of the library's path for slices. -/
theorem takePayload_eq {limit : Option Nat} {n : Nat} {pending : Array UInt8} (consumed : Nat)
    (rest : Bytes) (hneeded : pending.size < n) :
    takePayload limit n pending consumed rest =
      let pending' := pending ++ rest.take (n - pending.size)
      if n - pending.size ≤ rest.length then
        (.ok ⟨consumed + (n - pending.size), some pending'.toList⟩, ⟨none, #[], limit⟩)
      else (.ok ⟨consumed + rest.length, none⟩, ⟨some n, pending', limit⟩) := by
  have hsize := size_append_take pending (n - pending.size) rest
  have hfull : (pending ++ rest.take (n - pending.size)).size = n ↔
      n - pending.size ≤ rest.length := by omega
  simp only [takePayload, hfull]

/-- Whatever is in the slice, a pass of the call for it advances. -/
def Advances (bytes : Bytes) : LengthPrefixed × Nat → Prop :=
  Pass.Advance (pass bytes) (fun s => s.1.WellFormed ∧ s.2 ≤ bytes.length)
    (fun s => bytes.length - s.2) (fun s result => result = feedFrom s.1 s.2 (bytes.drop s.2))

theorem advances_payload {limit : Option Nat} {n : Nat} {pending : Array UInt8} {bytes : Bytes}
    {consumed : Nat} (hneeded : pending.size < n) (hlt : consumed < bytes.length) :
    Advances bytes (⟨some n, pending, limit⟩, consumed) := by
  have hlength : (bytes.drop consumed).length = bytes.length - consumed := List.length_drop
  have hpass := pass_payload limit hneeded hlt
  have hfeed : feedFrom ⟨some n, pending, limit⟩ consumed (bytes.drop consumed) =
      takePayload limit n pending consumed (bytes.drop consumed) := by
    rw [List.drop_eq_getElem_cons hlt]
    rfl
  rw [takePayload_eq consumed _ hneeded] at hfeed
  dsimp only at hpass hfeed
  by_cases henough : n - pending.size ≤ (bytes.drop consumed).length
  · rw [if_pos henough] at hpass hfeed
    exact .leaves hpass hfeed.symm
  · -- the slice is used up, which the next pass finds
    rw [if_neg henough] at hpass hfeed
    refine .goesOn _ hpass ⟨⟨?_, ?_⟩, Nat.le_refl _⟩ ?_ ?_
    · intro hnone
      cases hnone
    · intro m hm
      cases hm
      have hsize := size_append_take pending (n - pending.size) (bytes.drop consumed)
      show (pending ++ (bytes.drop consumed).take (n - pending.size)).size < n
      omega
    · show bytes.length - bytes.length < bytes.length - consumed
      omega
    · intro result hresult
      rw [hfeed, hresult, List.drop_length, hlength, Nat.add_sub_cancel' (Nat.le_of_lt hlt)]
      rfl

theorem advances_prefix {limit : Option Nat} {pending : Array UInt8} {bytes : Bytes}
    {consumed : Nat} (hwell : WellFormed ⟨none, pending, limit⟩) (hlt : consumed < bytes.length) :
    Advances bytes (⟨none, pending, limit⟩, consumed) := by
  have hfed : (feed ⟨none, pending, limit⟩ bytes[consumed]).2.WellFormed := hwell.feed _
  have hrest : bytes.drop consumed = bytes[consumed] :: bytes.drop (consumed + 1) :=
    List.drop_eq_getElem_cons hlt
  have hget : bytes[consumed]? = some bytes[consumed] := List.getElem?_eq_getElem hlt
  rcases hfeed : feed ⟨none, pending, limit⟩ bytes[consumed] with ⟨e | item, d'⟩
  · apply Pass.Advance.leaves
    · simp only [pass, if_pos hlt, hget, hfeed]
      rfl
    · simp only [hrest, feedFrom, hfeed]
  · rw [hfeed] at hfed
    cases item with
    | some frame =>
      apply Pass.Advance.leaves
      · simp only [pass, if_pos hlt, hget, hfeed]
        rfl
      · simp only [hrest, feedFrom, hfeed]
    | none =>
      refine .goesOn (d', consumed + 1) ?_ ⟨hfed, hlt⟩ ?_ ?_
      · simp only [pass, if_pos hlt, hget, hfeed]
      · show bytes.length - (consumed + 1) < bytes.length - consumed
        omega
      · intro result hresult
        simp only [hrest, feedFrom, hfeed, hresult]

theorem advances (bytes : Bytes) (s : LengthPrefixed × Nat)
    (hs : s.1.WellFormed ∧ s.2 ≤ bytes.length) : Advances bytes s := by
  obtain ⟨⟨declared, pending, limit⟩, consumed⟩ := s
  obtain ⟨hwell, hle⟩ := hs
  by_cases hlt : consumed < bytes.length
  · cases declared with
    | none => exact advances_prefix hwell hlt
    | some n => exact advances_payload (hwell.awaiting_payload n rfl) hlt
  · -- no octet is left
    obtain rfl : consumed = bytes.length := Nat.le_antisymm hle (Nat.le_of_not_lt hlt)
    apply Pass.Advance.leaves
    · simp only [pass, if_neg hlt]
      rfl
    · rw [List.drop_length]
      rfl

/-- The call for a slice of frames ends. -/
theorem within_pass {d : LengthPrefixed} (h : d.WellFormed) (bytes : Bytes) :
    Pass.within (pass bytes) (bytes.length + 1) (d, 0) = .leave (d.feedSlice bytes) := by
  obtain ⟨result, hwithin, hright⟩ := Pass.leaves_of_advance (s := (d, 0)) (advances bytes)
    ⟨h, Nat.zero_le _⟩ (Nat.lt_succ_self (bytes.length - 0))
  rw [hright] at hwithin
  exact hwithin

end LengthPrefixed

/-! ### A poll -/

variable {δ ι ε : Type} [Decoder δ ι] [FromFrame ε]

namespace Reassembly

/-! What decoding from the chunk comes to, by what the first call does. -/

theorem drain_of_refused {r : Reassembly δ} {e : FrameError} {d' : δ} (hdone : r.done = false)
    (hne : r.chunk ≠ []) (hfeed : feedSlice r.decoder r.chunk = (.error e, d')) :
    r.drain = (some (.failed (FromFrame.ofFrame e) : Polled ι ε), ⟨d', r.chunk, true⟩) := by
  have hadvance : Decoder.advance r.decoder r.chunk = (.error e, d') := by
    simp only [Decoder.advance, hfeed]
  rw [drain, hdone, if_neg Bool.false_ne_true, dif_neg hne]
  split <;> simp_all

theorem drain_of_message {r : Reassembly δ} {item : ι} {n : Nat} {d' : δ} (hdone : r.done = false)
    (hne : r.chunk ≠ []) (hone : 1 ≤ n)
    (hfeed : feedSlice r.decoder r.chunk = (.ok ⟨n, some item⟩, d')) :
    r.drain = (some (.next item : Polled ι ε), ⟨d', r.chunk.drop n, false⟩) := by
  have hadvance : Decoder.advance r.decoder r.chunk = (.ok (some item, r.chunk.drop n), d') := by
    simp only [Decoder.advance, hfeed, Nat.max_eq_right hone]
  rw [drain, hdone, if_neg Bool.false_ne_true, dif_neg hne]
  split <;> simp_all

theorem drain_of_empty {r : Reassembly δ} (hdone : r.done = false) (hchunk : r.chunk = []) :
    r.drain = ((none : Option (Polled ι ε)), r) := by
  rw [drain, hdone, if_neg Bool.false_ne_true, dif_pos hchunk]

theorem drain_of_all {r : Reassembly δ} {d' : δ} (hdone : r.done = false) (hne : r.chunk ≠ [])
    (hfeed : feedSlice r.decoder r.chunk = (.ok ⟨r.chunk.length, none⟩, d')) :
    r.drain = ((none : Option (Polled ι ε)), ⟨d', [], false⟩) := by
  have hadvance : Decoder.advance r.decoder r.chunk = (.ok (none, []), d') := by
    simp only [Decoder.advance, hfeed]
    rw [List.drop_eq_nil_of_le (by omega)]
  have hempty : (⟨d', [], false⟩ : Reassembly δ).drain =
      ((none : Option (Polled ι ε)), ⟨d', [], false⟩) := drain_of_empty rfl rfl
  rw [drain, hdone, if_neg Bool.false_ne_true, dif_neg hne]
  split <;> simp_all

end Reassembly

namespace FramedStream

/-- One pass of a poll: a call for the octets of the chunk, or a poll of the source where there are
    none. -/
def pass (s : FramedStream δ ε) : Pass (FramedStream δ ε) (Polled ι ε × FramedStream δ ε) :=
  if s.parts.done then .leave (.ended, s)
  else if s.parts.chunk ≠ [] then
    match feedSlice s.parts.decoder s.parts.chunk with
    | (.error e, decoder) =>
      .leave (.failed (FromFrame.ofFrame e), ⟨s.source, ⟨decoder, s.parts.chunk, true⟩⟩)
    | (.ok fed, decoder) =>
      match slice? s.parts.chunk fed.consumed s.parts.chunk.length, fed.item with
      | none, _ => .fault
      | some rest, some item => .leave (.next item, ⟨s.source, ⟨decoder, rest, false⟩⟩)
      | some rest, none => .again ⟨s.source, ⟨decoder, rest, false⟩⟩
  else
    let (polled, source) := s.source.poll
    match s.parts.absorb polled with
    | (some answer, parts) => .leave (answer, ⟨source, parts⟩)
    | (none, parts) => .again ⟨source, parts⟩

/-! What a poll comes to, by what decoding from the chunk comes to. -/

theorem poll_of_drain_some {s : FramedStream δ ε} {answer : Polled ι ε} {parts : Reassembly δ}
    (h : s.parts.drain = (some answer, parts)) : s.poll = (answer, ⟨s.source, parts⟩) := by
  rw [poll]
  split <;> simp_all

theorem poll_congr {s t : FramedStream δ ε}
    (hdrain : (s.parts.drain : Option (Polled ι ε) × _) = t.parts.drain)
    (hsource : s.source = t.source) : (s.poll : Polled ι ε × _) = t.poll := by
  rw [poll, poll, hdrain, hsource]

theorem poll_of_absorb_some {s : FramedStream δ ε} {answer : Polled ι ε}
    {parts parts' : Reassembly δ}
    (hdrain : (s.parts.drain : Option (Polled ι ε) × _) = (none, parts))
    (habsorb : parts.absorb s.source.poll.1 = (some answer, parts')) :
    s.poll = (answer, ⟨s.source.poll.2, parts'⟩) := by
  rw [poll, hdrain]
  dsimp only
  split
  · next h =>
    rw [habsorb] at h
    cases h
    rfl
  · next h =>
    rw [habsorb] at h
    cases h

theorem poll_of_absorb_none {s : FramedStream δ ε} {parts parts' : Reassembly δ}
    (hdrain : (s.parts.drain : Option (Polled ι ε) × _) = (none, parts))
    (habsorb : (parts.absorb s.source.poll.1 : Option (Polled ι ε) × _) = (none, parts')) :
    (s.poll : Polled ι ε × _) = poll ⟨s.source.poll.2, parts'⟩ := by
  rw [poll, hdrain]
  dsimp only
  split
  · next h =>
    rw [habsorb] at h
    cases h
  · next h =>
    rw [habsorb] at h
    cases h
    rfl

/-- The passes before the last one, at most: one for the chunk, and for each answer of the source
    one to get it and one for the chunk that it may be. -/
def passesLeft (s : FramedStream δ ε) : Nat :=
  2 * s.source.answers.length + min 1 s.parts.chunk.length

variable [LawfulDecoder δ]

/-- A pass of a poll advances. -/
def Advances : FramedStream δ ε → Prop :=
  Pass.Advance pass (fun s => Inv s.parts.decoder) passesLeft
    (fun s (result : Polled ι ε × _) => result = s.poll)

theorem advances_source {s : FramedStream δ ε} (hinv : Inv s.parts.decoder)
    (hdone : s.parts.done = false) (hchunk : s.parts.chunk = []) : s.Advances := by
  have hdrain : s.parts.drain = ((none : Option (Polled ι ε)), s.parts) :=
    Reassembly.drain_of_empty hdone hchunk
  rcases habsorb : (s.parts.absorb s.source.poll.1 : Option (Polled ι ε) × _) with
    ⟨_ | answer, parts⟩
  · -- a chunk was pulled, so the source has one answer less
    obtain ⟨hnext, hdecoder⟩ := Reassembly.eq_next_of_absorb_none habsorb
    have hanswers := Script.poll_length s.source (Script.answers_ne_nil_of_poll (by
      rw [hnext]
      rfl))
    have hinv' : Inv parts.decoder := hdecoder ▸ hinv
    refine .goesOn ⟨s.source.poll.2, parts⟩ ?_ hinv' ?_ ?_
    · simp [pass, hdone, hchunk, habsorb]
    · simp only [passesLeft, hchunk, List.length_nil]
      omega
    · intro result hresult
      rw [hresult, poll_of_absorb_none hdrain habsorb]
  · refine .leaves ?_ (poll_of_absorb_some hdrain habsorb).symm
    simp [pass, hdone, hchunk, habsorb]

theorem advances_chunk {s : FramedStream δ ε} (hinv : Inv s.parts.decoder)
    (hdone : s.parts.done = false) (hchunk : s.parts.chunk ≠ []) : s.Advances := by
  have hpos : 0 < s.parts.chunk.length := List.length_pos_iff.2 hchunk
  have htaken := Decoder.taken_feedSlice hinv s.parts.chunk
  generalize hfeed : feedSlice s.parts.decoder s.parts.chunk = fed at htaken
  cases htaken with
  | @refused e d' hrun =>
    have hdrain := Reassembly.drain_of_refused (ε := ε) hdone hchunk hfeed
    refine .leaves ?_ (poll_of_drain_some hdrain).symm
    simp [pass, hdone, hchunk, hfeed]
  | @message item n d' hone hle hinv' hrun =>
    have hdrain := Reassembly.drain_of_message (ε := ε) hdone hchunk hone hfeed
    refine .leaves ?_ (poll_of_drain_some hdrain).symm
    simp [pass, hdone, hchunk, hfeed, slice?_length hle]
  | @all d' hinv' hrun =>
    have hdrain := Reassembly.drain_of_all (ε := ε) hdone hchunk hfeed
    have hempty : (⟨d', [], false⟩ : Reassembly δ).drain =
        ((none : Option (Polled ι ε)), ⟨d', [], false⟩) := Reassembly.drain_of_empty rfl rfl
    refine .goesOn ⟨s.source, ⟨d', [], false⟩⟩ ?_ hinv' ?_ ?_
    · simp [pass, hdone, hchunk, hfeed, slice?_length (Nat.le_refl _)]
    · simp only [passesLeft, List.length_nil]
      omega
    · intro result hresult
      rw [hresult]
      exact poll_congr (hempty.trans hdrain.symm) rfl

theorem advances (s : FramedStream δ ε) (hinv : Inv s.parts.decoder) : s.Advances := by
  cases hdone : s.parts.done with
  | true =>
    have hdrain : s.parts.drain = (some (.ended : Polled ι ε), s.parts) := by
      rw [Reassembly.drain, if_pos hdone]
    refine .leaves ?_ (poll_of_drain_some hdrain).symm
    simp [pass, hdone]
  | false =>
    by_cases hchunk : s.parts.chunk = []
    · exact advances_source hinv hdone hchunk
    · exact advances_chunk hinv hdone hchunk

/-- A poll ends. -/
theorem within_pass {s : FramedStream δ ε} (h : Inv s.parts.decoder) :
    Pass.within pass (2 * s.source.answers.length + 2) s = .leave (s.poll : Polled ι ε × _) := by
  have hleft : passesLeft s < 2 * s.source.answers.length + 2 := by
    unfold passesLeft
    omega
  obtain ⟨result, hwithin, hright⟩ := Pass.leaves_of_advance advances h hleft
  rw [hright] at hwithin
  exact hwithin

end FramedStream

end Duplex
