import Duplex.Codec.Decoder

/-! # Octet by octet

  The plain account of a decoder: it is fed octet by octet, its messages are collected, and
  the first error ends the run (`feedAll`). Where the octets were cut into pieces leaves no
  trace in it (`feedAll_append`), so everything that takes octets in larger pieces is
  measured by it: a call on a slice, a run over a slice, a stream of chunks.

  A `LawfulDecoder` is one whose path for slices agrees with its path for octets in all
  states that satisfy its invariant. `advance` and `decodeAll` of such a decoder are then
  stated in terms of `feedAll`, and the invariant holds after any calls.
-/

namespace Duplex

namespace Decoder

variable {δ ι : Type}

/-! ### Runs -/

namespace Run

/-- The run with messages put in front of its own. -/
def prepend (items : Array ι) (r : Run δ ι) : Run δ ι := { r with items := items ++ r.items }

@[simp] theorem items_prepend (items : Array ι) (r : Run δ ι) :
    (r.prepend items).items = items ++ r.items := rfl

@[simp] theorem error_prepend (items : Array ι) (r : Run δ ι) :
    (r.prepend items).error = r.error := rfl

@[simp] theorem decoder_prepend (items : Array ι) (r : Run δ ι) :
    (r.prepend items).decoder = r.decoder := rfl

@[simp] theorem prepend_empty (r : Run δ ι) : r.prepend #[] = r := by simp [prepend]

@[simp] theorem prepend_prepend (items more : Array ι) (r : Run δ ι) :
    (r.prepend more).prepend items = r.prepend (items ++ more) := by
  simp [prepend, Array.append_assoc]

end Run

variable [Decoder δ ι]

/-- Feeds octets one by one, up to the first error. -/
def feedAll (d : δ) : Bytes → Run δ ι
  | [] => ⟨#[], none, d⟩
  | b :: rest =>
    match feed d b with
    | (.error e, d) => ⟨#[], some e, d⟩
    | (.ok item, d) => (feedAll d rest).prepend item.toArray

theorem feedAll_cons_of_ok {d d' : δ} {b : UInt8} {item : Option ι}
    (h : feed d b = (.ok item, d')) (rest : Bytes) :
    feedAll d (b :: rest) = (feedAll d' rest).prepend item.toArray := by
  simp only [feedAll, h]

/-- The run continued over more octets, unless an error has ended it. -/
def Run.resume (r : Run δ ι) (bytes : Bytes) : Run δ ι :=
  match r.error with
  | some _ => r
  | none => (feedAll r.decoder bytes).prepend r.items

theorem Run.resume_of_error {r : Run δ ι} {e : FrameError} (h : r.error = some e)
    (bytes : Bytes) : r.resume bytes = r := by
  simp [resume, h]

theorem Run.resume_of_ok {r : Run δ ι} (h : r.error = none) (bytes : Bytes) :
    r.resume bytes = (feedAll r.decoder bytes).prepend r.items := by
  simp [resume, h]

theorem Run.resume_prepend (items : Array ι) (r : Run δ ι) (bytes : Bytes) :
    (r.prepend items).resume bytes = (r.resume bytes).prepend items := by
  cases h : r.error with
  | some e => rw [resume_of_error h, resume_of_error (by simpa using h)]
  | none => rw [resume_of_ok h, resume_of_ok (by simpa using h)]; simp

/-- Where a string of octets was cut leaves no trace in the run over it. -/
theorem feedAll_append (d : δ) (a b : Bytes) : feedAll d (a ++ b) = (feedAll d a).resume b := by
  induction a generalizing d with
  | nil => simp [feedAll, Run.resume]
  | cons x rest ih =>
    simp only [List.cons_append, feedAll]
    split
    · rfl
    · -- an item that the first octet completed stands in front of both sides
      rw [ih, Run.resume_prepend]

/-! ### One call -/

/-- What one call on a slice does, octet by octet: it fails where the run fails, or it stops
    right after the first message, or it uses the slice up without one. -/
theorem feedEach_cases (d : δ) (c : Nat) (bytes : Bytes) :
    (∃ e d', feedEach feed d c bytes = (.error e, d') ∧ feedAll d bytes = ⟨#[], some e, d'⟩) ∨
    (∃ item n d', feedEach feed d c bytes = (.ok ⟨c + n, some item⟩, d') ∧
      0 < n ∧ n ≤ bytes.length ∧
      feedAll d bytes = (feedAll d' (bytes.drop n)).prepend #[item]) ∨
    (∃ d', feedEach feed d c bytes = (.ok ⟨c + bytes.length, none⟩, d') ∧
      feedAll d bytes = ⟨#[], none, d'⟩) := by
  induction bytes generalizing d c with
  | nil => exact .inr (.inr ⟨d, rfl, rfl⟩)
  | cons b rest ih =>
    simp only [feedEach, feedAll]
    -- the first octet fails, completes a message, or leaves it to the rest
    rcases hfeed : feed d b with ⟨e | item, d₁⟩
    · exact .inl ⟨e, d₁, rfl, rfl⟩
    · cases item with
      | some item => exact .inr (.inl ⟨item, 1, d₁, rfl, Nat.one_pos, by simp, rfl⟩)
      | none =>
        simp only [Option.toArray_none, Run.prepend_empty, List.length_cons]
        rcases ih d₁ (c + 1) with h | ⟨item, n, d', heach, hpos, hle, hall⟩ | ⟨d', heach, hall⟩
        · exact .inl h
        · refine .inr (.inl ⟨item, n + 1, d', ?_, Nat.succ_pos n, Nat.succ_le_succ hle, hall⟩)
          rw [heach, Nat.add_assoc, Nat.add_comm 1 n]
        · refine .inr (.inr ⟨d', ?_, hall⟩)
          rw [heach, Nat.add_assoc, Nat.add_comm 1 rest.length]

/-! ### Calls -/

/-- A call to a decoder. -/
inductive Call where
  /-- One octet. -/
  | feed (octet : UInt8)
  /-- A slice, up to the first message or error. -/
  | feedSlice (bytes : Bytes)
  /-- All of a slice, up to the first error. -/
  | decodeAll (bytes : Bytes)
  /-- Whether the stream may end. -/
  | finish

/-- The decoder after a call, whatever the call answered. -/
def after (d : δ) : Call → δ
  | .feed octet => (feed d octet).2
  | .feedSlice bytes => (feedSlice d bytes).2
  | .decodeAll bytes => (decodeAll d bytes).decoder
  | .finish => d

/-- The decoder after some calls, those that failed included. -/
def afterCalls (d : δ) (calls : List Call) : δ := calls.foldl after d

end Decoder

/-! ### Lawful decoders -/

/-- A decoder whose path for slices agrees with its path for octets, wherever its invariant
    holds. -/
class LawfulDecoder (δ : Type) {ι : outParam Type} [Decoder δ ι] where
  /-- What holds of a new decoder and after every call. -/
  Inv : δ → Prop
  /-- An octet keeps the invariant, whatever it leads to. -/
  inv_feed : ∀ (d : δ) (b : UInt8), Inv d → Inv (Decoder.feed d b).2
  /-- A slice is taken as its octets are. -/
  feedSlice_eq : ∀ (d : δ) (bytes : Bytes), Inv d →
    Decoder.feedSlice d bytes = feedEach Decoder.feed d 0 bytes

/-- A decoder in a state that satisfies its invariant, such as a new one. -/
abbrev SoundDecoder (δ : Type) {ι : outParam Type} [Decoder δ ι] [LawfulDecoder δ] :=
  { d : δ // LawfulDecoder.Inv d }

namespace Decoder

open LawfulDecoder (Inv inv_feed feedSlice_eq)

variable {δ ι : Type} [Decoder δ ι] [LawfulDecoder δ]

theorem inv_feedEach {d : δ} (h : Inv d) (c : Nat) (bytes : Bytes) :
    Inv (feedEach feed d c bytes).2 := by
  induction bytes generalizing d c with
  | nil => exact h
  | cons b rest ih =>
    have hfed := inv_feed d b h
    simp only [feedEach]
    split
    · next heq => rwa [heq] at hfed
    · next heq => rwa [heq] at hfed
    · next heq => rw [heq] at hfed; exact ih hfed _

theorem inv_feedAll {d : δ} (h : Inv d) (bytes : Bytes) : Inv (feedAll d bytes).decoder := by
  induction bytes generalizing d with
  | nil => exact h
  | cons b rest ih =>
    have hfed := inv_feed d b h
    simp only [feedAll]
    split
    · next heq => rwa [heq] at hfed
    · next heq => rw [heq] at hfed; exact ih hfed

/-- What one call on a slice does, in terms of the run over its octets. -/
theorem advance_cases {d : δ} (h : Inv d) (bytes : Bytes) :
    (∃ e d', advance d bytes = (.error e, d') ∧ feedAll d bytes = ⟨#[], some e, d'⟩) ∨
    (∃ item rest d', advance d bytes = (.ok (some item, rest), d') ∧
      Inv d' ∧ rest <:+ bytes ∧ feedAll d bytes = (feedAll d' rest).prepend #[item]) ∨
    (∃ d', advance d bytes = (.ok (none, []), d') ∧
      Inv d' ∧ feedAll d bytes = ⟨#[], none, d'⟩) := by
  have hinv := inv_feedEach h 0 bytes
  simp only [advance, feedSlice_eq d bytes h]
  rcases feedEach_cases d 0 bytes with
    ⟨e, d', heach, hall⟩ | ⟨item, n, d', heach, hpos, _, hall⟩ | ⟨d', heach, hall⟩
  · rw [heach]
    exact .inl ⟨e, d', rfl, hall⟩
  · -- a message takes an octet, so taking at least one is taking what was consumed
    have hmax : max 1 (0 + n) = n := by omega
    rw [heach] at hinv ⊢
    refine .inr (.inl ⟨item, bytes.drop n, d', ?_, hinv, List.drop_suffix n bytes, hall⟩)
    simp only [hmax]
  · have hle : bytes.length ≤ max 1 (0 + bytes.length) := by omega
    rw [heach] at hinv ⊢
    refine .inr (.inr ⟨d', ?_, hinv, hall⟩)
    simp only [List.drop_eq_nil_of_le hle]

/-- A call that fails is a run that fails before any message. -/
theorem feedAll_of_advance_error {d d' : δ} {bytes : Bytes} {e : FrameError} (h : Inv d)
    (ha : advance d bytes = (.error e, d')) : feedAll d bytes = ⟨#[], some e, d'⟩ := by
  rcases advance_cases h bytes with ⟨_, _, hadv, hall⟩ | ⟨_, _, _, hadv, _⟩ | ⟨_, hadv, _⟩
  all_goals
    rw [hadv] at ha
    cases ha
  exact hall

/-- A call that completes a message stops right after it. -/
theorem feedAll_of_advance_item {d d' : δ} {bytes rest : Bytes} {item : ι} (h : Inv d)
    (ha : advance d bytes = (.ok (some item, rest), d')) :
    Inv d' ∧ rest <:+ bytes ∧ feedAll d bytes = (feedAll d' rest).prepend #[item] := by
  rcases advance_cases h bytes with ⟨_, _, hadv, _⟩ | ⟨_, _, _, hadv, hall⟩ | ⟨_, hadv, _⟩
  all_goals
    rw [hadv] at ha
    cases ha
  exact hall

/-- A call that completes no message uses the slice up. -/
theorem feedAll_of_advance_none {d d' : δ} {bytes rest : Bytes} (h : Inv d)
    (ha : advance d bytes = (.ok (none, rest), d')) :
    Inv d' ∧ rest = [] ∧ feedAll d bytes = ⟨#[], none, d'⟩ := by
  rcases advance_cases h bytes with ⟨_, _, hadv, _⟩ | ⟨_, _, _, hadv, _⟩ | ⟨_, hadv, hinv, hall⟩
  all_goals
    rw [hadv] at ha
    cases ha
  exact ⟨hinv, rfl, hall⟩

theorem decodeOnto_eq {d : δ} (h : Inv d) (items : Array ι) (bytes : Bytes) :
    decodeOnto items d bytes = (feedAll d bytes).prepend items := by
  fun_induction decodeOnto items d bytes with
  | case1 items d => simp [feedAll, Run.prepend]
  | case2 items d bytes _ e d' ha => simp [feedAll_of_advance_error h ha, Run.prepend]
  | case3 items d bytes _ item rest d' ha ih =>
    cases item with
    | some item =>
      obtain ⟨hinv, _, hall⟩ := feedAll_of_advance_item h ha
      rw [ih hinv, hall, Run.prepend_prepend]
      rfl
    | none =>
      obtain ⟨hinv, rfl, hall⟩ := feedAll_of_advance_none h ha
      rw [ih hinv, hall]
      simp [feedAll]

/-- A run over a slice is the run over its octets. -/
theorem decodeAll_eq {d : δ} (h : Inv d) (bytes : Bytes) : decodeAll d bytes = feedAll d bytes := by
  rw [decodeAll, decodeOnto_eq h, Run.prepend_empty]

theorem inv_after {d : δ} (h : Inv d) (call : Call) : Inv (after d call) := by
  cases call with
  | feed octet => exact inv_feed d octet h
  | feedSlice bytes =>
    simp only [after, feedSlice_eq d bytes h]
    exact inv_feedEach h 0 bytes
  | decodeAll bytes =>
    simp only [after, decodeAll_eq h]
    exact inv_feedAll h bytes
  | finish => exact h

/-- The invariant holds in every state that calls lead to. -/
theorem inv_afterCalls {d : δ} (h : Inv d) (calls : List Call) : Inv (afterCalls d calls) := by
  induction calls generalizing d with
  | nil => exact h
  | cons call rest ih => exact ih (inv_after h call)

end Decoder

end Duplex
