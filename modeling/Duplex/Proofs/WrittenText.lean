import Duplex.Codec.NulString

/-! # Text that was written

  Reading is lossy, but it loses nothing of what was written: the octets of a text are read as
  that text (`decode_encode`). The reader comes to the end of each character at a character
  boundary, so characters are read one by one.

  No character but NUL has a NUL among its octets. Cutting the octets of a text at each NUL
  therefore gives the octets of the pieces of the text (`splitOn_octets`).
-/

namespace Duplex.Utf8

/-! ### First octets

  The octets that a writer opens a character with, by the number of octets of the character.
  Three and four octets have a narrower range for the second one where `a` is at its bounds. -/

theorem start_one : ∀ a < 128, start (UInt8.ofNat a) = ([Char.ofNat a], .ground) := by
  decide +kernel

theorem start_two : ∀ a < 32, 2 ≤ a →
    start (UInt8.ofNat (a + 192)) = ([], .within 1 0x80 0xBF a) := by
  decide +kernel

theorem start_three : ∀ a < 16, start (UInt8.ofNat (a + 224)) =
    ([], .within 2 (if a = 0 then 0xA0 else 0x80) (if a = 13 then 0x9F else 0xBF) a) := by
  decide +kernel

theorem start_four : ∀ a < 5, start (UInt8.ofNat (a + 240)) =
    ([], .within 3 (if a = 0 then 0x90 else 0x80) (if a = 4 then 0x8F else 0xBF) a) := by
  decide +kernel

theorem push_ground {b : UInt8} {cs : List Char} {state : State} (h : start b = (cs, state))
    (read : List Char) :
    (⟨read, .ground⟩ : Reading).push b = ⟨cs.reverse ++ read, state⟩ := by
  simp only [Reading.push, step, h]

/-! ### Later octets -/

/-- An octet in the range that the sequence allows brings six more bits. -/
theorem push_within {owed bits n : Nat} {low high : UInt8} (read : List Char)
    (hlow : low.toNat ≤ n + 128) (hhigh : n + 128 ≤ high.toNat) :
    (⟨read, .within owed low high bits⟩ : Reading).push (UInt8.ofNat (n + 128)) =
      if owed ≤ 1 then ⟨Char.ofNat (bits * 64 + n) :: read, .ground⟩
      else ⟨read, .within (owed - 1) 0x80 0xBF (bits * 64 + n)⟩ := by
  have hlt : n + 128 < 256 := Nat.lt_of_le_of_lt hhigh high.toNat_lt
  have htoNat : (UInt8.ofNat (n + 128)).toNat = n + 128 := UInt8.toNat_ofNat_of_lt hlt
  have hrange : low ≤ UInt8.ofNat (n + 128) ∧ UInt8.ofNat (n + 128) ≤ high := by
    simp only [UInt8.le_iff_toNat_le, htoNat]
    exact ⟨hlow, hhigh⟩
  have hbits : (UInt8.ofNat (n + 128)).toNat - 0x80 = n := by
    rw [htoNat]
    exact Nat.add_sub_cancel n 128
  simp only [Reading.push, step, if_pos hrange, hbits]
  split <;> rfl

/-- The last octet of a character, in the full range or the narrower one of a second octet. -/
theorem push_last {bits n : Nat} {low high : UInt8} (read : List Char)
    (hlow : low.toNat ≤ n + 128) (hhigh : n + 128 ≤ high.toNat) :
    (⟨read, .within 1 low high bits⟩ : Reading).push (UInt8.ofNat (n + 128)) =
      ⟨Char.ofNat (bits * 64 + n) :: read, .ground⟩ := by
  rw [push_within read hlow hhigh, if_pos (Nat.le_refl 1)]

/-- An octet after which more are owed. -/
theorem push_inner {owed bits n : Nat} {low high : UInt8} (read : List Char)
    (hlow : low.toNat ≤ n + 128) (hhigh : n + 128 ≤ high.toNat) :
    (⟨read, .within (owed + 2) low high bits⟩ : Reading).push (UInt8.ofNat (n + 128)) =
      ⟨read, .within (owed + 1) 0x80 0xBF (bits * 64 + n)⟩ := by
  have hmore : ¬ owed + 2 ≤ 1 := by omega
  rw [push_within read hlow hhigh, if_neg hmore]
  rfl

/-- Six bits lie in the full range. -/
theorem tail_range (v : Nat) :
    (0x80 : UInt8).toNat ≤ v % 64 + 128 ∧ v % 64 + 128 ≤ (0xBF : UInt8).toNat := by
  show 128 ≤ v % 64 + 128 ∧ v % 64 + 128 ≤ 191
  omega

/-! ### Characters -/

theorem read_two {v : Nat} (hlow : 0x80 ≤ v) (hhigh : v < 0x800) (read : List Char) :
    [UInt8.ofNat (v / 64 % 32 + 192), UInt8.ofNat (v % 64 + 128)].foldl Reading.push
      ⟨read, .ground⟩ = ⟨Char.ofNat v :: read, .ground⟩ := by
  have hfirst := start_two (v / 64 % 32) (Nat.mod_lt _ (by decide)) (by omega)
  have hbits : v / 64 % 32 * 64 + v % 64 = v := by omega
  rw [List.foldl_cons, push_ground hfirst, List.foldl_cons,
    push_last _ (tail_range v).1 (tail_range v).2, hbits]
  rfl

theorem read_three {v : Nat} (hlow : 0x800 ≤ v) (hhigh : v < 0x10000)
    (hvalid : v < 0xD800 ∨ 0xDFFF < v) (read : List Char) :
    [UInt8.ofNat (v / 4096 % 16 + 224), UInt8.ofNat (v / 64 % 64 + 128),
      UInt8.ofNat (v % 64 + 128)].foldl Reading.push ⟨read, .ground⟩ =
      ⟨Char.ofNat v :: read, .ground⟩ := by
  have hfirst := start_three (v / 4096 % 16) (Nat.mod_lt _ (by decide))
  -- the narrower ranges leave out what fits in two octets, and the surrogates
  have hsecond : (if v / 4096 % 16 = 0 then 0xA0 else 0x80 : UInt8).toNat ≤ v / 64 % 64 + 128 ∧
      v / 64 % 64 + 128 ≤ (if v / 4096 % 16 = 13 then 0x9F else 0xBF : UInt8).toNat := by
    constructor
    · split
      · show 160 ≤ _; omega
      · exact (tail_range _).1
    · split
      · show _ ≤ 159; omega
      · exact (tail_range _).2
  have hbits : (v / 4096 % 16 * 64 + v / 64 % 64) * 64 + v % 64 = v := by omega
  rw [List.foldl_cons, push_ground hfirst, List.foldl_cons, push_inner _ hsecond.1 hsecond.2,
    List.foldl_cons, push_last _ (tail_range v).1 (tail_range v).2, hbits]
  rfl

theorem read_four {v : Nat} (hlow : 0x10000 ≤ v) (hhigh : v < 0x110000) (read : List Char) :
    [UInt8.ofNat (v / 262144 % 8 + 240), UInt8.ofNat (v / 4096 % 64 + 128),
      UInt8.ofNat (v / 64 % 64 + 128), UInt8.ofNat (v % 64 + 128)].foldl Reading.push
      ⟨read, .ground⟩ = ⟨Char.ofNat v :: read, .ground⟩ := by
  have hfirst := start_four (v / 262144 % 8) (by omega)
  -- the narrower ranges leave out what fits in three octets, and what is no character
  have hsecond : (if v / 262144 % 8 = 0 then 0x90 else 0x80 : UInt8).toNat ≤
        v / 4096 % 64 + 128 ∧
      v / 4096 % 64 + 128 ≤ (if v / 262144 % 8 = 4 then 0x8F else 0xBF : UInt8).toNat := by
    constructor
    · split
      · show 144 ≤ _; omega
      · exact (tail_range _).1
    · split
      · show _ ≤ 143; omega
      · exact (tail_range _).2
  have hbits : ((v / 262144 % 8 * 64 + v / 4096 % 64) * 64 + v / 64 % 64) * 64 + v % 64 = v := by
    omega
  rw [List.foldl_cons, push_ground hfirst, List.foldl_cons, push_inner _ hsecond.1 hsecond.2,
    List.foldl_cons, push_inner _ (tail_range _).1 (tail_range _).2, List.foldl_cons,
    push_last _ (tail_range v).1 (tail_range v).2, hbits]
  rfl

/-- From one character boundary to the next, the octets of a character are read as it. -/
theorem read_encodeChar (c : Char) (read : List Char) :
    (String.utf8EncodeChar c).foldl Reading.push ⟨read, .ground⟩ = ⟨c :: read, .ground⟩ := by
  have hchar : Char.ofNat c.val.toNat = c := Char.ofNat_toNat c
  have hvalid : c.val.toNat < 0xD800 ∨ 0xDFFF < c.val.toNat ∧ c.val.toNat < 0x110000 := c.valid
  unfold String.utf8EncodeChar
  generalize c.val.toNat = v at hchar hvalid
  rw [← hchar]
  dsimp only
  by_cases hone : v ≤ 127
  · rw [if_pos hone, List.foldl_cons, push_ground (start_one v (by omega))]
    rfl
  by_cases htwo : v ≤ 2047
  · rw [if_neg hone, if_pos htwo]
    exact read_two (by omega) (by omega) read
  by_cases hthree : v ≤ 65535
  · rw [if_neg hone, if_neg htwo, if_pos hthree]
    exact read_three (by omega) (by omega) (by omega) read
  · rw [if_neg hone, if_neg htwo, if_neg hthree]
    exact read_four (by omega) (by omega) read

/-! ### Texts -/

/-- The octets of some characters. -/
def octets (cs : List Char) : Bytes := cs.flatMap String.utf8EncodeChar

theorem octets_cons (c : Char) (cs : List Char) :
    octets (c :: cs) = String.utf8EncodeChar c ++ octets cs := List.flatMap_cons

theorem length_encode (text : String) : (encode text).length = text.utf8ByteSize := by
  rw [← String.size_toByteArray, ← String.utf8Encode_toList]
  simp [encode, List.utf8Encode]

theorem read_octets (cs read : List Char) :
    (octets cs).foldl Reading.push ⟨read, .ground⟩ = ⟨cs.reverse ++ read, .ground⟩ := by
  induction cs generalizing read with
  | nil => rfl
  | cons c cs ih =>
    rw [octets_cons, List.foldl_append, read_encodeChar, ih, List.reverse_cons, List.append_assoc]
    rfl

/-- The octets of some characters are read as those characters. -/
theorem chars_octets (cs : List Char) : chars (octets cs) = cs := by
  simp only [chars, read_octets, flush, List.append_nil, List.nil_append, List.reverse_reverse]

theorem decode_octets (cs : List Char) : decode (octets cs) = String.ofList cs := by
  rw [decode, chars_octets]

/-- **A text that was written is read as that text.** -/
theorem decode_encode (text : String) : decode (encode text) = text := by
  rw [show encode text = octets text.toList from rfl, decode_octets, String.ofList_toList]

/-! ### NUL -/

theorem nul_ne_ofNat {n : Nat} (hpos : 0 < n) (hlt : n < 256) : nul ≠ UInt8.ofNat n := by
  intro h
  have hzero : 0 = (UInt8.ofNat n).toNat := congrArg UInt8.toNat h
  rw [UInt8.toNat_ofNat_of_lt' hlt] at hzero
  exact absurd hzero (Nat.ne_of_lt hpos)

/-- All octets of a longer sequence are marked as such, so none of them is NUL. -/
theorem nul_notMem_encodeChar {c : Char} (h : c ≠ '\x00') : nul ∉ String.utf8EncodeChar c := by
  have hpos : 0 < c.val.toNat := by
    refine Nat.pos_of_ne_zero fun hzero => h ?_
    rw [← Char.ofNat_toNat c, show c.toNat = 0 from hzero]
  unfold String.utf8EncodeChar
  generalize c.val.toNat = v at hpos
  dsimp only
  split
  · simpa using nul_ne_ofNat hpos (by omega)
  split
  · simp only [List.mem_cons, List.not_mem_nil, or_false, not_or]
    exact ⟨nul_ne_ofNat (by omega) (by omega), nul_ne_ofNat (by omega) (by omega)⟩
  split
  · simp only [List.mem_cons, List.not_mem_nil, or_false, not_or]
    exact ⟨nul_ne_ofNat (by omega) (by omega), nul_ne_ofNat (by omega) (by omega),
      nul_ne_ofNat (by omega) (by omega)⟩
  · simp only [List.mem_cons, List.not_mem_nil, or_false, not_or]
    exact ⟨nul_ne_ofNat (by omega) (by omega), nul_ne_ofNat (by omega) (by omega),
      nul_ne_ofNat (by omega) (by omega), nul_ne_ofNat (by omega) (by omega)⟩

/-- Octets in front of which no cut falls stay in one piece. -/
theorem splitOn_append_of_notMem {first : Bytes} (h : nul ∉ first) (rest : Bytes) :
    (first ++ rest).splitOn nul = (rest.splitOn nul).modifyHead (first ++ ·) := by
  induction first with
  | nil =>
    rw [List.nil_append]
    cases rest.splitOn nul <;> rfl
  | cons b first ih =>
    obtain ⟨hb, hfirst⟩ := not_or.1 (mt List.mem_cons.2 h)
    have hne : (b == nul) = false := beq_false_of_ne (Ne.symm hb)
    rw [List.cons_append, List.splitOn_cons_eq_if_modifyHead, hne, ih hfirst]
    simp [Function.comp_def]

/-- The octets of some characters, cut at each NUL, are those of the characters, cut so. -/
theorem splitOn_octets (cs : List Char) :
    (octets cs).splitOn nul = (cs.splitOn '\x00').map octets := by
  induction cs with
  | nil => rfl
  | cons c cs ih =>
    rw [octets_cons, List.splitOn_cons_eq_if_modifyHead]
    by_cases hc : c = '\x00'
    · subst hc
      rw [show String.utf8EncodeChar '\x00' ++ octets cs = nul :: octets cs from rfl,
        List.splitOn_cons_eq_if_modifyHead, ih]
      rfl
    · rw [splitOn_append_of_notMem (nul_notMem_encodeChar hc), ih, if_neg (by simpa using hc)]
      cases cs.splitOn '\x00' with
      | nil => rfl
      | cons piece pieces => simp [octets_cons]

end Duplex.Utf8
