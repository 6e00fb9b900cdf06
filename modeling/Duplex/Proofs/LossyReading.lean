import Duplex.Proofs.WrittenText
import Mathlib.Algebra.Group.Nat.Defs

/-! # Ill-formed text has no NUL in it

  A reader that meets a surrogate, an overlong form or a truncated sequence replaces it. It never
  makes a NUL of it: only the octet NUL is read as the character NUL (`nul_notMem_chars`).

  Inside a sequence, the octets that the reader still allows can only lead to values of one
  interval. It is set by the first octet (`sound_start`), and each later octet narrows it
  (`Sound.next`), so at the end of the sequence the value is still in the interval that it began
  with. No such interval has zero in it or a value that is no character (`Characters`).
-/

namespace Duplex.Utf8

/-! ### Values -/

/-- All values from `least` up to, but not including, `bound` are those of characters other than
    NUL. -/
def Characters (least bound : Nat) : Prop :=
  0 < least ∧ (bound ≤ 0xD800 ∨ 0xE000 ≤ least ∧ bound ≤ 0x110000)

instance (least bound : Nat) : Decidable (Characters least bound) :=
  inferInstanceAs (Decidable (_ ∧ _))

theorem Characters.mono {least bound least' bound' : Nat} (h : Characters least bound)
    (hleast : least ≤ least') (hbound : bound' ≤ bound) : Characters least' bound' := by
  obtain ⟨hpos, hrange⟩ := h
  exact ⟨Nat.lt_of_lt_of_le hpos hleast,
    hrange.imp (Nat.le_trans hbound)
      (And.imp (fun hlow => Nat.le_trans hlow hleast) (Nat.le_trans hbound))⟩

/-- A value is made into the character it is that of, so not into NUL. -/
theorem Characters.ofNat_ne_nul {least bound v : Nat} (h : Characters least bound)
    (hleast : least ≤ v) (hbound : v < bound) : Char.ofNat v ≠ '\x00' := by
  obtain ⟨hpos, hrange⟩ := h
  have hvalid : v.isValidChar := by
    unfold Nat.isValidChar
    omega
  intro hnul
  have htoNat : (Char.ofNat v).toNat = v := by
    rw [Char.ofNat, dif_pos hvalid]
    rfl
  rw [hnul] at htoNat
  have hzero : v = 0 := htoNat.symm
  omega

/-! ### Open sequences -/

/-- Whatever octets the reader still allows, they lead to a character other than NUL. With `k`
    octets to come after the next one, the value has six bits for each of them. -/
def State.Sound : State → Prop
  | .ground => True
  | .within 0 _ _ _ => False
  | .within (k + 1) low high bits =>
    0x80 ≤ low.toNat ∧
      Characters ((bits * 64 + (low.toNat - 0x80)) * 64 ^ k)
        ((bits * 64 + (high.toNat - 0x80) + 1) * 64 ^ k)

instance : DecidablePred State.Sound
  | .ground => inferInstanceAs (Decidable True)
  | .within 0 _ _ _ => inferInstanceAs (Decidable False)
  | .within (_ + 1) _ _ _ => inferInstanceAs (Decidable (_ ∧ _))

/-- One more octet in the range narrows the interval. -/
theorem State.Sound.next {k bits : Nat} {low high b : UInt8}
    (h : (State.within (k + 1) low high bits).Sound) (hlow : low ≤ b) (hhigh : b ≤ high) :
    Characters ((bits * 64 + (b.toNat - 0x80)) * 64 ^ k)
      ((bits * 64 + (b.toNat - 0x80) + 1) * 64 ^ k) := by
  rw [UInt8.le_iff_toNat_le] at hlow hhigh
  exact h.2.mono (Nat.mul_le_mul_right _ (by omega)) (Nat.mul_le_mul_right _ (by omega))

/-! The full range of an octet leaves the interval as it is. -/

theorem least_full (k bits : Nat) :
    (bits * 64 + ((0x80 : UInt8).toNat - 0x80)) * 64 ^ k = bits * 64 ^ (k + 1) := by
  rw [show (0x80 : UInt8).toNat - 0x80 = 0 from rfl, Nat.add_zero, Nat.mul_assoc, Nat.pow_succ']

theorem bound_full (k bits : Nat) :
    (bits * 64 + ((0xBF : UInt8).toNat - 0x80) + 1) * 64 ^ k = (bits + 1) * 64 ^ (k + 1) := by
  rw [show bits * 64 + ((0xBF : UInt8).toNat - 0x80) + 1 = (bits + 1) * 64 by
    show bits * 64 + 63 + 1 = _; omega, Nat.mul_assoc, Nat.pow_succ']

/-- The interval after an octet is that of the sequence with six bits less to come. -/
theorem State.sound_within {k bits : Nat}
    (h : Characters (bits * 64 ^ (k + 1)) ((bits + 1) * 64 ^ (k + 1))) :
    (State.within (k + 1) 0x80 0xBF bits).Sound :=
  ⟨Nat.le_refl _, by rwa [least_full, bound_full]⟩

/-! ### Octets -/

/-- What an octet may come to: no NUL, and a state that leads to none. -/
def NoNul (outcome : List Char × State) : Prop := '\x00' ∉ outcome.1 ∧ outcome.2.Sound

instance (outcome : List Char × State) : Decidable (NoNul outcome) :=
  inferInstanceAs (Decidable (_ ∧ _))

/-- The first octets: the narrower ranges for the second one keep zero, the surrogates and the
    values past the last character out. -/
theorem noNul_start_ofNat : ∀ n < 256, 0 < n → NoNul (start (UInt8.ofNat n)) := by
  decide +kernel

theorem noNul_start {b : UInt8} (h : b ≠ nul) : NoNul (start b) := by
  have hpos : 0 < b.toNat := Nat.pos_of_ne_zero fun hzero => h (UInt8.toNat_inj.1 hzero)
  have hstart := noNul_start_ofNat b.toNat b.toNat_lt hpos
  rwa [UInt8.ofNat_toNat] at hstart

theorem noNul_step {state : State} (hstate : state.Sound) {b : UInt8} (hb : b ≠ nul) :
    NoNul (step state b) := by
  obtain ⟨hchars, hsound⟩ := noNul_start hb
  match state with
  | .ground => exact ⟨hchars, hsound⟩
  | .within (k + 1) low high bits =>
    by_cases hrange : low ≤ b ∧ b ≤ high
    · have hvalues := hstate.next hrange.1 hrange.2
      simp only [step, if_pos hrange]
      cases k with
      | zero =>
        -- the last octet: the interval has come down to one value
        rw [Nat.pow_zero, Nat.mul_one, Nat.mul_one] at hvalues
        have hchar := hvalues.ofNat_ne_nul (Nat.le_refl _) (Nat.lt_succ_self _)
        exact ⟨by simpa using hchar.symm, trivial⟩
      | succ k => exact ⟨List.not_mem_nil, State.sound_within hvalues⟩
    · simp only [step, if_neg hrange]
      exact ⟨by simpa [replacement] using hchars, hsound⟩

/-! ### Readings -/

/-- Nothing that has been read is NUL, and the reader stands where it leads to none. -/
structure Reading.Clean (r : Reading) : Prop where
  nul_notMem : '\x00' ∉ r.read
  sound : r.state.Sound

theorem Reading.Clean.push {r : Reading} (h : r.Clean) {b : UInt8} (hb : b ≠ nul) :
    (r.push b).Clean := by
  obtain ⟨hchars, hsound⟩ := noNul_step h.sound hb
  refine ⟨?_, hsound⟩
  simp only [Reading.push, List.mem_append, List.mem_reverse, not_or]
  exact ⟨hchars, h.nul_notMem⟩

theorem Reading.Clean.foldl_push {r : Reading} (h : r.Clean) {bytes : Bytes}
    (hbytes : nul ∉ bytes) : (bytes.foldl Reading.push r).Clean := by
  induction bytes generalizing r with
  | nil => exact h
  | cons b rest ih =>
    obtain ⟨hb, hrest⟩ := not_or.1 (mt List.mem_cons.2 hbytes)
    exact ih (h.push (Ne.symm hb)) hrest

/-- **Octets without a NUL are read as text without one**, however ill-formed they are. -/
theorem nul_notMem_chars {bytes : Bytes} (h : nul ∉ bytes) : '\x00' ∉ chars bytes := by
  have hclean : (bytes.foldl Reading.push {}).Clean :=
    Reading.Clean.foldl_push (r := {}) ⟨List.not_mem_nil, trivial⟩ h
  simp only [chars, List.mem_reverse, List.mem_append, not_or]
  refine ⟨?_, hclean.nul_notMem⟩
  cases (bytes.foldl Reading.push {}).state with
  | ground => exact List.not_mem_nil
  | within => simp [flush, replacement]

end Duplex.Utf8
