import Duplex.Proofs.LossyReading
import Mathlib.Data.List.Induction
import Mathlib.Data.Nat.Find

/-! # What is replaced

  Lossy reading is said here without a reader. Octets at which no character begins are left in
  *maximal subparts*: the longest string there that begins the octets of some character, or one
  octet if none does. Each is replaced by one character (`Lossy`). All octets have just one such
  reading, and it is the one that the reader comes to (`lossy_iff`).

  What the reader has in hand inside a sequence is a prefix of the octets of each character that it
  still allows (`Leads`). So an octet that it takes makes a longer prefix, and where a subpart is
  maximal it takes none. That there is no other prefix follows from how characters are read: before
  its last octet, nothing of a character is out (`scan_of_append`).
-/

namespace Duplex.Utf8

/-! ### Readings -/

/-- Whether the octets are the first ones of some character, or all of them. -/
def Begins (part : Bytes) : Prop := ∃ c, part <+: String.utf8EncodeChar c

/-- Whether the octets may be a subpart: one octet, or the first ones of some character. -/
def Initial (part : Bytes) : Prop := part.length = 1 ∨ part ≠ [] ∧ Begins part

theorem Initial.ne_nil {part : Bytes} (h : Initial part) : part ≠ [] := by
  rintro rfl
  rcases h with hone | ⟨hne, -⟩
  · cases hone
  · exact hne rfl

/-- A maximal subpart in front of other octets. -/
structure Subpart (part rest : Bytes) : Prop where
  /-- No character begins here. -/
  unconvertible : ∀ c, ¬ String.utf8EncodeChar c <+: part ++ rest
  initial : Initial part
  longest : ∀ longer, longer <+: part ++ rest → part.length < longer.length → ¬ Initial longer

/-- `Lossy bytes cs`: the octets are those of the characters, except that a replacement character
    may stand for a maximal subpart. -/
inductive Lossy : Bytes → List Char → Prop where
  | nil : Lossy [] []
  | char {rest : Bytes} {cs : List Char} (c : Char) (hrest : Lossy rest cs) :
      Lossy (String.utf8EncodeChar c ++ rest) (c :: cs)
  | subpart {part rest : Bytes} {cs : List Char} (hpart : Subpart part rest)
      (hrest : Lossy rest cs) : Lossy (part ++ rest) (replacement :: cs)

theorem encodeChar_ne_nil (c : Char) : String.utf8EncodeChar c ≠ [] := by
  unfold String.utf8EncodeChar
  dsimp only
  split_ifs <;> exact List.cons_ne_nil _ _

/-- Where no character begins there is a maximal subpart. -/
theorem exists_subpart {bytes : Bytes} (hne : bytes ≠ [])
    (hchar : ∀ c, ¬ String.utf8EncodeChar c <+: bytes) :
    ∃ part rest, part ++ rest = bytes ∧ Subpart part rest := by
  classical
  have hpos : 1 ≤ bytes.length := List.length_pos_iff.2 hne
  have hone : Initial (bytes.take 1) := .inl (List.length_take_of_le hpos)
  -- the longest of the prefixes that may be a subpart
  generalize hgreatest :
    Nat.findGreatest (fun n => Initial (bytes.take n)) bytes.length = n
  have hinitial : Initial (bytes.take n) :=
    hgreatest ▸ Nat.findGreatest_spec (P := fun n => Initial (bytes.take n)) hpos hone
  have hle : n ≤ bytes.length := hgreatest ▸ Nat.findGreatest_le bytes.length
  refine ⟨bytes.take n, bytes.drop n, List.take_append_drop n bytes, ?_, hinitial, ?_⟩
  · rwa [List.take_append_drop]
  · intro longer hlonger hlt hinitial'
    rw [List.take_append_drop] at hlonger
    rw [List.length_take_of_le hle, ← hgreatest] at hlt
    rw [List.prefix_iff_eq_take.1 hlonger] at hinitial'
    exact Nat.findGreatest_is_greatest hlt hlonger.length_le hinitial'

/-! ### Reading from a state on -/

/-- The characters that some octets complete from a state on, and where the reader stands after
    them. -/
def scan (state : State) : Bytes → List Char × State
  | [] => ([], state)
  | b :: rest =>
    ((step state b).1 ++ (scan (step state b).2 rest).1, (scan (step state b).2 rest).2)

/-- The characters of some octets from a state on. -/
def charsFrom (state : State) : Bytes → List Char
  | [] => flush state
  | b :: rest => (step state b).1 ++ charsFrom (step state b).2 rest

theorem scan_append (state : State) (first rest : Bytes) :
    scan state (first ++ rest) =
      ((scan state first).1 ++ (scan (scan state first).2 rest).1,
        (scan (scan state first).2 rest).2) := by
  induction first generalizing state with
  | nil => rfl
  | cons b first ih => simp only [List.cons_append, scan, ih, List.append_assoc]

theorem scan_concat (state : State) (first : Bytes) (b : UInt8) :
    scan state (first ++ [b]) =
      ((scan state first).1 ++ (step (scan state first).2 b).1,
        (step (scan state first).2 b).2) := by
  rw [scan_append]
  simp only [scan, List.append_nil]

theorem charsFrom_append (state : State) (first rest : Bytes) :
    charsFrom state (first ++ rest) =
      (scan state first).1 ++ charsFrom (scan state first).2 rest := by
  induction first generalizing state with
  | nil => rfl
  | cons b first ih => simp only [List.cons_append, charsFrom, scan, ih, List.append_assoc]

theorem foldl_push (bytes : Bytes) (read : List Char) (state : State) :
    bytes.foldl Reading.push ⟨read, state⟩ =
      ⟨(scan state bytes).1.reverse ++ read, (scan state bytes).2⟩ := by
  induction bytes generalizing read state with
  | nil => rfl
  | cons b rest ih =>
    have hpush : (⟨read, state⟩ : Reading).push b =
        ⟨(step state b).1.reverse ++ read, (step state b).2⟩ := rfl
    rw [List.foldl_cons, hpush, ih]
    simp only [scan, List.reverse_append, List.append_assoc]

theorem chars_eq_charsFrom (bytes : Bytes) : chars bytes = charsFrom .ground bytes := by
  have hflush (state : State) : (flush state).reverse = flush state := by cases state <;> rfl
  have happend := charsFrom_append .ground bytes []
  rw [List.append_nil] at happend
  rw [chars, foldl_push, happend]
  simp only [List.append_nil, List.reverse_append, List.reverse_reverse, hflush, charsFrom]

/-! ### Characters -/

theorem scan_encodeChar (c : Char) : scan .ground (String.utf8EncodeChar c) = ([c], .ground) := by
  have hread := read_encodeChar c []
  rw [foldl_push, Reading.mk.injEq, List.append_nil, List.reverse_eq_iff] at hread
  exact Prod.ext hread.1 hread.2

theorem chars_encodeChar_append (c : Char) (rest : Bytes) :
    chars (String.utf8EncodeChar c ++ rest) = c :: chars rest := by
  rw [chars_eq_charsFrom, charsFrom_append, scan_encodeChar, chars_eq_charsFrom]
  rfl

theorem start_ne_nil : ∀ n < 256, (start (UInt8.ofNat n)).2 = .ground →
    (start (UInt8.ofNat n)).1 ≠ [] := by
  decide +kernel

/-- The reader comes back to a boundary only with a character. -/
theorem step_ne_nil {state : State} {b : UInt8} (h : (step state b).2 = .ground) :
    (step state b).1 ≠ [] := by
  cases state with
  | ground =>
    have hstart := start_ne_nil b.toNat b.toNat_lt
    rw [UInt8.ofNat_toNat] at hstart
    exact hstart h
  | within owed low high bits =>
    by_cases hrange : low ≤ b ∧ b ≤ high
    · by_cases hlast : owed ≤ 1
      · simp [step, hrange, hlast]
      · simp [step, hrange, hlast] at h
    · simp [step, hrange]

theorem scan_ne_nil {state : State} {bytes : Bytes} (hne : bytes ≠ [])
    (h : (scan state bytes).2 = .ground) : (scan state bytes).1 ≠ [] := by
  rcases List.eq_nil_or_concat bytes with rfl | ⟨init, b, rfl⟩
  · exact absurd rfl hne
  · rw [List.concat_eq_append, scan_concat] at h ⊢
    exact fun hnil => step_ne_nil h (List.append_eq_nil_iff.1 hnil).2

/-- Before its last octet, nothing of a character is out. -/
theorem scan_of_append {c : Char} {part rest : Bytes} (hrest : rest ≠ [])
    (h : part ++ rest = String.utf8EncodeChar c) : (scan .ground part).1 = [] := by
  have hall := scan_encodeChar c
  rw [← h, scan_append, Prod.mk.injEq] at hall
  obtain ⟨hchars, hground⟩ := hall
  have hlast := scan_ne_nil hrest hground
  -- the character that comes out is that of the last octets
  have hlength := congrArg List.length hchars
  rw [List.length_append, List.length_singleton] at hlength
  have hpos := List.length_pos_iff.2 hlast
  exact List.length_eq_zero_iff.1 (by omega)

/-! ### Open sequences -/

/-- The last `k` octets of the character with value `v`. -/
def tail : Nat → Nat → Bytes
  | 0, _ => []
  | k + 1, v => UInt8.ofNat (v / 64 ^ k % 64 + 128) :: tail k v

/-- The octets that were read in a state begin each character whose value is in the interval of the
    state. -/
def Leads (part : Bytes) : State → Prop
  | .ground | .within 0 _ _ _ => False
  | .within (k + 1) low high bits =>
    0x80 ≤ low.toNat ∧ high.toNat ≤ 0xBF ∧
      ∀ v, (bits * 64 + (low.toNat - 0x80)) * 64 ^ k ≤ v →
        v < (bits * 64 + (high.toNat - 0x80) + 1) * 64 ^ k →
        String.utf8EncodeChar (Char.ofNat v) = part ++ tail (k + 1) v

/-- Nothing leads on from a boundary, or where no octet is owed. -/
theorem Leads.eq_within {part : Bytes} {state : State} (h : Leads part state) :
    ∃ k low high bits, state = .within (k + 1) low high bits := by
  cases state with
  | ground => exact h.elim
  | within owed low high bits =>
    cases owed with
    | zero => exact h.elim
    | succ k => exact ⟨k, low, high, bits, rfl⟩

theorem toNat_ofNat_of_isValidChar {v : Nat} (h : v.isValidChar) :
    (Char.ofNat v).val.toNat = v := by
  rw [Char.ofNat, dif_pos h]
  rfl

/-! The octets of a character by its value, with the first one told by the highest bits. -/

theorem encodeChar_one {v : Nat} (h : v ≤ 0x7F) :
    String.utf8EncodeChar (Char.ofNat v) = [UInt8.ofNat v] := by
  have hv := toNat_ofNat_of_isValidChar (v := v) (.inl (by omega))
  simp only [String.utf8EncodeChar, hv, if_pos h]

theorem encodeChar_two {v a : Nat} (ha : v / 64 = a) (hlow : 2 ≤ a) (hhigh : a < 32) :
    String.utf8EncodeChar (Char.ofNat v) = UInt8.ofNat (a + 192) :: tail 1 v := by
  have hv := toNat_ofNat_of_isValidChar (v := v) (.inl (by omega))
  have hone : ¬ v ≤ 127 := by omega
  have htwo : v ≤ 2047 := by omega
  have hfirst : v / 64 % 32 = a := by omega
  simp only [String.utf8EncodeChar, hv, if_neg hone, if_pos htwo, hfirst, tail, Nat.pow_zero,
    Nat.div_one]

theorem encodeChar_three {v a : Nat} (ha : v / 4096 = a) (hlow : 0x800 ≤ v) (hhigh : a < 16)
    (hvalid : v < 0xD800 ∨ 0xDFFF < v) :
    String.utf8EncodeChar (Char.ofNat v) = UInt8.ofNat (a + 224) :: tail 2 v := by
  have hv := toNat_ofNat_of_isValidChar (v := v) (hvalid.imp id fun h => ⟨h, by omega⟩)
  have hone : ¬ v ≤ 127 := by omega
  have htwo : ¬ v ≤ 2047 := by omega
  have hthree : v ≤ 65535 := by omega
  have hfirst : v / 4096 % 16 = a := by omega
  simp only [String.utf8EncodeChar, hv, if_neg hone, if_neg htwo, if_pos hthree, hfirst, tail,
    Nat.pow_zero, Nat.pow_one, Nat.div_one]

theorem encodeChar_four {v a : Nat} (ha : v / 262144 = a) (hlow : 0x10000 ≤ v)
    (hhigh : v < 0x110000) :
    String.utf8EncodeChar (Char.ofNat v) = UInt8.ofNat (a + 240) :: tail 3 v := by
  have hv := toNat_ofNat_of_isValidChar (v := v) (.inr ⟨by omega, hhigh⟩)
  have hone : ¬ v ≤ 127 := by omega
  have htwo : ¬ v ≤ 2047 := by omega
  have hthree : ¬ v ≤ 65535 := by omega
  have hfirst : v / 262144 % 8 = a := by omega
  have hpow : 64 ^ 2 = 4096 := rfl
  simp only [String.utf8EncodeChar, hv, if_neg hone, if_neg htwo, if_neg hthree, hfirst, tail,
    Nat.pow_zero, Nat.pow_one, hpow, Nat.div_one]

/-! What may follow a first octet. The narrower ranges for the second one leave out the values that
have fewer octets, the surrogates and what is no character. -/

/-- What an octet at a boundary may be: a character, the first octet of one, or neither. -/
inductive Opening (b : UInt8) : List Char × State → Prop where
  | char (c : Char) (henc : String.utf8EncodeChar c = [b]) : Opening b ([c], .ground)
  | first {state : State} (hleads : Leads [b] state) : Opening b ([], state)
  | neither : Opening b ([replacement], .ground)

theorem start_neither : ∀ n < 256, (128 ≤ n ∧ n < 194 ∨ 245 ≤ n) →
    start (UInt8.ofNat n) = ([replacement], .ground) := by
  decide +kernel

theorem leads_two {a : Nat} (hlow : 2 ≤ a) (hhigh : a < 32) :
    Leads [UInt8.ofNat (a + 192)] (.within 1 0x80 0xBF a) := by
  refine ⟨Nat.le_refl _, Nat.le_refl _, ?_⟩
  intro v hleast hbound
  rw [least_full, Nat.zero_add, Nat.pow_one] at hleast
  rw [bound_full, Nat.zero_add, Nat.pow_one] at hbound
  exact encodeChar_two (by omega) hlow hhigh

/-- The narrower range of a second octet, or the full one. -/
theorem toNat_ite (p : Prop) [Decidable p] (x y : UInt8) :
    (if p then x else y).toNat = x.toNat ∧ p ∨ (if p then x else y).toNat = y.toNat ∧ ¬ p := by
  by_cases hp : p <;> simp [hp]

theorem leads_three {a : Nat} (ha : a < 16) : Leads [UInt8.ofNat (a + 224)]
    (.within 2 (if a = 0 then 0xA0 else 0x80) (if a = 13 then 0x9F else 0xBF) a) := by
  have hlow := toNat_ite (a = 0) 0xA0 0x80
  have hhigh := toNat_ite (a = 13) 0x9F 0xBF
  simp only [UInt8.reduceToNat] at hlow hhigh
  refine ⟨by omega, by omega, ?_⟩
  intro v hleast hbound
  rw [Nat.pow_one] at hleast hbound
  exact encodeChar_three (by omega) (by omega) ha (by omega)

theorem leads_four {a : Nat} (ha : a < 5) : Leads [UInt8.ofNat (a + 240)]
    (.within 3 (if a = 0 then 0x90 else 0x80) (if a = 4 then 0x8F else 0xBF) a) := by
  have hlow := toNat_ite (a = 0) 0x90 0x80
  have hhigh := toNat_ite (a = 4) 0x8F 0xBF
  simp only [UInt8.reduceToNat] at hlow hhigh
  have hpow : 64 ^ 2 = 4096 := rfl
  refine ⟨by omega, by omega, ?_⟩
  intro v hleast hbound
  rw [hpow] at hleast hbound
  exact encodeChar_four (by omega) (by omega) (by omega)

/-- By the number of octets that the first one announces. -/
theorem opening_start (b : UInt8) : Opening b (start b) := by
  obtain ⟨n, hn, rfl⟩ : ∃ n < 256, UInt8.ofNat n = b := ⟨b.toNat, b.toNat_lt, UInt8.ofNat_toNat⟩
  by_cases hone : n < 128
  · rw [start_one n hone]
    exact .char _ (encodeChar_one (by omega))
  by_cases htwo : 194 ≤ n ∧ n < 224
  · obtain ⟨a, rfl⟩ : ∃ a, n = a + 192 := ⟨n - 192, by omega⟩
    rw [start_two a (by omega) (by omega)]
    exact .first (leads_two (by omega) (by omega))
  by_cases hthree : 224 ≤ n ∧ n < 240
  · obtain ⟨a, rfl⟩ : ∃ a, n = a + 224 := ⟨n - 224, by omega⟩
    rw [start_three a (by omega)]
    exact .first (leads_three (by omega))
  by_cases hfour : 240 ≤ n ∧ n < 245
  · obtain ⟨a, rfl⟩ : ∃ a, n = a + 240 := ⟨n - 240, by omega⟩
    rw [start_four a (by omega)]
    exact .first (leads_four (by omega))
  · rw [start_neither n hn (by omega)]
    exact .neither

/-- An octet in the range is the next one of each character that is still allowed. -/
theorem Leads.next {part : Bytes} {k bits : Nat} {low high b : UInt8}
    (h : Leads part (.within (k + 1) low high bits)) (hlow : low ≤ b) (hhigh : b ≤ high) {v : Nat}
    (hleast : (bits * 64 + (b.toNat - 0x80)) * 64 ^ k ≤ v)
    (hbound : v < (bits * 64 + (b.toNat - 0x80) + 1) * 64 ^ k) :
    String.utf8EncodeChar (Char.ofNat v) = part ++ [b] ++ tail k v := by
  obtain ⟨h80, hBF, hvalues⟩ := h
  rw [UInt8.le_iff_toNat_le] at hlow hhigh
  have hdiv : v / 64 ^ k = bits * 64 + (b.toNat - 0x80) := Nat.div_eq_of_lt_le hleast hbound
  have hoctet : v / 64 ^ k % 64 + 128 = b.toNat := by
    rw [hdiv]
    omega
  rw [hvalues v (Nat.le_trans (Nat.mul_le_mul_right _ (by omega)) hleast)
    (Nat.lt_of_lt_of_le hbound (Nat.mul_le_mul_right _ (by omega))), tail, hoctet,
    UInt8.ofNat_toNat, List.append_assoc]
  rfl

theorem Leads.begins {part : Bytes} {k bits : Nat} {low high b : UInt8}
    (h : Leads part (.within (k + 1) low high bits)) (hlow : low ≤ b) (hhigh : b ≤ high) :
    Begins (part ++ [b]) := by
  have hpos : 0 < 64 ^ k := Nat.pow_pos (by omega)
  have hchar := h.next hlow hhigh (Nat.le_refl _)
    (Nat.mul_lt_mul_of_pos_right (Nat.lt_succ_self _) hpos)
  -- the character with the least value that is still allowed
  exact ⟨_, _, hchar.symm⟩

theorem leads_start {b : UInt8} (hnone : (start b).1 = []) : Leads [b] (start b).2 := by
  have hopening := opening_start b
  generalize start b = outcome at hopening hnone
  cases hopening with
  | char c henc => cases hnone
  | first hleads => exact hleads
  | neither => cases hnone

/-- An octet that completes nothing was in the range, and more octets are owed. -/
theorem Leads.concat {part : Bytes} {state : State} {b : UInt8} (h : Leads part state)
    (hnone : (step state b).1 = []) : Leads (part ++ [b]) (step state b).2 := by
  obtain ⟨k, low, high, bits, rfl⟩ := h.eq_within
  by_cases hrange : low ≤ b ∧ b ≤ high
  · cases k with
    | zero => simp [step, hrange] at hnone
    | succ k =>
      simp only [step, if_pos hrange]
      refine ⟨Nat.le_refl _, Nat.le_refl _, ?_⟩
      intro v hleast hbound
      rw [least_full] at hleast
      rw [bound_full] at hbound
      exact h.next hrange.1 hrange.2 hleast hbound
  · simp [step, hrange] at hnone

/-- What was read without a character being out leads on from where the reader stands. -/
theorem leads_of_scan {part : Bytes} (hne : part ≠ []) (hnone : (scan .ground part).1 = []) :
    Leads part (scan .ground part).2 := by
  induction part using List.reverseRecOn with
  | nil => exact absurd rfl hne
  | append_singleton part b ih =>
    rw [scan_concat] at hnone ⊢
    obtain ⟨hpart, hstep⟩ := List.append_eq_nil_iff.1 hnone
    -- the octets before the last one are out without a character as well
    by_cases hnil : part = []
    · subst hnil
      exact leads_start hstep
    · exact (ih hnil hpart).concat hstep

/-! ### Subparts -/

/-- A subpart is replaced where no longer one begins a character. -/
theorem charsFrom_of_leads {part rest : Bytes} {state : State} (h : Leads part state)
    (hlongest : ∀ b, [b] <+: rest → ¬ Begins (part ++ [b])) :
    charsFrom state rest = replacement :: charsFrom .ground rest := by
  obtain ⟨k, low, high, bits, rfl⟩ := h.eq_within
  cases rest with
  | nil => rfl
  | cons b rest =>
    have hrange : ¬ (low ≤ b ∧ b ≤ high) := fun hrange =>
      hlongest b ⟨rest, rfl⟩ (h.begins hrange.1 hrange.2)
    simp only [charsFrom, step, if_neg hrange]
    rfl

theorem Subpart.chars_append {part rest : Bytes} (h : Subpart part rest) :
    chars (part ++ rest) = replacement :: chars rest := by
  rw [chars_eq_charsFrom, charsFrom_append, chars_eq_charsFrom]
  have hlongest (b : UInt8) (hb : [b] <+: rest) : ¬ Begins (part ++ [b]) := by
    intro hbegins
    refine h.longest (part ++ [b]) ?_ ?_ (.inr ⟨by simp, hbegins⟩)
    · rwa [List.prefix_append_right_inj]
    · rw [List.length_append, List.length_singleton]
      exact Nat.lt_succ_self _
  have hleads (hne : part ≠ []) (hnone : (scan .ground part).1 = []) :
      (scan .ground part).1 ++ charsFrom (scan .ground part).2 rest =
        replacement :: charsFrom .ground rest := by
    rw [hnone, List.nil_append, charsFrom_of_leads (leads_of_scan hne hnone) hlongest]
  rcases h.initial with hone | ⟨hne, c, rest', hc⟩
  · obtain ⟨b, rfl⟩ := List.length_eq_one_iff.1 hone
    have hscan : scan .ground [b] = start b := by simp [scan, step]
    have hopening := opening_start b
    rw [hscan] at hleads ⊢
    generalize start b = outcome at hopening hleads
    cases hopening with
    | char c henc => exact absurd ⟨rest, congrArg (· ++ rest) henc⟩ (h.unconvertible c)
    | first => exact hleads (List.cons_ne_nil _ _) rfl
    | neither => rfl
  · refine hleads hne (scan_of_append ?_ hc)
    rintro rfl
    -- the whole character would begin here
    rw [List.append_nil] at hc
    exact h.unconvertible c (hc ▸ List.prefix_append part rest)

theorem Lossy.eq_chars {bytes : Bytes} {cs : List Char} (h : Lossy bytes cs) :
    cs = chars bytes := by
  induction h with
  | nil => rfl
  | char c _ ih => rw [chars_encodeChar_append, ih]
  | subpart hpart _ ih => rw [hpart.chars_append, ih]

theorem lossy_chars (bytes : Bytes) : Lossy bytes (chars bytes) := by
  induction h : bytes.length using Nat.strong_induction_on generalizing bytes with
  | h n ih =>
    subst h
    by_cases hne : bytes = []
    · subst hne
      exact .nil
    by_cases hchar : ∃ c, String.utf8EncodeChar c <+: bytes
    · obtain ⟨c, rest, rfl⟩ := hchar
      have hpos := List.length_pos_iff.2 (encodeChar_ne_nil c)
      rw [chars_encodeChar_append]
      exact .char c (ih rest.length (by rw [List.length_append]; omega) rest rfl)
    · obtain ⟨part, rest, rfl, hsubpart⟩ := exists_subpart hne (not_exists.1 hchar)
      have hpos := List.length_pos_iff.2 hsubpart.initial.ne_nil
      rw [hsubpart.chars_append]
      exact .subpart hsubpart (ih rest.length (by rw [List.length_append]; omega) rest rfl)

/-- Each maximal subpart is replaced, and nothing else is. -/
theorem lossy_iff (bytes : Bytes) (cs : List Char) : Lossy bytes cs ↔ cs = chars bytes := by
  constructor
  · exact Lossy.eq_chars
  · rintro rfl
    exact lossy_chars bytes

end Duplex.Utf8
