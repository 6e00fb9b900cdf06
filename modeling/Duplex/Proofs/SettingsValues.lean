import Duplex.Socket.Settings

/-! # What settings hold

  The fields of settings have values of different types. `SocketSettings.value` is the value of any
  one of them, and settings are determined by these values (`eq_of_value_eq`).

  `Denotes` says which data are admissible for a field and what they mean. A field is given the
  value that its datum denotes, and nothing else of the settings is changed (`assign_eq_ok_iff`);
  what is wrong with a datum has nothing to do with the settings so far (`assign_eq`).
-/

namespace Duplex

namespace SettingsField

/-! ### Names -/

/-- A field is found by its name. -/
theorem ofName?_name (field : SettingsField) : ofName? field.name = some field := by
  cases field <;> decide

theorem ofName?_eq_some_iff {name : String} {field : SettingsField} :
    ofName? name = some field ↔ field.name = name := by
  constructor
  · intro h
    simpa using List.find?_some h
  · rintro rfl
    exact ofName?_name field

theorem name_injective {field other : SettingsField} (h : field.name = other.name) :
    field = other := by
  have hsame : some field = some other := by rw [← ofName?_name, h, ofName?_name]
  exact Option.some.inj hsame

theorem ofName?_eq_none_iff {name : String} :
    ofName? name = none ↔ ∀ field : SettingsField, field.name ≠ name := by
  simp only [Option.eq_none_iff_forall_ne_some, ne_eq, ofName?_eq_some_iff]

/-! ### Values -/

/-- The values that a field can have. -/
@[reducible] def Value : SettingsField → Type
  | lingerMs => Option Nat
  | nodelay => Bool
  | receiveBufferSize => Nat
  | disconnectTimeoutMs => Nat
  | peerClose => PeerClosePolicy

end SettingsField

namespace SocketSettings

/-- The value of a field. -/
def value (s : SocketSettings) : (field : SettingsField) → field.Value
  | .lingerMs => s.lingerMs
  | .nodelay => s.nodelay
  | .receiveBufferSize => s.receiveBufferSize
  | .disconnectTimeoutMs => s.disconnectTimeoutMs
  | .peerClose => s.peerClose

/-- The settings with another value for a field. -/
def set (s : SocketSettings) : (field : SettingsField) → field.Value → SocketSettings
  | .lingerMs, v => { s with lingerMs := v }
  | .nodelay, v => { s with nodelay := v }
  | .receiveBufferSize, v => { s with receiveBufferSize := v }
  | .disconnectTimeoutMs, v => { s with disconnectTimeoutMs := v }
  | .peerClose, v => { s with peerClose := v }

@[simp] theorem value_set_self (s : SocketSettings) (field : SettingsField) (v : field.Value) :
    (s.set field v).value field = v := by
  cases field <;> rfl

theorem value_set_of_ne (s : SocketSettings) {field other : SettingsField} (v : field.Value)
    (h : other ≠ field) : (s.set field v).value other = s.value other := by
  cases field <;> cases other <;> simp_all [set, value]

/-- A field can be given another value and then its own again. -/
theorem set_set_value (s : SocketSettings) (field : SettingsField) (v : field.Value) :
    (s.set field v).set field (s.value field) = s := by
  cases field <;> rfl

/-- Settings are the values of their fields. -/
theorem eq_of_value_eq {s t : SocketSettings} (h : ∀ field, s.value field = t.value field) :
    s = t := by
  obtain ⟨linger, nodelay, size, timeout, policy⟩ := s
  obtain ⟨linger', nodelay', size', timeout', policy'⟩ := t
  obtain rfl : linger = linger' := h .lingerMs
  obtain rfl : nodelay = nodelay' := h .nodelay
  obtain rfl : size = size' := h .receiveBufferSize
  obtain rfl : timeout = timeout' := h .disconnectTimeoutMs
  obtain rfl : policy = policy' := h .peerClose
  rfl

end SocketSettings

/-- The word for a policy. -/
def PeerClosePolicy.word : PeerClosePolicy → String
  | error => "error"
  | complete => "complete"

/-- `Denotes field datum v`: the datum is admissible for the field, and stands for the value `v`. -/
inductive Denotes : (field : SettingsField) → Datum → field.Value → Prop where
  /-- The system decides how long a closed socket lingers. -/
  | noLinger : Denotes .lingerMs .null none
  | linger {n : Nat} (h : n < UInt64.size) : Denotes .lingerMs (.int n) (some n)
  | nodelay (b : Bool) : Denotes .nodelay (.bool b) b
  | receiveBufferSize {n : Nat} (h : n < UInt64.size) : Denotes .receiveBufferSize (.int n) n
  | disconnectTimeoutMs {n : Nat} (h : n < UInt64.size) : Denotes .disconnectTimeoutMs (.int n) n
  /-- A policy is given by its word. -/
  | policy (p : PeerClosePolicy) : Denotes .peerClose (.text p.word) p
  /-- Or by a map from its word to nothing. -/
  | policyEntry (p : PeerClosePolicy) : Denotes .peerClose (.map [(p.word, .null)]) p

namespace Denotes

variable {datum : Datum} {n : Nat}

theorem lingerMs_lt {v : Option Nat} (h : Denotes .lingerMs datum v) (hn : v = some n) :
    n < UInt64.size := by
  cases h with
  | noLinger => cases hn
  | linger h => exact Option.some.inj hn ▸ h

theorem receiveBufferSize_lt (h : Denotes .receiveBufferSize datum n) : n < UInt64.size := by
  cases h with
  | receiveBufferSize h => exact h

theorem disconnectTimeoutMs_lt (h : Denotes .disconnectTimeoutMs datum n) : n < UInt64.size := by
  cases h with
  | disconnectTimeoutMs h => exact h

end Denotes

namespace SocketSettings

/-! ### Data -/

theorem readUnsigned_eq_ok_iff {expected : String} {datum : Datum} {n : Nat} :
    readUnsigned expected datum = .ok n ↔ datum = .int n ∧ n < UInt64.size := by
  constructor
  · intro h
    cases datum with
    | int m =>
      simp only [readUnsigned] at h
      split at h
      · next hm =>
        cases h
        exact ⟨by rw [Int.toNat_of_nonneg hm.1], by omega⟩
      · cases h
    | null | bool _ | float _ | text _ | list _ | map _ => cases h
  · rintro ⟨rfl, h⟩
    have hrange : (0 : Int) ≤ n ∧ (n : Int) < UInt64.size := by omega
    rw [readUnsigned, if_pos hrange, Int.toNat_natCast]

theorem readOptionalMs_eq_ok_iff {datum : Datum} {v : Option Nat} :
    readOptionalMs datum = .ok v ↔
      datum = .null ∧ v = none ∨ ∃ n : Nat, datum = .int n ∧ n < UInt64.size ∧ v = some n := by
  cases datum with
  | null => simp [readOptionalMs, eq_comm]
  | int m =>
    have hsplit : readOptionalMs (.int m) = .ok v ↔
        ∃ n, readUnsigned "u64" (.int m) = .ok n ∧ v = some n := by
      rw [readOptionalMs]
      · cases readUnsigned "u64" (.int m) <;> simp [Except.map, eq_comm]
      · intro h
        cases h
    simp only [hsplit, readUnsigned_eq_ok_iff, and_assoc, reduceCtorEq, false_and, false_or]
  | bool _ | float _ | text _ | list _ | map _ => simp [readOptionalMs, readUnsigned, Except.map]

theorem readBool_eq_ok_iff {datum : Datum} {b : Bool} :
    readBool datum = .ok b ↔ datum = .bool b := by
  cases datum <;> simp [readBool]

theorem policyNamed_eq_ok_iff {name : String} {p : PeerClosePolicy} :
    policyNamed name = .ok p ↔ name = p.word := by
  constructor
  · intro h
    unfold policyNamed at h
    split at h
    · cases h; rfl
    · cases h; rfl
    · cases h
  · rintro rfl
    cases p <;> rfl

theorem readPolicy_eq_ok_iff {datum : Datum} {p : PeerClosePolicy} :
    readPolicy datum = .ok p ↔ datum = .text p.word ∨ datum = .map [(p.word, .null)] := by
  constructor
  · intro h
    unfold readPolicy at h
    split at h
    · next name => exact .inl (congrArg Datum.text (policyNamed_eq_ok_iff.1 h))
    · next name inner =>
      -- the name is looked at first, and then what is under it
      cases hname : policyNamed name with
      | error e => rw [hname] at h; cases h
      | ok q =>
        rw [hname] at h
        cases inner with
        | null =>
          cases h
          rw [policyNamed_eq_ok_iff.1 hname]
          exact .inr rfl
        | bool _ | int _ | float _ | text _ | list _ | map _ => cases h
    · cases h
    · cases h
  · rintro (rfl | rfl) <;> cases p <;> rfl

/-- What a datum gives a field. -/
def read : (field : SettingsField) → Datum → Except SettingsError field.Value
  | .lingerMs => readOptionalMs
  | .nodelay => readBool
  | .receiveBufferSize => readUnsigned "usize"
  | .disconnectTimeoutMs => readUnsigned "u64"
  | .peerClose => readPolicy

/-- A datum gives a field the value that it denotes, and none if it is not admissible. -/
theorem read_eq_ok_iff {field : SettingsField} {datum : Datum} {v : field.Value} :
    read field datum = .ok v ↔ Denotes field datum v := by
  constructor
  · intro h
    cases field with
    | lingerMs =>
      obtain ⟨rfl, rfl⟩ | ⟨n, rfl, hn, rfl⟩ := readOptionalMs_eq_ok_iff.1 h
      · exact .noLinger
      · exact .linger hn
    | nodelay =>
      obtain rfl := readBool_eq_ok_iff.1 h
      exact .nodelay v
    | receiveBufferSize =>
      obtain ⟨rfl, hn⟩ := readUnsigned_eq_ok_iff.1 h
      exact .receiveBufferSize hn
    | disconnectTimeoutMs =>
      obtain ⟨rfl, hn⟩ := readUnsigned_eq_ok_iff.1 h
      exact .disconnectTimeoutMs hn
    | peerClose =>
      obtain rfl | rfl := readPolicy_eq_ok_iff.1 h
      · exact .policy v
      · exact .policyEntry v
  · intro h
    cases h with
    | noLinger => rfl
    | linger h =>
      rw [read, readOptionalMs_eq_ok_iff]
      exact .inr ⟨_, rfl, h, rfl⟩
    | nodelay b => rfl
    | receiveBufferSize h | disconnectTimeoutMs h =>
      rw [read, readUnsigned_eq_ok_iff]
      exact ⟨rfl, h⟩
    | policy p => exact readPolicy_eq_ok_iff.2 (.inl rfl)
    | policyEntry p => exact readPolicy_eq_ok_iff.2 (.inr rfl)

/-- What is wrong with a datum has nothing to do with the settings so far. -/
theorem assign_eq (s : SocketSettings) (field : SettingsField) (datum : Datum) :
    s.assign field datum = (read field datum).map (s.set field) := by
  cases field <;> rfl

theorem assign_eq_ok_iff {s s' : SocketSettings} {field : SettingsField} {datum : Datum} :
    s.assign field datum = .ok s' ↔ ∃ v, Denotes field datum v ∧ s' = s.set field v := by
  simp only [assign_eq, ← read_eq_ok_iff]
  cases read field datum <;> simp [Except.map, eq_comm]

theorem assign_eq_error_iff {s : SocketSettings} {field : SettingsField} {datum : Datum}
    {e : SettingsError} : s.assign field datum = .error e ↔ read field datum = .error e := by
  rw [assign_eq]
  cases read field datum <;> simp [Except.map]

end SocketSettings
end Duplex
