import Duplex.Proofs.SettingsValues
import Mathlib.Data.List.Induction
import Mathlib.Data.List.Perm.Basic

/-! # Reading settings

  Entries are read one after another. What an entry does depends on the names before it, and on
  nothing else that was read (`ofEntries_concat`). So everything here goes by induction on the last
  entry.

  `Writes` says which settings entries write; it does not speak of their order, and a reader gives
  exactly these settings (`ofEntries_eq_ok_iff`). Entries that write nothing are refused with the
  objection to the first of them that gives rise to one, whatever comes after it
  (`ofEntries_eq_error_iff`). A list of values is read like entries with the names of the first
  fields (`ofList_eq`).
-/

namespace Duplex
namespace SocketSettings

variable {s s' : SocketSettings} {entry : String × Datum} {e : SettingsError}
  {before rest entries other : List (String × Datum)}

/-! ### One more entry -/

/-- The names that entries give. -/
def names (entries : List (String × Datum)) : List String := entries.map Prod.fst

theorem names_concat : names (before ++ [entry]) = names before ++ [entry.1] := by
  simp only [names, List.map_append, List.map_cons, List.map_nil]

theorem mem_names_of_mem {name : String} {datum : Datum} (h : (name, datum) ∈ entries) :
    name ∈ names entries :=
  List.mem_map_of_mem h

/-- The fields that entries give. -/
def fieldsOf (entries : List (String × Datum)) : List SettingsField :=
  entries.filterMap fun entry => SettingsField.ofName? entry.1

theorem mem_fieldsOf {field : SettingsField} :
    field ∈ fieldsOf entries ↔ field.name ∈ names entries := by
  simp only [fieldsOf, names, List.mem_filterMap, List.mem_map, SettingsField.ofName?_eq_some_iff,
    eq_comm (a := field.name)]

/-- Reading goes on from the settings so far, with the fields so far. -/
theorem readEntries_append (s : SocketSettings) (seen : List SettingsField)
    (before rest : List (String × Datum)) :
    readEntries s seen (before ++ rest) =
      (readEntries s seen before).bind
        fun s' => readEntries s' ((fieldsOf before).reverse ++ seen) rest := by
  induction before generalizing s seen with
  | nil => rfl
  | cons entry before ih =>
    obtain ⟨name, datum⟩ := entry
    simp only [List.cons_append, readEntries]
    cases hname : SettingsField.ofName? name with
    | none => rfl
    | some field =>
      have hfields : fieldsOf ((name, datum) :: before) = field :: fieldsOf before :=
        List.filterMap_cons_some hname
      by_cases hseen : field ∈ seen
      · simp only [if_pos hseen]
        rfl
      · simp only [if_neg hseen]
        cases s.assign field datum with
        | error e => rfl
        | ok s' =>
          simp only [hfields, List.reverse_cons, List.append_assoc, List.singleton_append]
          exact ih s' (field :: seen)

/-- What an entry makes of the settings that the entries `before` it have given. -/
def accept (before : List (String × Datum)) (entry : String × Datum) (s : SocketSettings) :
    Except SettingsError SocketSettings :=
  match SettingsField.ofName? entry.1 with
  | none => .error (.unknownField entry.1)
  | some field =>
    if entry.1 ∈ names before then .error (.duplicateField field) else s.assign field entry.2

theorem ofEntries_concat (before : List (String × Datum)) (entry : String × Datum) :
    ofEntries (before ++ [entry]) = (ofEntries before).bind (accept before entry) := by
  rw [ofEntries, readEntries_append]
  refine congrArg (Except.bind _) (funext fun s => ?_)
  simp only [readEntries, accept, List.append_nil, List.mem_reverse]
  cases hname : SettingsField.ofName? entry.1 with
  | none => rfl
  | some field =>
    have hseen : field ∈ fieldsOf before ↔ entry.1 ∈ names before := by
      rw [mem_fieldsOf, SettingsField.ofName?_eq_some_iff.1 hname]
    simp only [hseen]
    cases s.assign field entry.2 <;> rfl

theorem accept_of_unknown {name : String} (datum : Datum)
    (h : ∀ field : SettingsField, field.name ≠ name) :
    accept before (name, datum) s = .error (.unknownField name) := by
  rw [accept, SettingsField.ofName?_eq_none_iff.2 h]

/-- A field that is given again is noticed before its datum is looked at. -/
theorem accept_of_repeated {field : SettingsField} (datum : Datum)
    (h : field.name ∈ names before) :
    accept before (field.name, datum) s = .error (.duplicateField field) := by
  rw [accept, SettingsField.ofName?_name]
  exact if_pos h

theorem accept_of_new {field : SettingsField} (datum : Datum) (h : field.name ∉ names before) :
    accept before (field.name, datum) s = s.assign field datum := by
  rw [accept, SettingsField.ofName?_name]
  exact if_neg h

/-- `Objection before entry e`: after the entries `before`, the problem with this one is `e`. -/
inductive Objection (before : List (String × Datum)) : String × Datum → SettingsError → Prop where
  | unknown {name : String} (datum : Datum) (h : ∀ field : SettingsField, field.name ≠ name) :
    Objection before (name, datum) (.unknownField name)
  /-- The datum does not matter. -/
  | repeated {field : SettingsField} (datum : Datum) (h : field.name ∈ names before) :
    Objection before (field.name, datum) (.duplicateField field)
  | inadmissible {field : SettingsField} {datum : Datum} {e : SettingsError}
    (hnew : field.name ∉ names before) (h : read field datum = .error e) :
    Objection before (field.name, datum) e

theorem accept_eq_error_iff : accept before entry s = .error e ↔ Objection before entry e := by
  obtain ⟨name, datum⟩ := entry
  constructor
  · intro h
    by_cases hname : ∃ field : SettingsField, field.name = name
    · obtain ⟨field, rfl⟩ := hname
      by_cases hold : field.name ∈ names before
      · rw [accept_of_repeated datum hold] at h
        cases h
        exact .repeated datum hold
      · rw [accept_of_new datum hold, assign_eq_error_iff] at h
        exact .inadmissible hold h
    · have hunknown : ∀ field : SettingsField, field.name ≠ name := not_exists.1 hname
      rw [accept_of_unknown datum hunknown] at h
      cases h
      exact .unknown datum hunknown
  · intro h
    cases h with
    | unknown _ h => exact accept_of_unknown datum h
    | repeated _ h => exact accept_of_repeated datum h
    | inadmissible hnew h => rw [accept_of_new datum hnew, assign_eq_error_iff.2 h]

/-- An entry that is accepted has the name of a field. -/
theorem eq_of_accept_eq_ok (h : accept before entry s = .ok s') :
    ∃ (field : SettingsField) (datum : Datum), entry = (field.name, datum) := by
  obtain ⟨name, datum⟩ := entry
  by_cases hname : ∃ field : SettingsField, field.name = name
  · obtain ⟨field, rfl⟩ := hname
    exact ⟨field, datum, rfl⟩
  · rw [accept_of_unknown datum (not_exists.1 hname)] at h
    cases h

theorem accept_eq_ok_iff {field : SettingsField} {datum : Datum} :
    accept before (field.name, datum) s = .ok s' ↔
      field.name ∉ names before ∧ ∃ v, Denotes field datum v ∧ s' = s.set field v := by
  by_cases hold : field.name ∈ names before
  · rw [accept_of_repeated datum hold]
    constructor
    · intro h
      cases h
    · rintro ⟨hnew, -⟩
      exact absurd hold hnew
  · rw [accept_of_new datum hold, assign_eq_ok_iff]
    exact (and_iff_right hold).symm

/-! ### Settings that entries write -/

/-- `Writes entries s`: the settings that the entries write, in whatever order they are. -/
structure Writes (entries : List (String × Datum)) (s : SocketSettings) : Prop where
  /-- Every name is that of a field. -/
  known : ∀ entry ∈ entries, ∃ field : SettingsField, field.name = entry.1
  /-- No field is given twice. -/
  distinct : (names entries).Nodup
  /-- A field that is given has the value that its datum denotes. -/
  given : ∀ field datum, (field.name, datum) ∈ entries → Denotes field datum (s.value field)
  /-- Any other field has its default. -/
  absent : ∀ field, field.name ∉ names entries → s.value field = value {} field

theorem writes_nil_iff : Writes [] s ↔ s = {} := by
  constructor
  · intro h
    exact eq_of_value_eq fun field => h.absent field List.not_mem_nil
  · rintro rfl
    exact ⟨by simp, List.nodup_nil, by simp, fun _ _ => rfl⟩

/-- One more entry writes its field. -/
theorem Writes.concat {field : SettingsField} {datum : Datum} {v : field.Value}
    (h : Writes before s) (hnew : field.name ∉ names before) (hv : Denotes field datum v) :
    Writes (before ++ [(field.name, datum)]) (s.set field v) where
  known entry hentry := by
    obtain hentry | hentry := List.mem_append.1 hentry
    · exact h.known entry hentry
    · obtain rfl := List.mem_singleton.1 hentry
      exact ⟨field, rfl⟩
  distinct := by
    rw [names_concat, (List.perm_append_singleton _ _).nodup_iff, List.nodup_cons]
    exact ⟨hnew, h.distinct⟩
  given other datum' hother := by
    obtain hold | hlast := List.mem_append.1 hother
    · have hne : other ≠ field := by
        rintro rfl
        exact hnew (mem_names_of_mem hold)
      rw [value_set_of_ne s v hne]
      exact h.given other datum' hold
    · obtain ⟨hname, rfl⟩ := Prod.mk.inj (List.mem_singleton.1 hlast)
      obtain rfl := SettingsField.name_injective hname
      rw [value_set_self]
      exact hv
  absent other hother := by
    rw [names_concat, List.mem_append, List.mem_singleton, not_or] at hother
    have hne : other ≠ field := fun heq => hother.2 (congrArg SettingsField.name heq)
    rw [value_set_of_ne s v hne]
    exact h.absent other hother.1

/-- Entries but the last write what they all write, with the default for the last one's field. -/
theorem Writes.init {field : SettingsField} {datum : Datum}
    (h : Writes (before ++ [(field.name, datum)]) s) :
    field.name ∉ names before ∧ Writes before (s.set field (value {} field)) := by
  have hdistinct := h.distinct
  rw [names_concat, (List.perm_append_singleton _ _).nodup_iff, List.nodup_cons] at hdistinct
  obtain ⟨hnew, hdistinct⟩ := hdistinct
  have hne : ∀ {other : SettingsField}, other.name ≠ field.name → other ≠ field :=
    fun hname heq => hname (congrArg SettingsField.name heq)
  refine ⟨hnew, ⟨fun entry hentry => h.known entry (List.mem_append_left _ hentry), hdistinct,
    ?_, ?_⟩⟩
  · intro other datum' hother
    have hname : other.name ≠ field.name := fun heq => hnew (heq ▸ mem_names_of_mem hother)
    rw [value_set_of_ne _ _ (hne hname)]
    exact h.given other datum' (List.mem_append_left _ hother)
  · intro other hother
    by_cases heq : other = field
    · obtain rfl := heq
      exact value_set_self _ _ _
    · have hname : other.name ≠ field.name := fun hname => heq (SettingsField.name_injective hname)
      rw [value_set_of_ne _ _ heq]
      apply h.absent
      rw [names_concat, List.mem_append, List.mem_singleton]
      exact not_or.2 ⟨hother, hname⟩

/-- A reader gives the settings that the entries write. -/
theorem ofEntries_eq_ok_iff : ofEntries entries = .ok s ↔ Writes entries s := by
  induction entries using List.reverseRecOn generalizing s with
  | nil =>
    rw [writes_nil_iff, eq_comm]
    exact ⟨fun h => Except.ok.inj h, fun h => congrArg Except.ok h⟩
  | append_singleton before entry ih =>
    rw [ofEntries_concat]
    constructor
    · intro h
      cases hbefore : ofEntries before with
      | error e =>
        rw [hbefore] at h
        cases h
      | ok s' =>
        rw [hbefore] at h
        obtain ⟨field, datum, rfl⟩ := eq_of_accept_eq_ok h
        obtain ⟨hnew, v, hv, rfl⟩ := accept_eq_ok_iff.1 h
        exact (ih.1 hbefore).concat hnew hv
    · intro h
      -- the entries before the last write `s` with the default for its field
      obtain ⟨name, datum⟩ := entry
      obtain ⟨field, rfl⟩ := h.known _ List.mem_concat_self
      obtain ⟨hnew, hbefore⟩ := h.init
      rw [ih.2 hbefore]
      exact accept_eq_ok_iff.2 ⟨hnew, s.value field, h.given _ _ List.mem_concat_self,
        (set_set_value s field _).symm⟩

/-- What entries write does not depend on their order. -/
theorem Writes.perm (h : Writes entries s) (hperm : entries.Perm other) : Writes other s where
  known entry hentry := h.known entry (hperm.mem_iff.2 hentry)
  distinct := (hperm.map Prod.fst).nodup_iff.1 h.distinct
  given field datum hmem := h.given field datum (hperm.mem_iff.2 hmem)
  absent field hfield := h.absent field fun hmem => hfield ((hperm.map Prod.fst).mem_iff.1 hmem)

/-! ### The first objection -/

theorem ofEntries_append_of_error (h : ofEntries before = .error e)
    (rest : List (String × Datum)) : ofEntries (before ++ rest) = .error e := by
  rw [ofEntries, readEntries_append, ← ofEntries, h]
  rfl

/-- A reader refuses entries with the objection to the first that gives rise to one. -/
theorem ofEntries_eq_error_iff :
    ofEntries entries = .error e ↔ ∃ before entry rest, entries = before ++ entry :: rest ∧
      (∃ s, ofEntries before = .ok s) ∧ Objection before entry e := by
  constructor
  · intro h
    induction entries using List.reverseRecOn with
    | nil => cases h
    | append_singleton init last ih =>
      rw [ofEntries_concat] at h
      cases hinit : ofEntries init with
      | ok s =>
        rw [hinit] at h
        exact ⟨init, last, [], rfl, ⟨s, hinit⟩, accept_eq_error_iff.1 h⟩
      | error e' =>
        -- the objection is to one of the entries before the last
        rw [hinit] at h
        cases h
        obtain ⟨before, entry, rest, rfl, hbefore, hobjection⟩ := ih hinit
        exact ⟨before, entry, rest ++ [last], by simp, hbefore, hobjection⟩
  · rintro ⟨before, entry, rest, rfl, ⟨s, hbefore⟩, hobjection⟩
    have hfirst : ofEntries (before ++ [entry]) = .error e := by
      rw [ofEntries_concat, hbefore]
      exact accept_eq_error_iff.2 hobjection
    rw [List.append_cons]
    exact ofEntries_append_of_error hfirst rest

/-- `Grammatical entries`: the entries write settings. -/
structure Grammatical (entries : List (String × Datum)) : Prop where
  /-- Every name is that of a field. -/
  known : ∀ entry ∈ entries, ∃ field : SettingsField, field.name = entry.1
  /-- No field is given twice. -/
  distinct : (names entries).Nodup
  /-- Every datum is admissible for its field. -/
  admissible : ∀ field datum, (field.name, datum) ∈ entries → ∃ v, Denotes field datum v

theorem Grammatical.not_objection (h : Grammatical (before ++ entry :: rest)) :
    ¬Objection before entry e := by
  have hmem : entry ∈ before ++ entry :: rest := List.mem_append_right _ List.mem_cons_self
  intro hobjection
  cases hobjection with
  | unknown _ hunknown =>
    obtain ⟨field, hname⟩ := h.known _ hmem
    exact hunknown field hname
  | repeated _ hold =>
    have hdistinct := h.distinct
    rw [names, List.map_append] at hdistinct
    exact (List.nodup_append.1 hdistinct).2.2 _ hold _ List.mem_cons_self rfl
  | inadmissible _ hread =>
    obtain ⟨v, hv⟩ := h.admissible _ _ hmem
    rw [read_eq_ok_iff.2 hv] at hread
    cases hread

theorem exists_ofEntries_eq_ok_iff : (∃ s, ofEntries entries = .ok s) ↔ Grammatical entries := by
  constructor
  · rintro ⟨s, h⟩
    have hwrites := ofEntries_eq_ok_iff.1 h
    exact ⟨hwrites.known, hwrites.distinct,
      fun field datum hmem => ⟨_, hwrites.given field datum hmem⟩⟩
  · intro h
    cases hread : ofEntries entries with
    | ok s => exact ⟨s, rfl⟩
    | error e =>
      -- a refusal has an objection, and there is none to a grammatical entry
      obtain ⟨before, entry, rest, rfl, -, hobjection⟩ := ofEntries_eq_error_iff.1 hread
      exact absurd hobjection h.not_objection

/-! ### Values without names -/

/-- Values with the names of the first fields; values for which there is no field are left out. -/
def named (values : List Datum) : List (String × Datum) :=
  (SettingsField.all.map SettingsField.name).zip values

theorem readValues_eq (s : SocketSettings) (seen : List SettingsField)
    {fields : List SettingsField} (values : List Datum) (hdistinct : fields.Nodup)
    (hnew : ∀ field ∈ fields, field ∉ seen) :
    readValues s fields values =
      readEntries s seen ((fields.map SettingsField.name).zip values) := by
  induction fields generalizing s seen values with
  | nil => rfl
  | cons field fields ih =>
    cases values with
    | nil => rfl
    | cons datum values =>
      obtain ⟨hfield, hdistinct⟩ := List.nodup_cons.1 hdistinct
      have hnext : ∀ other ∈ fields, other ∉ field :: seen := by
        intro other hother
        rw [List.mem_cons, not_or]
        exact ⟨fun heq => hfield (heq ▸ hother), hnew other (List.mem_cons_of_mem _ hother)⟩
      -- a list gives no field twice, so that the reader of entries has no objection to a name
      simp only [readValues, List.map_cons, List.zip_cons_cons, readEntries,
        SettingsField.ofName?_name, if_neg (hnew field List.mem_cons_self)]
      refine congrArg (Except.bind _) (funext fun s' => ?_)
      exact ih s' (field :: seen) values hdistinct hnext

/-- A list of values is read as entries, and only then counted. -/
theorem ofList_eq (values : List Datum) :
    ofList values = (ofEntries (named values)).bind fun s =>
      if SettingsField.all.length < values.length then .error (.tooLong values.length)
      else .ok s := by
  rw [ofList, readValues_eq {} [] values (by decide) (fun _ _ => List.not_mem_nil)]
  rfl

/-! ### Configurations -/

/-- `Represents d ms`: the duration has `ms` milliseconds, and machine words have room for it: the
    seconds are reckoned in 64 bits, the nanoseconds in 32. -/
structure Represents (d : Duration) (ms : Nat) : Prop where
  seconds : (UInt64.ofNat ms / 1000).toNat = d.seconds
  nanos : ((UInt64.ofNat ms % 1000).toUInt32 * 1000000).toNat = d.nanos
  /-- The duration is exact. -/
  toNanos : d.toNanos = ms * 1000000
  /-- The number of milliseconds can be had back. -/
  toMillis : d.toMillis = ms

theorem represents_ofMillis {ms : Nat} (h : ms < UInt64.size) : Represents (.ofMillis ms) ms where
  seconds := by
    rw [UInt64.toNat_div, UInt64.toNat_ofNat_of_lt' h]
    rfl
  nanos := by
    -- what is left of a second is far below what 32 bits hold, before the product and after it
    have hrest : ms % 1000 < 1000 := Nat.mod_lt _ (by decide)
    rw [UInt32.toNat_mul, UInt64.toNat_toUInt32, UInt64.toNat_mod, UInt64.toNat_ofNat_of_lt' h]
    simp only [UInt64.reduceToNat, UInt32.reduceToNat, Duration.ofMillis]
    omega
  toNanos := Duration.toNanos_ofMillis ms
  toMillis := Duration.toMillis_ofMillis ms

/-- `Configures s`: the configuration that the settings ask for is one that machine words hold. -/
structure Configures (s : SocketSettings) : Prop where
  /-- A read takes at least one octet. -/
  receiveBufferSize_pos : 1 ≤ s.toConfig.receiveBufferSize
  receiveBufferSize_lt : s.toConfig.receiveBufferSize < UInt64.size
  linger : Option.Rel Represents s.toConfig.linger s.lingerMs
  disconnectTimeout : Represents s.toConfig.disconnectTimeout s.disconnectTimeoutMs

/-- The defaults can be written, too. -/
theorem exists_denotes_default (field : SettingsField) :
    ∃ datum, Denotes field datum (value {} field) := by
  cases field with
  | lingerMs => exact ⟨_, .noLinger⟩
  | nodelay => exact ⟨_, .nodelay _⟩
  | receiveBufferSize => exact ⟨_, .receiveBufferSize (by decide)⟩
  | disconnectTimeoutMs => exact ⟨_, .disconnectTimeoutMs (by decide)⟩
  | peerClose => exact ⟨_, .policy _⟩

theorem Writes.exists_denotes (h : Writes entries s) (field : SettingsField) :
    ∃ datum, Denotes field datum (s.value field) := by
  by_cases hfield : field.name ∈ names entries
  · obtain ⟨⟨name, datum⟩, hmem, rfl⟩ := List.mem_map.1 hfield
    exact ⟨datum, h.given field datum hmem⟩
  · rw [h.absent field hfield]
    exact exists_denotes_default field

theorem Writes.configures (h : Writes entries s) : Configures s := by
  obtain ⟨datum, hsize⟩ := h.exists_denotes .receiveBufferSize
  obtain ⟨datum', htimeout⟩ := h.exists_denotes .disconnectTimeoutMs
  obtain ⟨datum'', hlinger⟩ := h.exists_denotes .lingerMs
  have hsize : s.receiveBufferSize < UInt64.size := hsize.receiveBufferSize_lt
  have hlinger : ∀ ms, s.lingerMs = some ms → ms < UInt64.size := by
    intro ms hms
    exact hlinger.lingerMs_lt hms
  constructor
  case receiveBufferSize_pos => exact Nat.le_max_left 1 _
  case receiveBufferSize_lt => exact Nat.max_lt.2 ⟨by decide, hsize⟩
  case linger =>
    show Option.Rel Represents (s.lingerMs.map Duration.ofMillis) s.lingerMs
    cases hms : s.lingerMs with
    | none => exact .none
    | some ms => exact .some (represents_ofMillis (hlinger ms hms))
  case disconnectTimeout => exact represents_ofMillis htimeout.disconnectTimeoutMs_lt

theorem exists_writes_of_ofDatum {datum : Datum} (h : ofDatum datum = .ok s) :
    ∃ entries, Writes entries s := by
  cases datum with
  | map entries => exact ⟨entries, ofEntries_eq_ok_iff.1 h⟩
  | list values =>
    rw [ofDatum, ofList_eq] at h
    cases hread : ofEntries (named values) with
    | error e =>
      rw [hread] at h
      cases h
    | ok s' =>
      rw [hread] at h
      simp only [Except.bind] at h
      split at h
      · cases h
      · cases h
        exact ⟨named values, ofEntries_eq_ok_iff.1 hread⟩
  | null | bool _ | int _ | float _ | text _ => cases h

/-! ### What a reader accepts -/

/-- `ReadsEntries entries`: what becomes of a map with these entries. -/
structure ReadsEntries (entries : List (String × Datum)) : Prop where
  /-- It is accepted if it is grammatical. -/
  accepted : (∃ s, ofDatum (.map entries) = .ok s) ↔ Grammatical entries
  /-- It gives the settings that it writes. -/
  writes : ∀ s, ofDatum (.map entries) = .ok s ↔ Writes entries s
  /-- In another order it would give the same settings. -/
  anyOrder : ∀ other s, entries.Perm other →
    ofDatum (.map entries) = .ok s → ofDatum (.map other) = .ok s
  /-- If it is refused, it is refused in the same way whatever comes after it. -/
  anyRest : ∀ rest e, ofDatum (.map entries) = .error e →
    ofDatum (.map (entries ++ rest)) = .error e
  /-- If it is refused, it is for the first entry with which it is. -/
  refused : ∀ e, ofDatum (.map entries) = .error e ↔
    ∃ before entry rest, entries = before ++ entry :: rest ∧
      (∃ s, ofDatum (.map before) = .ok s) ∧ Objection before entry e
  /-- The datum of a name that is given again is not looked at. -/
  repeated : ∀ field datum rest, (∃ s, ofDatum (.map entries) = .ok s) →
    field.name ∈ names entries →
    ofDatum (.map (entries ++ (field.name, datum) :: rest)) = .error (.duplicateField field)

theorem readsEntries (entries : List (String × Datum)) : ReadsEntries entries where
  accepted := exists_ofEntries_eq_ok_iff
  writes _ := ofEntries_eq_ok_iff
  anyOrder _ _ hperm h := ofEntries_eq_ok_iff.2 ((ofEntries_eq_ok_iff.1 h).perm hperm)
  anyRest rest _ h := ofEntries_append_of_error h rest
  refused _ := ofEntries_eq_error_iff
  repeated _ datum rest h hmem :=
    ofEntries_eq_error_iff.2 ⟨entries, _, rest, rfl, h, .repeated datum hmem⟩

/-- `ReadsValues values`: what becomes of a list of these values. -/
structure ReadsValues (values : List Datum) : Prop where
  /-- It is read like a map if there is a field for each value. -/
  asEntries : values.length ≤ SettingsField.all.length →
    ofDatum (.list values) = ofDatum (.map (named values))
  /-- A longer one is refused, if not for one of its first values. -/
  tooLong : SettingsField.all.length < values.length →
    ofDatum (.list values) =
      (ofDatum (.map (named values))).bind fun _ => .error (.tooLong values.length)
  /-- In any case it is refused. -/
  refused : SettingsField.all.length < values.length → ∃ e, ofDatum (.list values) = .error e

theorem readsValues (values : List Datum) : ReadsValues values := by
  have hlong (h : SettingsField.all.length < values.length) : ofDatum (.list values) =
      (ofDatum (.map (named values))).bind fun _ => .error (.tooLong values.length) := by
    simp only [ofDatum, ofList_eq, if_pos h]
  refine ⟨fun h => ?_, hlong, fun h => ?_⟩
  · simp only [ofDatum, ofList_eq, if_neg (Nat.not_lt.2 h)]
    cases ofEntries (named values) <;> rfl
  · rw [hlong h]
    cases ofDatum (.map (named values)) with
    | error e => exact ⟨e, rfl⟩
    | ok s => exact ⟨_, rfl⟩

/-- **Settings are accepted just as their grammar says.**

    - A map is accepted if it is grammatical, and then it gives what it writes, in any order. If it
      is refused, it is for the first entry with which it is.
    - A list is read like a map with the names of the first fields, and refused if it has more
      values than there are fields.
    - The configuration that accepted settings ask for is one that machine words hold. -/
theorem accepts_grammatical :
    (∀ entries, ReadsEntries entries) ∧ (∀ values, ReadsValues values) ∧
      ∀ datum s, ofDatum datum = .ok s → Configures s := by
  refine ⟨readsEntries, readsValues, fun datum s h => ?_⟩
  obtain ⟨entries, hwrites⟩ := exists_writes_of_ofDatum h
  exact hwrites.configures

/-- Two entries in either order; a name that is given again, with a text for a number and an unknown
    name behind it; and a list of one value, and one that is too long. -/
theorem accepts_grammatical_of_linger :
    let s : SocketSettings := { lingerMs := some 1500, peerClose := .complete }
    let linger : String × Datum := ("linger_ms", .int 1500)
    let policy : String × Datum := ("peer_close", .map [("complete", .null)])
    ofDatum (.map [linger, policy]) = .ok s ∧ ofDatum (.map [policy, linger]) = .ok s ∧
      ofDatum (.map [linger, policy, ("linger_ms", .text "soon"), ("backlog", .int 5)]) =
        .error (.duplicateField .lingerMs) ∧
      ofDatum (.list [.int 1500]) = ofDatum (.map [linger]) ∧
      (∃ e, ofDatum (.list (List.replicate 6 .null)) = .error e) ∧ Configures s := by
  intro s linger policy
  obtain ⟨hentries, hvalues, hconfigures⟩ := accepts_grammatical
  have hread : ofDatum (.map [linger, policy]) = .ok s := rfl
  refine ⟨hread, ?_, ?_, ?_, ?_, ?_⟩
  · exact (hentries _).anyOrder _ _ (.swap _ _ _) hread
  · exact (hentries [linger, policy]).repeated .lingerMs _ _ ⟨s, hread⟩ List.mem_cons_self
  · exact (hvalues [.int 1500]).asEntries (by decide)
  · exact (hvalues _).refused (by decide)
  · exact hconfigures _ _ hread

end SocketSettings
end Duplex
