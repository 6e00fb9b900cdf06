import Duplex.Socket.Config
import Duplex.Socket.Datum

/-! # Settings

  A configuration as it is written in a file: named fields, durations in milliseconds. A
  reader takes a map of fields, or a list that gives them in the order of their declaration.
  A field that is not given has its default. Reading goes through the entries in order, and
  the first problem is the answer; that a field is given twice is noticed before its second
  value is looked at.
-/

namespace Duplex

/-- The fields of the settings, in the order of their declaration. -/
inductive SettingsField where
  | lingerMs
  | nodelay
  | receiveBufferSize
  | disconnectTimeoutMs
  | peerClose
  deriving DecidableEq, Repr

namespace SettingsField

/-- The name of a field. -/
def name : SettingsField → String
  | lingerMs => "linger_ms"
  | nodelay => "nodelay"
  | receiveBufferSize => "receive_buffer_size"
  | disconnectTimeoutMs => "disconnect_timeout_ms"
  | peerClose => "peer_close"

/-- All fields, in the order of their declaration. -/
def all : List SettingsField :=
  [lingerMs, nodelay, receiveBufferSize, disconnectTimeoutMs, peerClose]

/-- The field with a name. -/
def ofName? (name : String) : Option SettingsField := all.find? (·.name = name)

end SettingsField

/-- A name between grave accents. -/
def graved (name : String) : String := "\x60" ++ name ++ "\x60"

/-- What is wrong with written settings. -/
inductive SettingsError where
  /-- There is no field of this name. -/
  | unknownField (name : String)
  /-- A field is given twice. -/
  | duplicateField (field : SettingsField)
  /-- A datum is of another type than the expected one. -/
  | invalidType (got : Datum) (expected : String)
  /-- A datum is of the expected type, and none of its values. -/
  | invalidValue (got : Datum) (expected : String)
  /-- There is no policy of this name. -/
  | unknownVariant (name : String)
  /-- A list gives more than all fields. -/
  | tooLong (length : Nat)

/-- The wording of an error. -/
def SettingsError.message : SettingsError → String
  | unknownField name =>
    s!"unknown field {graved name}, expected one of " ++
      ", ".intercalate (SettingsField.all.map fun f => graved f.name)
  | duplicateField field => s!"duplicate field {graved field.name}"
  | invalidType got expected => s!"invalid type: {got.describe}, expected {expected}"
  | invalidValue got expected => s!"invalid value: {got.describe}, expected {expected}"
  | unknownVariant name =>
    s!"unknown variant {graved name}, expected " ++ graved "error" ++ " or " ++ graved "complete"
  | tooLong length => s!"invalid length {length}, expected fewer elements in array"

/-- A configuration as it is written in a file. -/
structure SocketSettings where
  /-- How long a closed socket lingers, in milliseconds; none leaves it to the system. -/
  lingerMs : Option Nat := none
  /-- Whether small writes are sent at once. -/
  nodelay : Bool := false
  /-- How many octets one read may take. -/
  receiveBufferSize : Nat := 4096
  /-- How long disposal waits for the peer to close, in milliseconds. -/
  disconnectTimeoutMs : Nat := 2000
  /-- What an orderly close by the peer means. -/
  peerClose : PeerClosePolicy := .error
  deriving DecidableEq, Repr

namespace SocketSettings

/-! ### Values -/

/-- An unsigned number of 64 bits. -/
def readUnsigned (expected : String) : Datum → Except SettingsError Nat
  | .int n =>
    if 0 ≤ n ∧ n < UInt64.size then .ok n.toNat else .error (.invalidValue (.int n) expected)
  | other => .error (.invalidType other expected)

/-- A number of milliseconds, or nothing. -/
def readOptionalMs : Datum → Except SettingsError (Option Nat)
  | .null => .ok none
  | other => (readUnsigned "u64" other).map some

/-- A truth value. -/
def readBool : Datum → Except SettingsError Bool
  | .bool b => .ok b
  | other => .error (.invalidType other "a boolean")

/-- The policy with a name. -/
def policyNamed : String → Except SettingsError PeerClosePolicy
  | "error" => .ok .error
  | "complete" => .ok .complete
  | other => .error (.unknownVariant other)

/-- A policy: its name, or a map from its name to nothing. -/
def readPolicy : Datum → Except SettingsError PeerClosePolicy
  | .text name => policyNamed name
  | .map [(name, inner)] => do
    let policy ← policyNamed name
    match inner with
    | .null => .ok policy
    | other => .error (.invalidType other "unit")
  | .map entries => .error (.invalidValue (.map entries) "map with a single key")
  | other => .error (.invalidType other "string or map")

/-- The settings with one field read from a datum. -/
def assign (s : SocketSettings) (field : SettingsField) (value : Datum) :
    Except SettingsError SocketSettings :=
  match field with
  | .lingerMs => (readOptionalMs value).map fun v => { s with lingerMs := v }
  | .nodelay => (readBool value).map fun v => { s with nodelay := v }
  | .receiveBufferSize =>
    (readUnsigned "usize" value).map fun v => { s with receiveBufferSize := v }
  | .disconnectTimeoutMs =>
    (readUnsigned "u64" value).map fun v => { s with disconnectTimeoutMs := v }
  | .peerClose => (readPolicy value).map fun v => { s with peerClose := v }

/-! ### Reading -/

/-- Reads entries on top of settings in which the fields `seen` are given. -/
def readEntries (s : SocketSettings) (seen : List SettingsField) :
    List (String × Datum) → Except SettingsError SocketSettings
  | [] => .ok s
  | (name, value) :: rest =>
    match SettingsField.ofName? name with
    | none => .error (.unknownField name)
    | some field =>
      if field ∈ seen then .error (.duplicateField field)
      else do readEntries (← s.assign field value) (field :: seen) rest

/-- The settings with these entries. -/
def ofEntries (entries : List (String × Datum)) : Except SettingsError SocketSettings :=
  readEntries {} [] entries

/-- Reads values for the fields in order, on top of settings. -/
def readValues (s : SocketSettings) : List SettingsField → List Datum →
    Except SettingsError SocketSettings
  | field :: fields, value :: values => do readValues (← s.assign field value) fields values
  | _, _ => .ok s

/-- The settings that give the fields in order. Each value is looked at before their number. -/
def ofList (values : List Datum) : Except SettingsError SocketSettings := do
  let s ← readValues {} SettingsField.all values
  if SettingsField.all.length < values.length then .error (.tooLong values.length) else .ok s

/-- The settings that a datum writes. -/
def ofDatum : Datum → Except SettingsError SocketSettings
  | .map entries => ofEntries entries
  | .list values => ofList values
  | other => .error (.invalidType other "struct TcpSocketSettings")

/-- The configuration that settings ask for. -/
def toConfig (s : SocketSettings) : SocketConfig :=
  SocketConfig.withReceiveBufferSize
    { linger := s.lingerMs.map Duration.ofMillis
      nodelay := s.nodelay
      disconnectTimeout := .ofMillis s.disconnectTimeoutMs
      peerClose := s.peerClose }
    s.receiveBufferSize

end SocketSettings

end Duplex
