/-! # UTF-8 text on the wire

  Texts travel as UTF-8. Writing is total; reading is *lossy*: every maximal
  subpart of an ill-formed sequence becomes one replacement character U+FFFD, so
  reading is total as well.

  The reader is an automaton over octets. At a character boundary (`ground`) an
  octet is a character of its own, opens a longer sequence, or can open none. In a
  sequence (`within`) the next octet either lies in the range that the sequence
  still allows, or it ends the sequence: what was read so far is one ill-formed
  subpart, and the octet is met again at a boundary.
-/

namespace Duplex

/-- A string of octets, oldest first. -/
abbrev Bytes := List UInt8

namespace Utf8

/-- The character that stands for an ill-formed subpart. -/
def replacement : Char := '\uFFFD'

/-- Where the reader stands between two octets. -/
inductive State where
  /-- At a character boundary. -/
  | ground
  /-- Inside a sequence: `owed` octets are still to come, the next one from `low` to
      `high`, and `bits` holds the payload bits read so far. -/
  | within (owed : Nat) (low high : UInt8) (bits : Nat)
  deriving DecidableEq, Repr

/-- An octet met at a character boundary: the characters it completes, and where the
    reader stands after it. The second octet of a sequence has a narrower range where
    the full range would admit an overlong form, a surrogate or a value past U+10FFFF. -/
def start (b : UInt8) : List Char × State :=
  if b < 0x80 then ([Char.ofNat b.toNat], .ground)
  else if b < 0xC2 then ([replacement], .ground)
  else if b < 0xE0 then ([], .within 1 0x80 0xBF (b.toNat - 0xC0))
  else if b = 0xE0 then ([], .within 2 0xA0 0xBF 0)
  else if b = 0xED then ([], .within 2 0x80 0x9F 0xD)
  else if b < 0xF0 then ([], .within 2 0x80 0xBF (b.toNat - 0xE0))
  else if b = 0xF0 then ([], .within 3 0x90 0xBF 0)
  else if b < 0xF4 then ([], .within 3 0x80 0xBF (b.toNat - 0xF0))
  else if b = 0xF4 then ([], .within 3 0x80 0x8F 4)
  else ([replacement], .ground)

/-- One octet: the characters it completes, and where the reader stands after it. -/
def step : State → UInt8 → List Char × State
  | .ground, b => start b
  | .within owed low high bits, b =>
    if low ≤ b ∧ b ≤ high then
      let bits := bits * 64 + (b.toNat - 0x80)
      if owed ≤ 1 then ([Char.ofNat bits], .ground)
      else ([], .within (owed - 1) 0x80 0xBF bits)
    else
      let (chars, state) := start b
      (replacement :: chars, state)

/-- The end of the input: an open sequence is one ill-formed subpart. -/
def flush : State → List Char
  | .ground => []
  | .within .. => [replacement]

/-- What has been read, latest character first, and where the reader stands. -/
structure Reading where
  /-- The characters read so far, latest first. -/
  read : List Char := []
  /-- Where the reader stands. -/
  state : State := .ground

/-- The reading with one more octet. -/
def Reading.push (r : Reading) (b : UInt8) : Reading :=
  let (chars, state) := step r.state b
  ⟨chars.reverse ++ r.read, state⟩

/-- The characters of an octet string, ill-formed subparts replaced. -/
def chars (bytes : Bytes) : List Char :=
  let r := bytes.foldl Reading.push {}
  (flush r.state ++ r.read).reverse

/-- The text of an octet string, ill-formed subparts replaced. -/
def decode (bytes : Bytes) : String := String.ofList (chars bytes)

/-- The octets of a text. -/
def encode (text : String) : Bytes := text.toList.flatMap String.utf8EncodeChar

/-- A truncated sequence is one subpart, and the octet that breaks it stands for itself. -/
example : chars [0xF0, 0x9F, 0x98, 0x41] = [replacement, 'A'] := by decide

/-- A surrogate is three subparts: its second octet cannot follow its first. -/
example : chars [0xED, 0xA0, 0x80] = [replacement, replacement, replacement] := by decide

end Utf8

end Duplex
