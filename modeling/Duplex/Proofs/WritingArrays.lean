import Duplex.Proofs.Wire

/-! # Three ways to write an array

  The frame of an array can be written call by call, with room for the prefix that is filled in at
  the end; from all texts at once; or as a frame around the texts, each of them written with its
  NUL. The three agree (`writes_alike`): the same octets, and the same error for a payload that no
  prefix can declare. They part only where there is no text at all, since an empty array has a
  frame and an empty payload has none.

  All of it follows from what the buffer of an encoder holds after some calls, the room and then
  the octets of the texts (`buffer_afterCalls`), and from what filling in the room does to a buffer
  (`filledIn_of_finish`).
-/

namespace Duplex.StringArray

/-! ### Calls -/

namespace Encoder

/-- A call that adds an element to an encoder. -/
inductive Call where
  /-- Adds a text. -/
  | push (text : String)
  /-- Adds an absent text. -/
  | pushNull
  deriving DecidableEq, Repr

/-- The element that a call adds. -/
def Call.text? : Call → Option String
  | push text => some text
  | pushNull => none

/-- Makes a call. -/
def call (e : Encoder) : Call → Encoder
  | .push text => e.push text
  | .pushNull => e.pushNull

/-- A new encoder after some calls. -/
def afterCalls (calls : List Call) : Encoder := calls.foldl call {}

/-- The octets that some calls write: those of each text and its NUL, an absent text being written
    like an empty one. -/
def written (calls : List Call) : Bytes :=
  calls.flatMap fun call => NulString.encode (call.text?.getD "")

theorem written_eq_payload (calls : List Call) :
    written calls = payload (calls.map Call.text?) := by
  rw [payload, List.flatMap_map]
  rfl

theorem written_pos {calls : List Call} (h : calls ≠ []) : 0 < (written calls).length := by
  rw [written_eq_payload]
  exact payload_pos (by simpa using h)

/-- Calls add the elements one after the other. -/
theorem afterCalls_eq_foldl_add (calls : List Call) :
    afterCalls calls = (calls.map Call.text?).foldl add {} := by
  have hcall : call = fun e (c : Call) => e.add c.text? := by
    funext e c
    cases c with
    | push text | pushNull => rfl
  rw [afterCalls, hcall, List.foldl_map]

/-- The buffer holds the room for the prefix and then what the calls have written. -/
theorem buffer_afterCalls (calls : List Call) :
    (afterCalls calls).buffer.toList = [0, 0, 0, 0] ++ written calls := by
  rw [afterCalls_eq_foldl_add, toList_foldl_add, written_eq_payload]

theorem size_buffer_afterCalls (calls : List Call) :
    (afterCalls calls).buffer.size = Length.octets + (written calls).length := by
  rw [← Array.length_toList, buffer_afterCalls, List.length_append]
  rfl

/-- So its payload is as long as what has been written. -/
theorem payloadLen_afterCalls (calls : List Call) :
    (afterCalls calls).payloadLen = (written calls).length := by
  rw [payloadLen, size_buffer_afterCalls, Nat.add_sub_cancel_left]

/-! ### Filling in the prefix -/

/-- The octets `frame` are the buffer of an encoder with its room filled in: the first four declare
    the length of the payload, and the others are the same. -/
structure FilledIn (e : Encoder) (frame : Bytes) : Prop where
  /-- As a signed number, the most significant octet first. -/
  declared : Length.decode (frame.take Length.octets) = e.payloadLen
  length : frame.length = e.buffer.size
  same : ∀ i, Length.octets ≤ i → frame[i]? = e.buffer[i]?

theorem finish_of_le {e : Encoder} (h : e.payloadLen ≤ Length.greatest) :
    e.finish = .ok (Length.encode e.payloadLen ++ e.buffer.toList.drop Length.octets) := by
  rw [finish, LengthPrefixed.header, if_pos h]
  rfl

theorem finish_of_lt {e : Encoder} (h : Length.greatest < e.payloadLen) :
    e.finish = .error (.frameTooLarge e.payloadLen Length.greatest) := by
  rw [finish, LengthPrefixed.header, if_neg (Nat.not_le.2 h)]
  rfl

/-- Finishing fills in the room and changes nothing else. -/
theorem filledIn_of_finish {e : Encoder} {frame : Bytes} (hroom : Length.octets ≤ e.buffer.size)
    (h : e.finish = .ok frame) : FilledIn e frame := by
  have hle : e.payloadLen ≤ Length.greatest := by
    refine Nat.le_of_not_lt fun hlt => ?_
    rw [finish_of_lt hlt] at h
    cases h
  rw [finish_of_le hle] at h
  cases h
  have hencode : (Length.encode e.payloadLen).length = Length.octets := Length.length_encode _
  constructor
  case declared =>
    rw [← hencode, List.take_left]
    exact Length.decode_encode hle
  case length =>
    rw [List.length_append, hencode, List.length_drop, Array.length_toList]
    omega
  case same =>
    intro i hi
    rw [List.getElem?_append_right (hencode ▸ hi), hencode, List.getElem?_drop,
      Nat.add_sub_cancel' hi, Array.getElem?_toList]

end Encoder

/-! ### The three ways -/

open Encoder (Call FilledIn afterCalls written)

/-- What the calls come to that write an array one text after the other. -/
structure WritesAlike (calls : List Call) : Prop where
  /-- The array of the same texts, written at once, comes to the same. -/
  array : (afterCalls calls).finish = encode (calls.map Call.text?)
  /-- So does the frame around what the calls have written. -/
  frame : (afterCalls calls).finish = LengthPrefixed.encode (written calls)
  /-- A payload that a prefix can declare is accepted. -/
  accepted : (written calls).length ≤ Length.greatest →
    ∃ bytes, (afterCalls calls).finish = .ok bytes
  /-- Any other is refused, with its length. -/
  refused : Length.greatest < (written calls).length →
    (afterCalls calls).finish = .error (.frameTooLarge (written calls).length Length.greatest)
  /-- After each call the length of the payload is known. -/
  payloadLen : ∀ before, before <+: calls →
    (afterCalls before).payloadLen = (written before).length
  /-- In the end the prefix is filled in. -/
  filledIn : ∀ bytes, (afterCalls calls).finish = .ok bytes → FilledIn (afterCalls calls) bytes

/-- **Three ways to write an array agree**, as long as there is a text to write: call by call, all
    texts at once, or as a frame around them. -/
theorem writes_alike (calls : List Call) (h : calls ≠ []) : WritesAlike calls := by
  have hlen := Encoder.payloadLen_afterCalls calls
  have hsize := Encoder.size_buffer_afterCalls calls
  constructor
  case array => rw [Encoder.afterCalls_eq_foldl_add, encode]
  case frame =>
    have hpayload : (written calls).isEmpty = false := by
      rw [← Bool.not_eq_true, List.isEmpty_iff]
      exact List.length_pos_iff.1 (Encoder.written_pos h)
    have hdrop : (afterCalls calls).buffer.toList.drop Length.octets = written calls := by
      rw [Encoder.buffer_afterCalls]
      rfl
    rw [Encoder.finish, hlen, hdrop, LengthPrefixed.encode, hpayload]
    rfl
  case accepted =>
    intro hle
    rw [← hlen] at hle
    exact ⟨_, Encoder.finish_of_le hle⟩
  case refused =>
    intro hlt
    rw [← hlen] at hlt ⊢
    exact Encoder.finish_of_lt hlt
  case payloadLen =>
    intro before _
    exact Encoder.payloadLen_afterCalls before
  case filledIn =>
    intro bytes hfinish
    exact Encoder.filledIn_of_finish (by omega) hfinish

/-- Absent texts write one octet each. -/
theorem length_written_replicate (n : Nat) : (written (List.replicate n .pushNull)).length = n := by
  induction n with
  | zero => rfl
  | succ n ih =>
    rw [List.replicate_succ, written, List.flatMap_cons, List.length_append]
    show 1 + (written (List.replicate n .pushNull)).length = n + 1
    omega

/-- A text, an absent one and a character of two octets; and one absent text more than a prefix can
    declare. -/
theorem writes_alike_of_texts :
    let calls : List Call := [.push "A", .pushNull, .push "é"]
    let tooMany : List Call := List.replicate (Length.greatest + 1) .pushNull
    calls ≠ [] ∧ tooMany ≠ [] ∧
    (afterCalls calls).finish = .ok [0, 0, 0, 6, 65, 0, 0, 0xC3, 0xA9, 0] ∧
    encode [some "A", none, some "é"] = .ok [0, 0, 0, 6, 65, 0, 0, 0xC3, 0xA9, 0] ∧
    (afterCalls calls).payloadLen = 6 ∧
    LengthPrefixed.encode (written tooMany) =
      .error (.frameTooLarge 2147483648 2147483647) := by
  intro calls tooMany
  have hcalls : calls ≠ [] := List.cons_ne_nil _ _
  have htooMany : tooMany ≠ [] := by
    rw [← List.length_pos_iff, List.length_replicate]
    exact Nat.succ_pos _
  have hfew := writes_alike calls hcalls
  have hmany := writes_alike tooMany htooMany
  have hlength : (written tooMany).length = Length.greatest + 1 := length_written_replicate _
  have hatOnce : encode [some "A", none, some "é"] =
      .ok [0, 0, 0, 6, 65, 0, 0, 0xC3, 0xA9, 0] := by rfl
  refine ⟨hcalls, htooMany, hfew.array.trans hatOnce, hatOnce, ?_, ?_⟩
  · rw [hfew.payloadLen calls (List.prefix_refl calls)]
    rfl
  · rw [← hmany.frame, hmany.refused (by omega), hlength]
    rfl

/-- Without a text the ways part: an empty array has a frame, an empty payload has none. -/
example : (afterCalls []).finish = .ok [0, 0, 0, 0] ∧
    LengthPrefixed.encode (written []) = .error (.invalidLength 0) := ⟨rfl, rfl⟩

end Duplex.StringArray
