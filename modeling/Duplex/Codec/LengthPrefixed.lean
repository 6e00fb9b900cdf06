import Duplex.Codec.Decoder
import Duplex.Codec.Length

/-! # Length-prefixed frames

  Each frame is a length prefix and as many octets of payload. A declared length must
  be positive and, where the decoder has a limit, within it; after a refused prefix the
  decoder awaits the next prefix.
-/

namespace Duplex

/-- A decoder of length-prefixed frames. -/
structure LengthPrefixed where
  /-- The declared length of the frame whose payload is awaited; none while a prefix is. -/
  declared : Option Nat := none
  /-- The octets of the unfinished prefix or payload. -/
  pending : Array UInt8 := #[]
  /-- The greatest payload that is accepted. -/
  limit : Option Nat := none
  deriving DecidableEq, Repr

namespace LengthPrefixed

/-- A new decoder that accepts payloads up to `limit`. -/
def withLimit (limit : Option Nat) : LengthPrefixed := { limit }

/-- Whether the decoder stands between two frames. -/
def atBoundary (d : LengthPrefixed) : Bool := d.declared.isNone && d.pending.isEmpty

/-- The payload length that a prefix asks for, if it is acceptable. -/
def payloadLength (limit : Option Nat) (declared : Int) : Except FrameError Nat :=
  if declared ≤ 0 then .error (.invalidLength declared)
  else
    match limit with
    | none => .ok declared.toNat
    | some limit =>
      if limit < declared.toNat then .error (.frameTooLarge declared.toNat limit)
      else .ok declared.toNat

/-- Takes one octet. -/
def feed : LengthPrefixed → UInt8 → Decoded LengthPrefixed (Option Bytes)
  | ⟨none, pending, limit⟩, b =>
    let pending := pending.push b
    if pending.size = Length.octets then
      match payloadLength limit (Length.decode pending.toList) with
      | .error e => (.error e, ⟨none, #[], limit⟩)
      | .ok n => (.ok none, ⟨some n, #[], limit⟩)
    else (.ok none, ⟨none, pending, limit⟩)
  | ⟨some n, pending, limit⟩, b =>
    let pending := pending.push b
    if pending.size = n then (.ok (some pending.toList), ⟨none, #[], limit⟩)
    else (.ok none, ⟨some n, pending, limit⟩)

/-- Takes what a payload of `n` octets still needs from a slice, of which `consumed` octets
    were taken before; a slice that does not complete the payload is used up. -/
def takePayload (limit : Option Nat) (n : Nat) (pending : Array UInt8) (consumed : Nat)
    (bytes : Bytes) : Decoded LengthPrefixed (Fed Bytes) :=
  let needed := n - pending.size
  let pending := pending ++ bytes.take needed
  if pending.size = n then
    (.ok ⟨consumed + needed, some pending.toList⟩, ⟨none, #[], limit⟩)
  else (.ok ⟨consumed + bytes.length, none⟩, ⟨some n, pending, limit⟩)

/-- Takes octets up to the first frame or error, `consumed` octets having been taken before:
    a prefix octet by octet, a payload in one piece. -/
def feedFrom (d : LengthPrefixed) (consumed : Nat) :
    Bytes → Decoded LengthPrefixed (Fed Bytes)
  | [] => (.ok ⟨consumed, none⟩, d)
  | b :: rest =>
    match d.declared with
    | some n => takePayload d.limit n d.pending consumed (b :: rest)
    | none =>
      match feed d b with
      | (.error e, d) => (.error e, d)
      | (.ok (some frame), d) => (.ok ⟨consumed + 1, some frame⟩, d)
      | (.ok none, d) => feedFrom d (consumed + 1) rest

/-- Takes octets of a slice up to the first frame or error. -/
def feedSlice (d : LengthPrefixed) (bytes : Bytes) : Decoded LengthPrefixed (Fed Bytes) :=
  feedFrom d 0 bytes

/-- A stream may not end inside a prefix or a payload. It may end right after a prefix, where
    no octet is held back. -/
def finish (d : LengthPrefixed) : Except FrameError Unit :=
  if d.pending.isEmpty then .ok ()
  else .error (.incomplete (d.declared.getD Length.octets) d.pending.size)

instance : Decoder LengthPrefixed Bytes where
  feed := feed
  finish := finish
  pendingLen d := d.pending.size
  feedSlice := feedSlice

/-- The length prefix for a payload of `n` octets, if there is one. -/
def header (n : Nat) : Except FrameError Bytes :=
  if n ≤ Length.greatest then .ok (Length.encode n)
  else .error (.frameTooLarge n Length.greatest)

/-- The frame with a payload, which must not be empty. -/
def encode (payload : Bytes) : Except FrameError Bytes :=
  if payload.isEmpty then .error (.invalidLength 0)
  else (header payload.length).map (· ++ payload)

end LengthPrefixed

end Duplex
