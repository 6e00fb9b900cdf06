import Duplex.Codec.FrameError
import Duplex.Text.Utf8

/-! # Decoders

  A decoder cuts a byte stream into messages. It takes octets one by one (`feed`) or
  as many of a slice as lead to the next message (`feedSlice`), and says at the end of
  the stream whether the stream may end there (`finish`). It stays in use after an error.

  Whatever a decoder's own `feedSlice` does, it has to agree with `feedEach`, which
  feeds octet by octet; `Bytewise` is the decoder that has no path of its own.
-/

namespace Duplex

/-- What one call made of a slice: how much of it was taken, and the message that this
    completed, if it did. -/
structure Fed (ι : Type) where
  /-- The number of octets taken. -/
  consumed : Nat
  /-- The completed message. -/
  item : Option ι
  deriving DecidableEq, Repr

/-- The outcome of a decoder call, with the decoder after it. -/
abbrev Decoded (δ α : Type) := Except FrameError α × δ

/-- Feeds a slice octet by octet up to the first message or error; `consumed` octets were
    taken before. -/
def feedEach {δ ι : Type} (feed : δ → UInt8 → Decoded δ (Option ι)) (d : δ) (consumed : Nat) :
    Bytes → Decoded δ (Fed ι)
  | [] => (.ok ⟨consumed, none⟩, d)
  | b :: rest =>
    match feed d b with
    | (.error e, d) => (.error e, d)
    | (.ok (some item), d) => (.ok ⟨consumed + 1, some item⟩, d)
    | (.ok none, d) => feedEach feed d (consumed + 1) rest

/-- A decoder with states `δ` and messages `ι`. -/
class Decoder (δ : Type) (ι : outParam Type) where
  /-- Takes one octet, and yields the message that it completes. -/
  feed : δ → UInt8 → Decoded δ (Option ι)
  /-- Whether the stream may end here. -/
  finish : δ → Except FrameError Unit
  /-- The number of octets held back for an unfinished message. -/
  pendingLen : δ → Nat
  /-- Takes octets of a slice up to the first message or error. -/
  feedSlice : δ → Bytes → Decoded δ (Fed ι) := fun d bytes => feedEach feed d 0 bytes

namespace Decoder

variable {δ ι : Type} [Decoder δ ι]

/-- One call on a slice: the message it completed, and the rest of the slice. A call takes at
    least one octet of a slice that has one. -/
def advance (d : δ) (bytes : Bytes) : Decoded δ (Option ι × Bytes) :=
  match feedSlice d bytes with
  | (.error e, d) => (.error e, d)
  | (.ok fed, d) => (.ok (fed.item, bytes.drop (max 1 fed.consumed)), d)

theorem advance_rest_lt {d d' : δ} {bytes rest : Bytes} {item : Option ι} (hne : bytes ≠ [])
    (h : advance d bytes = (.ok (item, rest), d')) : rest.length < bytes.length := by
  have hpos : 0 < bytes.length := List.length_pos_iff.2 hne
  unfold advance at h
  split at h
  · simp at h
  · simp only [Prod.mk.injEq, Except.ok.injEq] at h
    rw [← h.1.2, List.length_drop]
    omega

/-- What a run over a whole slice came to. -/
structure Run (δ ι : Type) where
  /-- The messages, in order, those before an error included. -/
  items : Array ι
  /-- The error that ended the run early. -/
  error : Option FrameError
  /-- The decoder after the run. -/
  decoder : δ

/-- Feeds all of a slice, or as much as comes before an error, adding to `items`. -/
def decodeOnto (items : Array ι) (d : δ) (bytes : Bytes) : Run δ ι :=
  if _hne : bytes = [] then ⟨items, none, d⟩
  else
    match _h : advance d bytes with
    | (.error e, d) => ⟨items, some e, d⟩
    | (.ok (item, rest), d) => decodeOnto (items ++ item.toArray) d rest
termination_by bytes.length
decreasing_by exact advance_rest_lt _hne _h

/-- Feeds all of a slice, or as much as comes before an error. -/
def decodeAll (d : δ) (bytes : Bytes) : Run δ ι := decodeOnto #[] d bytes

end Decoder

/-- A decoder that is fed octet by octet, whatever path of its own the inner one has. -/
structure Bytewise (δ : Type) where
  /-- The decoder that does the work. -/
  inner : δ

instance {δ ι : Type} [Decoder δ ι] : Decoder (Bytewise δ) ι where
  feed d b :=
    let (r, inner) := Decoder.feed d.inner b
    (r, ⟨inner⟩)
  finish d := Decoder.finish d.inner
  pendingLen d := Decoder.pendingLen (ι := ι) d.inner

end Duplex
