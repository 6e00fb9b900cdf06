import Duplex.Codec.StringArray

/-! # Framings

  The three ways in which a byte stream is cut into messages, as one decoder: an
  application picks the framing at run time, and may change it between two messages.
-/

namespace Duplex

/-- A message, in the form that its framing gives it. -/
inductive Message where
  /-- A NUL-terminated text. -/
  | text (t : String)
  /-- The payload of a frame. -/
  | frame (payload : Bytes)
  /-- An array of texts. -/
  | array (texts : List String)
  deriving DecidableEq, Repr

/-- A decoder for one of the framings. -/
inductive Framing where
  | texts (d : NulString)
  | frames (d : LengthPrefixed)
  | arrays (d : StringArray.Streaming)
  deriving DecidableEq, Repr

namespace Framing

/-- A decoder outcome with the message and the decoder put into their sums. -/
def wrap {δ α β : Type} (onItem : α → β) (onDecoder : δ → Framing) (r : Decoded δ α) :
    Decoded Framing β :=
  (r.1.map onItem, onDecoder r.2)

/-- A fed slice with the message put into its sum. -/
def wrapFed {α β : Type} (onItem : α → β) (fed : Fed α) : Fed β :=
  ⟨fed.consumed, fed.item.map onItem⟩

/-- Takes one octet. -/
def feed : Framing → UInt8 → Decoded Framing (Option Message)
  | texts d, b => wrap (Option.map .text) texts (Decoder.feed d b)
  | frames d, b => wrap (Option.map .frame) frames (Decoder.feed d b)
  | arrays d, b => wrap (Option.map .array) arrays (Decoder.feed d b)

/-- Takes octets of a slice up to the first message or error. -/
def feedSlice : Framing → Bytes → Decoded Framing (Fed Message)
  | texts d, bytes => wrap (wrapFed .text) texts (Decoder.feedSlice d bytes)
  | frames d, bytes => wrap (wrapFed .frame) frames (Decoder.feedSlice d bytes)
  | arrays d, bytes => wrap (wrapFed .array) arrays (Decoder.feedSlice d bytes)

/-- Whether the stream may end here. -/
def finish : Framing → Except FrameError Unit
  | texts d => Decoder.finish d
  | frames d => Decoder.finish d
  | arrays d => Decoder.finish d

/-- The number of octets held back for an unfinished message. -/
def pendingLen : Framing → Nat
  | texts d => Decoder.pendingLen d
  | frames d => Decoder.pendingLen d
  | arrays d => Decoder.pendingLen d

instance : Decoder Framing Message where
  feed := feed
  finish := finish
  pendingLen := pendingLen
  feedSlice := feedSlice

end Framing

/-- A framing with its own path for slices, or fed octet by octet. -/
inductive FramingMode where
  | bulk (d : Framing)
  | bytewise (d : Bytewise Framing)

namespace FramingMode

/-- The framing, however it is fed. -/
def framing : FramingMode → Framing
  | bulk d => d
  | bytewise d => d.inner

instance : Decoder FramingMode Message where
  feed
    | bulk d, b => let (r, d) := Decoder.feed d b; (r, bulk d)
    | bytewise d, b => let (r, d) := Decoder.feed d b; (r, bytewise d)
  finish d := d.framing.finish
  pendingLen d := d.framing.pendingLen
  feedSlice
    | bulk d, bytes => let (r, d) := Decoder.feedSlice d bytes; (r, bulk d)
    | bytewise d, bytes => let (r, d) := Decoder.feedSlice d bytes; (r, bytewise d)

end FramingMode

end Duplex
