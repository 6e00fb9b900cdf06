import Duplex.Codec.LengthPrefixed
import Duplex.Codec.NulString

/-! # String arrays

  An array of texts travels as one length-prefixed frame whose payload is the texts,
  each ended by a NUL. An absent text is written like an empty one. The whole-frame
  reader takes a zero length for the empty array; the streaming decoder, which is built
  on the frame decoder, refuses it.
-/

namespace Duplex.StringArray

/-- Puts an octet in front of the first piece. -/
def extendHead (b : UInt8) : List Bytes → List Bytes
  | [] => [[b]]
  | piece :: pieces => (b :: piece) :: pieces

/-- The pieces between the NUL octets: one more than there are such octets. -/
def splitNul (bytes : Bytes) : List Bytes :=
  bytes.foldr (fun b pieces => if b = nul then [] :: pieces else extendHead b pieces) [[]]

/-- The texts of a payload. -/
def parse (payload : Bytes) : Except FrameError (List String) :=
  if payload.getLast? = some nul then
    .ok ((splitNul payload.dropLast).map Utf8.decode)
  else .error (.noTermination (payload.reverse.takeWhile (· ≠ nul)).length)

/-- The texts of a frame that has to be complete and alone. -/
def decodeFrame (frame : Bytes) : Except FrameError (List String) :=
  if frame.length < Length.octets then .error (.incomplete Length.octets frame.length)
  else
    let declared := Length.decode (frame.take Length.octets)
    let payload := frame.drop Length.octets
    if declared < 0 then .error (.invalidLength declared)
    else
      let declared := declared.toNat
      if payload.length < declared then .error (.incomplete declared payload.length)
      else if declared < payload.length then .error (.trailingBytes (payload.length - declared))
      else if declared = 0 then .ok []
      else parse payload

/-! ### Writing -/

/-- A frame under construction: room for the prefix, then the payload so far. -/
structure Encoder where
  /-- The octets so far, the room for the prefix included. -/
  buffer : Array UInt8 := #[0, 0, 0, 0]
  deriving DecidableEq, Repr

namespace Encoder

/-- Adds a text. -/
def push (e : Encoder) (text : String) : Encoder :=
  ⟨(e.buffer ++ Utf8.encode text).push nul⟩

/-- Adds an absent text. -/
def pushNull (e : Encoder) : Encoder := ⟨e.buffer.push nul⟩

/-- Adds a text that may be absent. -/
def add (e : Encoder) : Option String → Encoder
  | some text => e.push text
  | none => e.pushNull

/-- The number of payload octets so far. -/
def payloadLen (e : Encoder) : Nat := e.buffer.size - Length.octets

/-- The finished frame: the prefix is written into the room kept for it. -/
def finish (e : Encoder) : Except FrameError Bytes :=
  (LengthPrefixed.header e.payloadLen).map (· ++ e.buffer.toList.drop Length.octets)

end Encoder

/-- The frame of an array of texts. -/
def encode (texts : List (Option String)) : Except FrameError Bytes :=
  (texts.foldl Encoder.add {}).finish

/-! ### Streaming -/

/-- A decoder of string arrays over a frame decoder. -/
structure Streaming where
  /-- The decoder that delivers the payloads. -/
  frames : LengthPrefixed := {}
  deriving DecidableEq, Repr

namespace Streaming

/-- The texts of the payload that was completed, if one was. -/
def parseItem : Option Bytes → Except FrameError (Option (List String))
  | none => .ok none
  | some payload => (parse payload).map some

/-- Takes one octet. -/
def feed (d : Streaming) (b : UInt8) : Decoded Streaming (Option (List String)) :=
  let (r, frames) := d.frames.feed b
  (r.bind parseItem, ⟨frames⟩)

/-- Takes octets of a slice up to the first array or error. -/
def feedSlice (d : Streaming) (bytes : Bytes) : Decoded Streaming (Fed (List String)) :=
  let (r, frames) := d.frames.feedSlice bytes
  (r.bind fun fed => (parseItem fed.item).map (⟨fed.consumed, ·⟩), ⟨frames⟩)

instance : Decoder Streaming (List String) where
  feed := feed
  finish d := d.frames.finish
  pendingLen d := d.frames.pending.size
  feedSlice := feedSlice

end Streaming

end Duplex.StringArray
