import Duplex.Codec.Decoder

/-! # NUL-terminated texts

  Each message is a text followed by one NUL octet. The text is read lossily, so the
  only thing that can be wrong is a stream that ends inside a text.
-/

namespace Duplex

/-- The octet that ends a text. -/
def nul : UInt8 := 0

/-- A decoder of NUL-terminated texts. -/
structure NulString where
  /-- The octets of the unfinished text. -/
  pending : Array UInt8 := #[]
  deriving DecidableEq, Repr

namespace NulString

/-- Takes one octet. -/
def feed : NulString → UInt8 → Decoded NulString (Option String)
  | ⟨pending⟩, b =>
    if b = nul then (.ok (some (Utf8.decode pending.toList)), {})
    else (.ok none, ⟨pending.push b⟩)

/-- Takes all octets up to the first NUL, and that NUL. -/
def feedSlice : NulString → Bytes → Decoded NulString (Fed String)
  | ⟨pending⟩, bytes =>
    let text := bytes.takeWhile (· ≠ nul)
    let pending := pending ++ text
    match bytes.dropWhile (· ≠ nul) with
    | [] => (.ok ⟨text.length, none⟩, ⟨pending⟩)
    | _ :: _ => (.ok ⟨text.length + 1, some (Utf8.decode pending.toList)⟩, {})

/-- A stream may not end inside a text. -/
def finish (d : NulString) : Except FrameError Unit :=
  if d.pending.isEmpty then .ok () else .error (.noTermination d.pending.size)

instance : Decoder NulString String where
  feed := feed
  finish := finish
  pendingLen d := d.pending.size
  feedSlice := feedSlice

/-- The octets of a text and the NUL that ends it. -/
def encode (text : String) : Bytes := Utf8.encode text ++ [nul]

end NulString

end Duplex
