import Duplex.Text.Utf8

/-! # Length prefixes

  A frame opens with the length of its payload: four octets, the most significant
  first, read as a signed number in two's complement.
-/

namespace Duplex.Length

/-- The number of octets in a length prefix. -/
def octets : Nat := 4

/-- The greatest length that a prefix can declare. -/
def greatest : Nat := 2147483647

/-- The four octets that declare `n`. -/
def encode (n : Nat) : Bytes :=
  [UInt8.ofNat (n / 16777216), UInt8.ofNat (n / 65536), UInt8.ofNat (n / 256), UInt8.ofNat n]

/-- The number in a string of octets, the most significant first. -/
def unsigned (bytes : Bytes) : Nat := bytes.foldl (fun n b => n * 256 + b.toNat) 0

/-- The length that four octets declare. -/
def decode (bytes : Bytes) : Int :=
  let n := unsigned bytes
  if n ≤ greatest then n else (n : Int) - 4294967296

/-- The largest declared length has a clear sign bit, the next one is the least number. -/
example : decode [0x7F, 0xFF, 0xFF, 0xFF] = 2147483647 ∧ decode [0x80, 0, 0, 0] = -2147483648 := by
  decide

end Duplex.Length
