/-! # Durations

  A span of time in whole nanoseconds, kept as seconds and a remainder. The text of
  a duration uses the largest unit that gives a whole part and an exact decimal
  fraction without trailing zeros: `1.5s`, `1.000001ms`, `0ns`.
-/

namespace Duplex

/-- A span of time: whole seconds and a remainder in nanoseconds. -/
structure Duration where
  /-- Whole seconds. -/
  seconds : Nat
  /-- The remainder, below one second. -/
  nanos : Nat
  deriving DecidableEq, Repr

namespace Duration

/-- The number of nanoseconds in one second. -/
def nanosPerSecond : Nat := 1000000000

/-- No time at all. -/
def zero : Duration := ⟨0, 0⟩

/-- The duration of `n` nanoseconds. -/
def ofNanos (n : Nat) : Duration := ⟨n / nanosPerSecond, n % nanosPerSecond⟩

/-- The duration of `ms` milliseconds. -/
def ofMillis (ms : Nat) : Duration := ⟨ms / 1000, ms % 1000 * 1000000⟩

/-- The length in nanoseconds. -/
def toNanos (d : Duration) : Nat := d.seconds * nanosPerSecond + d.nanos

/-- The length in whole milliseconds, what is left over dropped. -/
def toMillis (d : Duration) : Nat := d.seconds * 1000 + d.nanos / 1000000

/-- The digits of `n` as a decimal fraction of `places` places, trailing zeros dropped
    and a point in front; nothing at all for zero. -/
def fraction (places n : Nat) : String :=
  let digits := (Nat.toDigits 10 n).reverse.dropWhile (· = '0')
  if digits.isEmpty then ""
  else
    let dropped := (Nat.toDigits 10 n).length - digits.length
    "." ++ String.ofList (List.replicate (places - dropped - digits.length) '0' ++ digits.reverse)

/-- `n` over `10 ^ places`, as a decimal. -/
def decimal (n places : Nat) (unit : String) : String :=
  toString (n / Nat.pow 10 places) ++ fraction places (n % Nat.pow 10 places) ++ unit

/-- The text of a duration. -/
def text (d : Duration) : String :=
  let n := d.toNanos
  if 1000000000 ≤ n then decimal n 9 "s"
  else if 1000000 ≤ n then decimal n 6 "ms"
  else if 1000 ≤ n then decimal n 3 "µs"
  else decimal n 0 "ns"

theorem toMillis_ofMillis (ms : Nat) : (ofMillis ms).toMillis = ms := by
  simp only [ofMillis, toMillis]
  omega

theorem toNanos_ofMillis (ms : Nat) : (ofMillis ms).toNanos = ms * 1000000 := by
  simp only [ofMillis, toNanos, nanosPerSecond]
  omega

end Duration

end Duplex
