import Duplex.Number.Binary64

/-! # The shortest decimal

  A number of the 64-bit binary format is written with the fewest decimal digits that read back
  as it; of the decimals with so few digits, the nearest is taken. The point stands in its place
  for magnitudes from a hundred thousandth to below ten to the sixteenth, and after the first
  digit, with an exponent, for others.
-/

namespace Duplex.Binary64

/-- Whether `a * 10 ^ k ≤ b * 2 ^ p`. -/
def leScaled (a : Nat) (k : Int) (b : Nat) (p : Int) : Bool :=
  a * powUp 10 k * powUp 2 (-p) ≤ b * powUp 2 p * powUp 10 (-k)

/-- Whether `b * 2 ^ p ≤ a * 10 ^ k`. -/
def geScaled (a : Nat) (k : Int) (b : Nat) (p : Int) : Bool :=
  b * powUp 2 p * powUp 10 (-k) ≤ a * powUp 10 k * powUp 2 (-p)

/-- Whether the decimal `a * 10 ^ k` reads back as `x`: it lies between the points halfway to
    the two neighbours, and on such a point only if the mantissa is even. -/
def readsBack (x : Binary64) (a : Nat) (k : Int) : Bool :=
  let p := x.exponent - 2
  let below := if x.mantissa = Nat.pow 2 52 ∧ -1074 < x.exponent then 1 else 2
  let low := 4 * x.mantissa - below
  let high := 4 * x.mantissa + 2
  if x.mantissa % 2 = 0 then geScaled a k low p && leScaled a k high p
  else !leScaled a k low p && !geScaled a k high p

/-- The number of decimal places before the point that the magnitude of `x` has; negative by as
    many zeros as follow the point. -/
def magnitude (x : Binary64) : Int :=
  if x.den ≤ x.num then (Nat.toDigits 10 (x.num / x.den)).length
  else
    let inverse := (x.den - 1) / x.num
    1 - ((Nat.toDigits 10 inverse).length : Int)

/-- The multiple of `10 ^ k` that is nearest to `x` and reads back as it, if there is one. -/
def nearestAt (x : Binary64) (k : Int) : Option Nat :=
  let num := x.num * powUp 10 (-k)
  let den := x.den * powUp 10 k
  let near := divideToEven num den
  let far := if near * den ≤ num then near + 1 else near - 1
  if readsBack x near k then some near else if readsBack x far k then some far else none

/-- The coefficient with the fewest digits, from `digits` digits on, and its exponent. -/
def shortestFrom (x : Binary64) (magnitude : Int) (digits : Nat) : Nat → Nat × Int
  | 0 => (0, 0)
  | more + 1 =>
    match nearestAt x (magnitude - digits) with
    | some a => (a, magnitude - digits)
    | none => shortestFrom x magnitude (digits + 1) more

/-- The shortest decimal that reads back as `x`, without the sign. Seventeen digits suffice. -/
def shortest (x : Binary64) : Nat × Int := shortestFrom x (magnitude x) 1 17

/-! ### Text -/

/-- `n` zeros. -/
def zeros (n : Int) : List Char := List.replicate n.toNat '0'

/-- The text of the number whose significant digits are these, the decimal point standing before
    the one numbered `point`. -/
def layout (digits : List Char) (point : Int) : List Char :=
  if 0 < point ∧ point ≤ 16 then
    digits.take point.toNat ++ zeros (point - digits.length) ++ '.' ::
      (if (digits.length : Int) ≤ point then ['0'] else digits.drop point.toNat)
  else if -5 < point ∧ point ≤ 0 then '0' :: '.' :: zeros (-point) ++ digits
  else
    let tail := digits.drop 1
    let exponent := point - 1
    digits.take 1 ++ (if tail.isEmpty then [] else '.' :: tail) ++
      'e' :: (if exponent < 0 then '-' else '+') :: Nat.toDigits 10 exponent.natAbs

/-- The text of the magnitude of a number. -/
def magnitudeText (x : Binary64) : List Char :=
  if x.mantissa = 0 then ['0', '.', '0']
  else
    let (a, k) := shortest x
    let digits := Nat.toDigits 10 a
    layout (digits.reverse.dropWhile (· = '0')).reverse (digits.length + k)

/-- The text of a number. -/
def text (x : Binary64) : String :=
  String.ofList (if x.negative then '-' :: magnitudeText x else magnitudeText x)

end Duplex.Binary64
