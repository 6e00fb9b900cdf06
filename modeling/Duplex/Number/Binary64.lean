/-! # Binary floating point numbers

  The numbers of the 64-bit binary format, with the exact value of each and the rounding of a
  fraction to the nearest of them, ties to the even one. Products and quotients are exact
  fractions, rounded once. Everything is arithmetic on natural numbers.
-/

namespace Duplex

/-- The binary number `± mantissa * 2 ^ exponent`. -/
structure Binary64 where
  /-- Whether the number is below zero, or the zero below it. -/
  negative : Bool
  /-- Below `2 ^ 53`, and at least `2 ^ 52` unless the exponent is the least one. -/
  mantissa : Nat
  /-- At least `-1074`. -/
  exponent : Int
  deriving DecidableEq, Repr

namespace Binary64

/-- The quotient rounded to the nearest natural number, ties to the even one. -/
def divideToEven (num den : Nat) : Nat :=
  let q := num / den
  let r := num % den
  if 2 * r < den then q else if den < 2 * r then q + 1 else q + q % 2

/-- `base ^ e` for a positive `e`, and 1 for others. -/
def powUp (base : Nat) (e : Int) : Nat := Nat.pow base e.toNat

/-- `num / den` in units of `2 ^ e`, rounded. -/
def roundTo (num den : Nat) (e : Int) : Nat :=
  divideToEven (num * powUp 2 (-e)) (den * powUp 2 e)

/-- The exponent `k` with `2 ^ k ≤ num / den < 2 ^ (k + 1)`. -/
def floorLog2 (num den : Nat) : Int :=
  let k : Int := (num.log2 : Int) - den.log2
  if num * powUp 2 (-k) < den * powUp 2 k then k - 1 else k

/-- The number nearest to the fraction `num / den`, were there no largest number. -/
def ofFraction (num den : Nat) : Binary64 :=
  if num = 0 then ⟨false, 0, -1074⟩
  else
    let e := max (-1074) (floorLog2 num den - 52)
    let m := roundTo num den e
    if m < Nat.pow 2 53 then ⟨false, m, e⟩ else ⟨false, m / 2, e + 1⟩

/-- Whether the number is not too large for the format. -/
def isFinite (x : Binary64) : Bool := x.exponent ≤ 971

/-- The numerator of the magnitude. -/
def num (x : Binary64) : Nat := x.mantissa * powUp 2 x.exponent

/-- The denominator of the magnitude, a power of two. -/
def den (x : Binary64) : Nat := powUp 2 (-x.exponent)

/-- The product of two magnitudes, rounded. -/
def times (x y : Binary64) : Binary64 := ofFraction (x.num * y.num) (x.den * y.den)

/-- The quotient of two magnitudes, rounded. -/
def dividedBy (x y : Binary64) : Binary64 := ofFraction (x.num * y.den) (x.den * y.num)

/-- The number nearest to `10 ^ n`. -/
def tenPow (n : Nat) : Binary64 := ofFraction (Nat.pow 10 n) 1

end Binary64

end Duplex
