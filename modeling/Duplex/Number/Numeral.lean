import Duplex.Number.Binary64

/-! # Numerals

  The text of a number: a sign, digits with or without a point, and perhaps an exponent. One
  that is written as an integer stands for it where it fits into 64 bits, with or without a
  sign; a negative zero keeps its sign, so it is no integer. Any other numeral stands for a
  binary floating point number.

  That number is read in two steps. The leading digits that fit into 64 bits make an integer,
  which is rounded; this is multiplied or divided by a power of ten, and rounded again. So it is
  the nearest number where the integer and the power are exact, as they are up to fifteen
  digits and twenty-two places, and can be one next to it elsewhere.
-/

namespace Duplex

/-- A numeral, taken apart. -/
structure Numeral where
  /-- Whether it starts with a minus sign. -/
  negative : Bool
  /-- The digits before the point. -/
  whole : List Nat
  /-- The digits after the point, if there is one. -/
  fraction : Option (List Nat)
  /-- The exponent, if there is one. -/
  power : Option Int
  deriving DecidableEq, Repr

namespace Numeral

/-! ### Taking apart -/

/-- The digits of a text, which has to have some and nothing else. -/
def digits? (text : List Char) : Option (List Nat) :=
  if text.isEmpty then none
  else text.mapM fun c => if c.isDigit then some (c.toNat - '0'.toNat) else none

/-- The number with these digits. -/
def ofDigits (digits : List Nat) : Nat := digits.foldl (fun n d => n * 10 + d) 0

/-- The exponent with this text. -/
def power? : List Char → Option Int
  | '-' :: text => (digits? text).map fun digits => -(ofDigits digits)
  | '+' :: text => (digits? text).map fun digits => ofDigits digits
  | text => (digits? text).map fun digits => ofDigits digits

/-- What follows a mark, if the mark is there. -/
def afterMark {α : Type} (read? : List Char → Option α) : List Char → Option (Option α)
  | [] => some none
  | _ :: text => (read? text).map some

/-- Takes a numeral apart. -/
def ofText? (text : String) : Option Numeral := do
  let negative := text.startsWith "-"
  let unsigned := if negative then text.toList.drop 1 else text.toList
  let (coefficient, power) := unsigned.span fun c => c ≠ 'e' ∧ c ≠ 'E'
  let (whole, fraction) := coefficient.span (· ≠ '.')
  return {
    negative
    whole := ← digits? whole
    fraction := ← afterMark digits? fraction
    power := ← afterMark power? power }

/-! ### Meaning -/

/-- The integer of 64 bits that a numeral stands for. -/
def integer? (n : Numeral) : Option Int :=
  let magnitude := ofDigits n.whole
  if n.fraction.isSome ∨ n.power.isSome then none
  else if n.negative then
    if 0 < magnitude ∧ Int64.minValue.toInt ≤ -(magnitude : Int) then some (-(magnitude : Int))
    else none
  else if magnitude < UInt64.size then some magnitude else none

/-- Takes digits into an integer for as long as it stays in 64 bits, and says how many are left
    over. -/
def takeIn (significand : Nat) : List Nat → Nat × Nat
  | [] => (significand, 0)
  | d :: rest =>
    if significand * 10 + d < UInt64.size then takeIn (significand * 10 + d) rest
    else (significand, rest.length + 1)

/-- The leading digits as an integer of 64 bits, and the power of ten that belongs to it. -/
def scaled (n : Numeral) : Nat × Int :=
  let fraction := n.fraction.getD []
  let (whole, places) := takeIn 0 n.whole
  let (significand, left) := takeIn whole fraction
  (significand, n.power.getD 0 + places - (fraction.length - left : Nat))

/-- A magnitude divided by `10 ^ n`, in steps for which the power of ten is in the format. -/
def shiftDown (x : Binary64) (n : Nat) : Binary64 :=
  if n ≤ 308 then x.dividedBy (.tenPow n)
  else if x.mantissa = 0 then x
  else shiftDown (x.dividedBy (.tenPow 308)) (n - 308)
termination_by n

/-- A magnitude multiplied by `10 ^ n`, unless that is too large for the format. -/
def shiftUp? (x : Binary64) (n : Nat) : Option Binary64 :=
  if n ≤ 308 then
    let y := x.times (.tenPow n)
    if y.isFinite then some y else none
  else if x.mantissa = 0 then some x
  else none

/-- The binary floating point number that a numeral stands for, unless that is too large. -/
def toBinary64? (n : Numeral) : Option Binary64 :=
  let (significand, power) := n.scaled
  let x := Binary64.ofFraction significand 1
  let scaled? := if 0 ≤ power then shiftUp? x power.toNat else some (shiftDown x (-power).toNat)
  scaled?.map fun y => { y with negative := n.negative }

end Numeral

end Duplex
