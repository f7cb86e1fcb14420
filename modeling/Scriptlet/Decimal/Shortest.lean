import Scriptlet.Decimal.Binary

/-! # Shortest decimals

The decimal with the fewest digits that reads back as a given double.

Main definitions:

* `Digits`: a decimal `0.d₁d₂… · 10 ^ point`.
* `shortest`: of the decimals with the fewest digits that read back, the one nearest to the double. -/

namespace Scriptlet.Decimal

/-- The decimal `significand · 10 ^ (point - digits)`, where `digits` counts the digits of the
significand: the point stands after `point` digits. -/
structure Digits where
  /-- The digits, most significant first, without zeros at the end. -/
  digits : List Char
  /-- How many digits stand before the point; zeros follow the point if it is negative. -/
  point : Int
deriving Repr, DecidableEq, Inhabited

/-- Whether `numerator / denominator < 10 ^ power`. -/
def belowPower (numerator denominator : Nat) : Int → Bool
  | .ofNat power => numerator < denominator * Nat.pow 10 power
  | .negSucc power => numerator * Nat.pow 10 (power + 1) < denominator

/-- The number of digits that a positive ratio has before the point, negative if zeros follow it. -/
def pointOf (numerator denominator : Nat) : Int :=
  let guess : Int := ((numerator.log2 : Int) - denominator.log2) * 30103 / 100000 - 1
  (([0, 1, 2].map (guess + ·)).find? (belowPower numerator denominator)).getD (guess + 3)

/-- The ratio `numerator / (denominator · 10 ^ power)` as a ratio of naturals. -/
def scaleTen (numerator denominator : Nat) : Int → Nat × Nat
  | .ofNat power => (numerator, denominator * Nat.pow 10 power)
  | .negSucc power => (numerator * Nat.pow 10 (power + 1), denominator)

/-- Of the two neighbours of a positive ratio on the grid of decimals with `count` digits, the one
that reads back as the double with the given magnitude bits; the nearer one if both do. -/
def neighbour? (bits numerator denominator : Nat) (point : Int) (count : Nat) : Option Nat :=
  let power := point - count
  let (scaled, divisor) := scaleTen numerator denominator power
  let below := scaled / divisor
  let readsBack (significand : Nat) : Bool := nearestDecimal significand power = bits
  let nearer := divideToEven scaled divisor
  if readsBack nearer then some nearer
  else if readsBack below then some below
  else if readsBack (below + 1) then some (below + 1)
  else none

/-- A significand and the power of ten it is multiplied with, written as digits. -/
def Digits.ofScaled (significand : Nat) (power : Int) : Digits :=
  let digits := Nat.toDigits 10 significand
  { digits := (digits.reverse.dropWhile (· = '0')).reverse, point := digits.length + power }

/-- The shortest decimal that reads back as `significand · 2 ^ exponent`; seventeen digits suffice
for every double. -/
def shortest (significand : Nat) (exponent : Int) : Digits :=
  let (numerator, denominator) := scale significand 1 (-exponent)
  let bits := nearest numerator denominator
  let point := pointOf numerator denominator
  let attempt (count : Nat) : Option Digits :=
    (neighbour? bits numerator denominator point count).map (Digits.ofScaled · (point - count))
  ((List.range 16).findSome? fun fewer => attempt (fewer + 1)).getD <|
    let (scaled, divisor) := scaleTen numerator denominator (point - 17)
    Digits.ofScaled (divideToEven scaled divisor) (point - 17)

end Scriptlet.Decimal
