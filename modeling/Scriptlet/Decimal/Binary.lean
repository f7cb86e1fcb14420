/-! # Binary floating-point numbers

The exact value of a double, and the double nearest to an exact value.  A finite double is
`± significand · 2 ^ exponent`; its 63 magnitude bits order the doubles by size, and reading them as
`(exponent + 1074) · 2 ^ 52 + significand` holds for normal and subnormal numbers alike.

Main definitions:

* `Reading`, `read`: the exact value of a double.
* `nearest`: the magnitude bits of the double nearest to a ratio of naturals, ties to even.
* `ofInteger?`: the double nearest to an integer, `none` past the largest double.
* `compareReadings`: the exact order of two values, also of an integer with a double.
* `remainder`: the remainder of a division whose quotient is rounded toward zero. -/

namespace Scriptlet.Decimal

/-- What a double stands for. -/
inductive Reading
  /-- Not a number. -/
  | nan
  /-- Larger in size than every finite double. -/
  | infinity (negative : Bool)
  /-- The number `± significand · 2 ^ exponent`. -/
  | finite (negative : Bool) (significand : Nat) (exponent : Int)
deriving Repr, DecidableEq, Inhabited

/-- The magnitude bits of infinity. -/
def infinityBits : Nat := 0x7FF * Nat.pow 2 52

/-- The exact value of a double. -/
def read (number : Float) : Reading :=
  let bits := number.toBits.toNat
  let negative : Bool := bits / Nat.pow 2 63 = 1
  let field : Nat := bits / Nat.pow 2 52 % Nat.pow 2 11
  let fraction : Nat := bits % Nat.pow 2 52
  if field = 0x7FF then
    if fraction = 0 then .infinity negative else .nan
  else if field = 0 then .finite negative fraction (-1074)
  else .finite negative (fraction + Nat.pow 2 52) ((field : Int) - 1075)

/-- The double with a given sign and given magnitude bits. -/
def ofMagnitude (negative : Bool) (bits : Nat) : Float :=
  Float.ofBits (UInt64.ofNat (if negative then Nat.pow 2 63 + bits else bits))

/-- Not a number. -/
def notANumber : Float := Float.ofBits 0x7FF8000000000000

/-- The quotient of two naturals rounded to the nearest natural, a tie to the even one. -/
def divideToEven (numerator denominator : Nat) : Nat :=
  let quotient := numerator / denominator
  let twice := 2 * (numerator % denominator)
  if twice < denominator then quotient
  else if twice = denominator && quotient % 2 = 0 then quotient
  else quotient + 1

/-- The ratio `numerator / (denominator · 2 ^ exponent)` as a ratio of naturals. -/
def scale (numerator denominator : Nat) : Int → Nat × Nat
  | .ofNat exponent => (numerator, denominator <<< exponent)
  | .negSucc exponent => (numerator <<< (exponent + 1), denominator)

/-- The exponent of the double nearest to a positive ratio: the one that leaves a significand of 53
bits, but never below the exponent of the subnormal numbers. -/
def exponentOf (numerator denominator : Nat) : Int :=
  let guess : Int := (numerator.log2 : Int) - denominator.log2 - 53
  let (scaled, divisor) := scale numerator denominator guess
  max (-1074) (if scaled / divisor < Nat.pow 2 53 then guess else guess + 1)

/-- The magnitude bits of the double nearest to `numerator / denominator`, a tie to the even
significand; infinity past the largest double. -/
def nearest (numerator denominator : Nat) : Nat :=
  if numerator = 0 then 0
  else
    let exponent := exponentOf numerator denominator
    let (scaled, divisor) := scale numerator denominator exponent
    min infinityBits ((exponent + 1074).toNat * Nat.pow 2 52 + divideToEven scaled divisor)

/-- The magnitude bits of the double nearest to `significand · 10 ^ exponent`.  A number with more
than 310 digits before the point is infinite and one with more than 330 zeros after it vanishes. -/
def nearestDecimal (significand : Nat) (exponent : Int) : Nat :=
  let digits : Int := (Nat.toDigits 10 significand).length
  if significand = 0 || digits + exponent < -330 then 0
  else if digits + exponent > 310 then infinityBits
  else match exponent with
    | .ofNat power => nearest (significand * Nat.pow 10 power) 1
    | .negSucc power => nearest significand (Nat.pow 10 (power + 1))

/-- The double nearest to an integer, if that is finite. -/
def ofInteger? (integer : Int) : Option Float :=
  let bits := nearest integer.natAbs 1
  if bits < infinityBits then some (ofMagnitude (integer < 0) bits) else none

/-- The integer `± significand` read as a number. -/
def Reading.ofInteger (integer : Int) : Reading :=
  .finite (integer < 0) integer.natAbs 0

/-- A significand with its sign. -/
def signed (negative : Bool) (significand : Nat) : Int :=
  if negative then -(significand : Int) else significand

/-- The exact order of two values; nothing is ordered against a value that is not a number. -/
def compareReadings : Reading → Reading → Option Ordering
  | .nan, _ => none
  | _, .nan => none
  | .infinity true, .infinity true => some .eq
  | .infinity false, .infinity false => some .eq
  | .infinity negative, _ => some (if negative then .lt else .gt)
  | _, .infinity negative => some (if negative then .gt else .lt)
  | .finite negative significand exponent, .finite negative' significand' exponent' =>
    let least := min exponent exponent'
    some (compare (signed negative (significand <<< (exponent - least).toNat))
      (signed negative' (significand' <<< (exponent' - least).toNat)))

/-- The remainder of a division whose quotient is rounded toward zero; it has the dividend's sign and
is exact.  An infinite dividend and a zero divisor leave none. -/
def remainder (dividend divisor : Float) : Float :=
  match read dividend, read divisor with
  | .finite negative significand exponent, .finite _ significand' exponent' =>
    if significand' = 0 then notANumber
    else
      let least := min exponent exponent'
      let rest := (significand <<< (exponent - least).toNat) %
        (significand' <<< (exponent' - least).toNat)
      let (numerator, denominator) := scale rest 1 (-least)
      ofMagnitude negative (nearest numerator denominator)
  | .finite .., .infinity _ => dividend
  | _, _ => notANumber

end Scriptlet.Decimal
