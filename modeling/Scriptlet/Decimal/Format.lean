import Scriptlet.Decimal.Shortest

/-! # The text of a double

How the shortest decimal of a double is laid out.

Main definitions:

* `Format`: the decisions of a layout.
* `Format.write`: the text of a double in a layout. -/

namespace Scriptlet.Decimal

/-- The decisions of a layout of doubles. -/
structure Format where
  /-- The least exponent of ten written positionally. -/
  leastPositional : Int
  /-- The least exponent of ten written with an exponent mark again. -/
  leastMarked : Int
  /-- The least number of digits of a written exponent. -/
  exponentWidth : Nat
  /-- The text of a value that is not a number. -/
  notANumber : String
  /-- The text of infinity. -/
  infinity : String

/-- A natural in decimal digits, padded on the left with zeros to a width. -/
def padded (width number : Nat) : String :=
  let digits := Nat.toDigits 10 number
  String.ofList (List.replicate (width - digits.length) '0' ++ digits)

/-- Digits with a point among them; at least one digit stands on each side of the point. -/
def positional (decimal : Digits) : String :=
  let whole := decimal.point.toNat
  let leading := decimal.digits.take whole
  let trailing := decimal.digits.drop whole
  let before := if whole = 0 then ['0'] else leading ++ List.replicate (whole - leading.length) '0'
  let after := List.replicate (-decimal.point).toNat '0' ++ trailing
  String.ofList (before ++ '.' :: if after.isEmpty then ['0'] else after)

/-- Digits with the point after the first one, and an exponent of ten. -/
def marked (width : Nat) (decimal : Digits) : String :=
  let exponent := decimal.point - 1
  let fraction := decimal.digits.drop 1
  String.ofList (decimal.digits.take 1) ++
    (if fraction.isEmpty then "" else "." ++ String.ofList fraction) ++
    (if exponent < 0 then "e-" else "e+") ++ padded width exponent.natAbs

/-- The text of a double. -/
def Format.write (format : Format) (number : Float) : String :=
  let sign (negative : Bool) : String := if negative then "-" else ""
  match read number with
  | .nan => format.notANumber
  | .infinity negative => sign negative ++ format.infinity
  | .finite negative 0 _ => sign negative ++ "0.0"
  | .finite negative significand exponent =>
    let decimal := shortest significand exponent
    sign negative ++
      if format.leastPositional ≤ decimal.point - 1 && decimal.point - 1 < format.leastMarked then
        positional decimal
      else marked format.exponentWidth decimal

/-- The layout in which programs see doubles: positional from `0.0001` up to sixteen digits before
the point, and at least two digits in an exponent. -/
def plainFormat : Format :=
  { leastPositional := -4, leastMarked := 16, exponentWidth := 2
    notANumber := "nan", infinity := "inf" }

/-- The layout of doubles in a document, which spells the special values out. -/
def documentFormat : Format :=
  { plainFormat with notANumber := "NaN", infinity := "Infinity" }

end Scriptlet.Decimal
