import Scriptlet.Decimal.Binary
import Scriptlet.Text.Blank
import Scriptlet.Text.Digit

/-! # Numerals

How the text of a number is read.  Margin characters may surround it, a sign may lead it, and a
single underscore may stand between two digits.

Main definitions:

* `integer?`: the integer that a text denotes; at most `digitLimit` digits are read.
* `isWritable`: whether an integer has a text at all; no more than `digitLimit` digits are written.
* `double?`: the double nearest to the number that a text denotes. -/

namespace Scriptlet.Decimal

open Text

/-- The most digits that an integer numeral may have; zeros at the front count. -/
def digitLimit : Nat := 4300

/-- Whether an integer can be written: an integer of more digits than the limit has no text. -/
-- Irreducible, so that nothing unfolds a bound of thousands of digits on its way.
@[irreducible] def isWritable (integer : Int) : Bool :=
  integer.natAbs < Nat.pow 10 digitLimit

/-- Splits off the digits at the front of a text, single underscores between digits included. -/
def takeDigits : List Char → List Nat × List Char
  | [] => ([], [])
  | first :: '_' :: rest =>
    match digitValue? first, takeDigits rest with
    | none, _ => ([], first :: '_' :: rest)
    | some value, ([], _) => ([value], '_' :: rest)
    | some value, (values, remaining) => (value :: values, remaining)
  | first :: rest =>
    match digitValue? first with
    | none => ([], first :: rest)
    | some value =>
      let (values, remaining) := takeDigits rest
      (value :: values, remaining)

/-- The natural with given digits, most significant first. -/
def ofDigits (digits : List Nat) : Nat :=
  digits.foldl (fun number digit => 10 * number + digit) 0

/-- Splits off an optional sign: whether it is a minus, and what follows. -/
def takeSign : List Char → Bool × List Char
  | '-' :: rest => (true, rest)
  | '+' :: rest => (false, rest)
  | text => (false, text)

/-- The integer that a text denotes. -/
def integer? (text : String) : Option Int :=
  let (negative, unsigned) := takeSign (trimMargin text.toList)
  match takeDigits unsigned with
  | (digits, []) =>
    if digits.isEmpty || digits.length > digitLimit then none
    else some (signed negative (ofDigits digits))
  | _ => none

/-- The exponent of ten at the front of a text; zero if no exponent mark stands there, and `none` if
no digits follow the mark. -/
def takeExponent : List Char → Option (Int × List Char)
  | mark :: rest =>
    if mark = 'e' || mark = 'E' then
      let (negative, unsigned) := takeSign rest
      match takeDigits unsigned with
      | ([], _) => none
      | (digits, remaining) => some (signed negative (ofDigits digits), remaining)
    else some (0, mark :: rest)
  | [] => some (0, [])

/-- The fraction at the front of a text, if a point stands there. -/
def takeFraction : List Char → List Nat × List Char
  | '.' :: rest => takeDigits rest
  | text => ([], text)

/-- The magnitude bits that an unsigned decimal denotes, the whole text being read. -/
def magnitude? (text : List Char) : Option Nat :=
  let (whole, afterWhole) := takeDigits text
  let (fraction, afterFraction) := takeFraction afterWhole
  if whole.isEmpty && fraction.isEmpty then none
  else match takeExponent afterFraction with
    | some (exponent, []) =>
      some (nearestDecimal (ofDigits (whole ++ fraction)) (exponent - fraction.length))
    | _ => none

/-- The double nearest to the number that a text denotes; infinity and values that are not numbers
are spelled out, in letters of either case. -/
def double? (text : String) : Option Float :=
  let (negative, unsigned) := takeSign (trimMargin text.toList)
  let word := String.ofList (unsigned.map Char.toLower)
  if word = "inf" || word = "infinity" then some (ofMagnitude negative infinityBits)
  else if word = "nan" then some notANumber
  else (magnitude? unsigned).map (ofMagnitude negative)

end Scriptlet.Decimal
