import Scriptlet.Error
import Scriptlet.Value
import Scriptlet.Word

/-! # Operators

What the operators of a program do to values.  Integer results are wrapped to 64 bits wherever an
operator can leave the range; arithmetic with a double on either side is done in doubles.

Main definitions:

* `Problem`: why an operator has no result.
* `unary`, `binary`: an operator, given by its sign, applied to values. -/

namespace Scriptlet.Operator

/-- Why an operator has no result. -/
inductive Problem
  /-- An error of the program. -/
  | error (cause : Cause)
  /-- An integer past the largest double, which no word is, next to a double. -/
  | tooLarge
deriving Repr, DecidableEq, Inhabited

/-- The wording of `Problem.tooLarge`. -/
def tooLargeMessage : String := "int too large to convert to float"

/-- An error of the program. -/
def fail {α : Type} (cause : Cause) : Except Problem α :=
  .error (.error cause)

/-! ## One operand -/

/-- An operator in front of a value. -/
def unary (operator : String) (operand : Value) : Except Problem Value :=
  match operator with
  | "!" => .ok (.ofBool (!operand.isTruthy))
  | "~" =>
    match operand with
    | .integer value => .ok (.integer (~~~value))
    | _ => fail (.complementOperand operand.typeName)
  | "-" =>
    match operand with
    | .integer value => .ok (.integer (Word.wrap (-value)))
    | .float value => .ok (.float (-value))
    | _ => fail (.signOperand operator operand.typeName)
  | "+" => if operand.isNumber then .ok operand else fail (.signOperand operator operand.typeName)
  | _ => fail (.unknownUnary operator)

/-! ## Arithmetic -/

/-- The operators of arithmetic. -/
inductive Arithmetic
  | add | subtract | multiply | divide | modulo
deriving Repr, DecidableEq, Inhabited

/-- Arithmetic on words. -/
def Arithmetic.onIntegers : Arithmetic → Int → Int → Except Problem Int
  | add, left, right => .ok (Word.wrap (left + right))
  | subtract, left, right => .ok (Word.wrap (left - right))
  | multiply, left, right => .ok (Word.wrap (left * right))
  | divide, left, right =>
    match Word.divide? left right with
    | some quotient => .ok (Word.wrap quotient)
    | none => fail .divisionByZero
  | modulo, left, right =>
    match Word.divide? left right with
    | some quotient => .ok (Word.wrap (left - right * quotient))
    | none => fail .moduloByZero

/-- Arithmetic on doubles, which always has a result. -/
def Arithmetic.onFloats : Arithmetic → Float → Float → Float
  | add, left, right => left + right
  | subtract, left, right => left - right
  | multiply, left, right => left * right
  | divide, left, right => left / right
  | modulo, left, right => Decimal.remainder left right

/-- An integer next to a double. -/
def toFloat (integer : Int) : Except Problem Float :=
  match Decimal.ofInteger? integer with
  | some value => .ok value
  | none => .error .tooLarge

/-- Arithmetic on values. -/
def Arithmetic.apply (operation : Arithmetic) (operator : String) :
    Value → Value → Except Problem Value
  | .integer left, .integer right => .integer <$> operation.onIntegers left right
  | .float left, .float right => .ok (.float (operation.onFloats left right))
  | .integer left, .float right => (.float <| operation.onFloats · right) <$> toFloat left
  | .float left, .integer right => (.float <| operation.onFloats left ·) <$> toFloat right
  | left, right => fail (.arithmeticOperands operator left.typeName right.typeName)

/-! ## Comparison -/

/-- Whether two values are equal; `undefined` equals itself alone, and values of unrelated types
cannot be compared. -/
def equal : Value → Value → Except Problem Bool
  | .integer left, .integer right => .ok (left = right)
  | .float left, .float right => .ok (left == right)
  | .integer left, .float right =>
    .ok (Decimal.compareReadings (.ofInteger left) (Decimal.read right) = some .eq)
  | .float left, .integer right =>
    .ok (Decimal.compareReadings (Decimal.read left) (.ofInteger right) = some .eq)
  | .text left, .text right => .ok (left = right)
  | .undefined, .undefined => .ok true
  | .undefined, _ | _, .undefined => .ok false
  | .function left, .function right => .ok (left.identity = right.identity)
  | left, right => fail (.equalityOperands left.typeName right.typeName)

/-- The order of two numbers or two texts; none if one of them is not a number.  Texts are ordered by
their code points. -/
def order (operator : String) : Value → Value → Except Problem (Option Ordering)
  | .integer left, .integer right => .ok (some (compare left right))
  | .float left, .float right =>
    .ok (Decimal.compareReadings (Decimal.read left) (Decimal.read right))
  | .integer left, .float right =>
    .ok (Decimal.compareReadings (.ofInteger left) (Decimal.read right))
  | .float left, .integer right =>
    .ok (Decimal.compareReadings (Decimal.read left) (.ofInteger right))
  | .text left, .text right => .ok (some (compare left right))
  | left, right => fail (.orderOperands operator left.typeName right.typeName)

/-- A comparison by size, given by the orders for which it holds. -/
def relational (operator : String) (holds : Ordering → Bool) (left right : Value) :
    Except Problem Value := do
  let order ← order operator left right
  return .ofBool (order.any holds)

/-! ## Bits -/

/-- The operators on bits. -/
inductive Bitwise
  | and | or | xor | shiftLeft | shiftRight
deriving Repr, DecidableEq, Inhabited

/-- An operator on bits applied to words. -/
def Bitwise.onIntegers : Bitwise → Int → Int → Except Problem Int
  | and, left, right => .ok (Word.bitAnd left right)
  | or, left, right => .ok (Word.bitOr left right)
  | xor, left, right => .ok (Word.bitXor left right)
  | shiftLeft, word, count =>
    if Word.isShiftCount count then .ok (Word.shiftLeft word count.toNat)
    else fail (.shiftCount count)
  | shiftRight, word, count =>
    if Word.isShiftCount count then .ok (Word.shiftRight word count.toNat)
    else fail (.shiftCount count)

/-- An operator on bits applied to values. -/
def Bitwise.apply (operation : Bitwise) (operator : String) : Value → Value → Except Problem Value
  | .integer left, .integer right => .integer <$> operation.onIntegers left right
  | left, right => fail (.bitwiseOperands operator left.typeName right.typeName)

/-! ## Two operands -/

/-- The sum of two values, which joins the printed forms if one of them is a text. -/
def plus (left right : Value) : Except Problem Value :=
  if left.isText || right.isText then .ok (.text (left.print ++ right.print))
  else Arithmetic.add.apply "+" left right

/-- An operator between two values. -/
def binary (operator : String) (left right : Value) : Except Problem Value :=
  match operator with
  | "+" => plus left right
  | "-" => Arithmetic.subtract.apply operator left right
  | "*" => Arithmetic.multiply.apply operator left right
  | "/" => Arithmetic.divide.apply operator left right
  | "%" => Arithmetic.modulo.apply operator left right
  | "==" => do return .ofBool (← equal left right)
  | "!=" => do return .ofBool (!(← equal left right))
  | "<" => relational operator (· = .lt) left right
  | ">" => relational operator (· = .gt) left right
  | "<=" => relational operator (· ≠ .gt) left right
  | ">=" => relational operator (· ≠ .lt) left right
  | "&" => Bitwise.and.apply operator left right
  | "|" => Bitwise.or.apply operator left right
  | "^" => Bitwise.xor.apply operator left right
  | "<<" => Bitwise.shiftLeft.apply operator left right
  | ">>" => Bitwise.shiftRight.apply operator left right
  | _ => fail (.unknownBinary operator)

end Scriptlet.Operator
