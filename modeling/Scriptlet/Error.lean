import Scriptlet.Decimal.Numeral
import Scriptlet.Text.Quoted

/-! # Errors

Why a program is refused or stopped.  A cause carries what its message mentions; its kind and its
wording are functions of it.  A report is written when an error comes about, so an error that mentions
an integer too long to be written never does.

Main definitions:

* `Kind`: the seven kinds of error, named in every report.
* `Cause`: what went wrong, with `Cause.kind` and `Cause.message`.
* `Error`: a cause and the line it is blamed on, with `Error.text`.
* `Error.isWritable`: whether the report of an error can be written. -/

namespace Scriptlet

/-- The kinds of error. -/
inductive Error.Kind
  /-- A name without a binding. -/
  | reference
  /-- An operation on a value of the wrong type. -/
  | type
  /-- A call with the wrong number of arguments. -/
  | argument
  /-- A text that is no program. -/
  | grammar
  /-- A jump with nothing to jump out of. -/
  | controlFlow
  /-- An integer operation without a result. -/
  | arithmetic
  /-- Too many nested calls. -/
  | range
deriving Repr, DecidableEq, Inhabited

/-- The name of a kind in reports. -/
def Error.Kind.name : Error.Kind → String
  | reference => "ReferenceError"
  | type => "TypeError"
  | argument => "ArgumentError"
  | grammar => "SyntaxError"
  | controlFlow => "ControlFlowError"
  | arithmetic => "ArithmeticError"
  | range => "RangeError"

/-- The statements that jump. -/
inductive Jump
  /-- Leaves a loop. -/
  | breaking
  /-- Goes on with the next round of a loop. -/
  | continuing
  /-- Leaves a function. -/
  | returning
deriving Repr, DecidableEq, Inhabited

/-- The word that starts a jump. -/
def Jump.keyword : Jump → String
  | breaking => "break"
  | continuing => "continue"
  | returning => "return"

/-- What a jump leaves. -/
def Jump.target : Jump → String
  | returning => "a function"
  | _ => "a loop"

/-- What went wrong. -/
inductive Cause
  /-- A block comment without an end. -/
  | unclosedComment
  /-- A text literal without its closing quote. -/
  | unclosedText
  /-- A character that starts no token. -/
  | strayCharacter (character : Char)
  /-- A token with which no program goes on. -/
  | unexpectedToken (lexeme : String)
  /-- A program that is not complete. -/
  | unexpectedEnd
  /-- A function that declares a parameter twice. -/
  | repeatedParameter (function : String)
  /-- An assignment to something that is written as no variable. -/
  | unassignable
  /-- A name that no enclosing scope binds. -/
  | unbound (name : String)
  /-- A call of a value that is no function. -/
  | notCallable (name typeName : String)
  /-- A call with the wrong number of arguments. -/
  | wrongArity (name : String) (expected given : Nat)
  /-- A call past the limit on nested calls. -/
  | tooDeep (limit : Int) (function : String)
  /-- A call past the room for nested calls. -/
  | noRoom
  /-- A node that has no value where one is needed. -/
  | notExpression (nodeType : String)
  /-- An assignment to a node that is no variable. -/
  | notVariable
  /-- A jump that nothing at the top level receives. -/
  | strayJump (jump : Jump)
  /-- A jump out of a loop that leaves the body of a function. -/
  | escapedJump (jump : Jump) (function : String)
  /-- An operator of one operand that does not exist. -/
  | unknownUnary (operator : String)
  /-- A complement of something that is no integer. -/
  | complementOperand (typeName : String)
  /-- A sign before something that is no number. -/
  | signOperand (operator typeName : String)
  /-- An operator of two operands that does not exist. -/
  | unknownBinary (operator : String)
  /-- Arithmetic on operands that are not both numbers. -/
  | arithmeticOperands (operator left right : String)
  /-- A comparison by size of operands that have no common order. -/
  | orderOperands (operator left right : String)
  /-- A comparison for equality of operands of unrelated types. -/
  | equalityOperands (left right : String)
  /-- A bitwise operation on operands that are not both integers. -/
  | bitwiseOperands (operator left right : String)
  /-- A division of an integer by zero. -/
  | divisionByZero
  /-- A remainder of an integer by zero. -/
  | moduloByZero
  /-- A shift by a count that is not below the width of a word. -/
  | shiftCount (count : Int)
deriving Repr, DecidableEq, Inhabited

/-- The kind of a cause. -/
def Cause.kind : Cause → Error.Kind
  | unclosedComment | unclosedText | strayCharacter _ | unexpectedToken _ | unexpectedEnd
  | repeatedParameter _ | unassignable => .grammar
  | unbound _ => .reference
  | wrongArity .. => .argument
  | tooDeep .. | noRoom => .range
  | strayJump _ | escapedJump .. => .controlFlow
  | divisionByZero | moduloByZero | shiftCount _ => .arithmetic
  | notCallable .. | notExpression _ | notVariable | unknownUnary _ | complementOperand _
  | signOperand .. | unknownBinary _ | arithmeticOperands .. | orderOperands ..
  | equalityOperands .. | bitwiseOperands .. => .type

/-- The wording of a cause. -/
def Cause.message : Cause → String
  | unclosedComment => "unterminated block comment"
  | unclosedText => "unterminated string literal"
  | strayCharacter character =>
    "unexpected character " ++ Text.quoted (String.singleton character)
  | unexpectedToken lexeme => "unexpected " ++ Text.quoted lexeme
  | unexpectedEnd => "unexpected end of input"
  | repeatedParameter function => s!"duplicate parameter name in function {function}"
  | unassignable | notVariable => "invalid assignment target"
  | unbound name => s!"{name} is not defined"
  | notCallable name typeName => s!"{name} is not a function ({typeName})"
  | wrongArity name expected given => s!"{name} expects {expected} argument(s), got {given}"
  | tooDeep limit function => s!"maximum call depth of {limit} exceeded in {function}"
  | noRoom => "maximum call depth exceeded"
  | notExpression nodeType => s!"{nodeType} cannot be used as an expression"
  | strayJump jump => s!"'{jump.keyword}' outside of {jump.target}"
  | escapedJump jump function => s!"'{jump.keyword}' outside of a loop in function {function}"
  | unknownUnary operator => s!"unsupported unary operator {operator}"
  | complementOperand typeName => s!"unary ~ expects integer, got {typeName}"
  | signOperand operator typeName => s!"unary {operator} expects number, got {typeName}"
  | unknownBinary operator => s!"unknown operator {operator}"
  | arithmeticOperands operator left right =>
    s!"unsupported operand types for {operator}: {left} and {right}"
  | orderOperands operator left right => s!"cannot compare {left} and {right} with {operator}"
  | equalityOperands left right => s!"cannot compare {left} and {right} for equality"
  | bitwiseOperands operator left right =>
    s!"bitwise {operator} expects integers, got {left} and {right}"
  | divisionByZero => "integer division by zero"
  | moduloByZero => "integer modulo by zero"
  | shiftCount count => s!"shift count {count} out of range 0..63"

/-- Whether the wording of a cause can be written: only a limit and a shift count are integers that a
program is given in any size. -/
def Cause.isWritable : Cause → Bool
  | tooDeep limit _ => Decimal.isWritable limit
  | shiftCount count => Decimal.isWritable count
  | _ => true

/-- A cause and the line it is blamed on. -/
structure Error where
  /-- What went wrong. -/
  cause : Cause
  /-- The line it is blamed on. -/
  line : Int
deriving Repr, DecidableEq, Inhabited

/-- Whether the report of an error can be written. -/
def Error.isWritable (error : Error) : Bool :=
  Decimal.isWritable error.line && error.cause.isWritable

/-- The report of an error that can be written: line, kind and wording. -/
def Error.text (error : Error) : String :=
  s!"line {error.line}: {error.cause.kind.name}: {error.cause.message}"

end Scriptlet
