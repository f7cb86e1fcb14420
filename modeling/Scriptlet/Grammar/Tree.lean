import Scriptlet.Token.Basic

/-! # Concrete trees

A program as it is written: parentheses, empty statements and the two spellings of an `else` branch
are still told apart.

Main definitions:

* `Phrase`: an expression; `Phrase.start` is the line of its first token.
* `Clause`: a statement. -/

namespace Scriptlet.Grammar

/-- An expression as it is written. -/
inductive Phrase
  /-- A name on its own. -/
  | name (token : Token)
  /-- A whole number. -/
  | integer (token : Token)
  /-- A number with a point. -/
  | float (token : Token)
  /-- A text literal. -/
  | string (token : Token)
  /-- An expression in parentheses, the first of which is on the given line. -/
  | group (line : Int) (inner : Phrase)
  /-- A call of a function by its name. -/
  | call (callee : Token) (arguments : List Phrase)
  /-- An operator before its operand. -/
  | unary (operator : Token) (operand : Phrase)
  /-- An operator between its operands. -/
  | binary (left : Phrase) (operator : Token) (right : Phrase)
  /-- An assignment, plain or with an operator. -/
  | assign (target : Phrase) (sign : Token) (value : Phrase)
deriving Repr, Inhabited

/-- The line of the first token of an expression. -/
def Phrase.start : Phrase → Int
  | name token | integer token | float token | string token => token.line
  | group line _ => line
  | call callee _ => callee.line
  | unary operator _ => operator.line
  | binary left _ _ => left.start
  | assign target _ _ => target.start

/-- A statement as it is written; its line is that of its first token. -/
inductive Clause
  /-- A declaration of a function. -/
  | function (line : Int) (name : Token) (parameters : List Token) (body : List Clause)
  /-- A declaration of a variable. -/
  | declaration (line : Int) (name : Token) (initializer : Option Phrase)
  /-- A choice without an `else` branch. -/
  | ifThen (line : Int) (condition : Phrase) (body : List Clause)
  /-- A choice whose `else` branch is a body. -/
  | ifElse (line : Int) (condition : Phrase) (body alternative : List Clause)
  /-- A choice whose `else` branch is another choice. -/
  | ifElseIf (line : Int) (condition : Phrase) (body : List Clause) (alternative : Clause)
  /-- A loop that tests before each round. -/
  | whileLoop (line : Int) (condition : Phrase) (body : List Clause)
  /-- A loop that tests after each round. -/
  | doLoop (line : Int) (body : List Clause) (condition : Phrase)
  /-- A loop with a start, a test and a step. -/
  | forLoop (line : Int) (start : Option Clause) (condition step : Option Phrase)
      (body : List Clause)
  /-- A jump out of a function. -/
  | returning (line : Int) (value : Option Phrase)
  /-- A jump out of a loop. -/
  | breaking (line : Int)
  /-- A jump to the next round of a loop. -/
  | continuing (line : Int)
  /-- Statements in braces. -/
  | block (line : Int) (body : List Clause)
  /-- An expression whose value is dropped. -/
  | expression (phrase : Phrase)
  /-- A semicolon on its own. -/
  | empty
deriving Repr, Inhabited

end Scriptlet.Grammar
