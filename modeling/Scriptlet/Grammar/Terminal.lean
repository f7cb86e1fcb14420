import Scriptlet.Token.Basic

/-! # Terminals

What the grammar sees of a token.

Main definitions:

* `Level`: the ten levels of operators between operands, loosest first.
* `Terminal`: the classes of tokens that the grammar tells apart.
* `Terminal.ofToken?`: the class of a token; a sign that is not in use has none. -/

namespace Scriptlet.Grammar

/-- The levels of operators between operands, loosest first. -/
inductive Level
  | disjunction | conjunction | bitOr | bitXor | bitAnd | equality | relational | shift | additive
  | multiplicative
deriving Repr, DecidableEq, Inhabited

/-- How tightly a level binds; assignment, the loosest of all, would be at zero. -/
def Level.rank : Level → Nat
  | disjunction => 1
  | conjunction => 2
  | bitOr => 3
  | bitXor => 4
  | bitAnd => 5
  | equality => 6
  | relational => 7
  | shift => 8
  | additive => 9
  | multiplicative => 10

/-- The classes of tokens that the grammar tells apart. -/
inductive Terminal
  | identifier | integer | float | string
  | keyword (keyword : Keyword)
  | leftParenthesis | rightParenthesis | leftBrace | rightBrace | comma | semicolon
  /-- The plain assignment sign. -/
  | assign
  /-- An assignment sign with an operator in front. -/
  | compoundAssign
  /-- An operator between operands; those of the additive level also stand before an operand. -/
  | binary (level : Level)
  /-- An operator that only stands before an operand. -/
  | unary
  /-- A class with which no program goes on. -/
  | foreign
deriving Repr, DecidableEq, Inhabited

namespace Terminal

/-- The class of an operator sign. -/
def ofOperator? : String → Option Terminal
  | "=" => some assign
  | "+=" | "-=" | "*=" | "/=" | "%=" => some compoundAssign
  | "||" => some (binary .disjunction)
  | "&&" => some (binary .conjunction)
  | "|" => some (binary .bitOr)
  | "^" => some (binary .bitXor)
  | "&" => some (binary .bitAnd)
  | "==" | "!=" => some (binary .equality)
  | "<" | ">" | "<=" | ">=" => some (binary .relational)
  | "<<" | ">>" => some (binary .shift)
  | "+" | "-" => some (binary .additive)
  | "*" | "/" | "%" => some (binary .multiplicative)
  | "!" | "~" => some unary
  | _ => none

/-- The class of a punctuation mark. -/
def ofPunctuation? : String → Option Terminal
  | "(" => some leftParenthesis
  | ")" => some rightParenthesis
  | "\x7b" => some leftBrace
  | "\x7d" => some rightBrace
  | "," => some comma
  | ";" => some semicolon
  | _ => none

/-- The class that a kind of token names outright, whatever the lexeme. -/
def ofName : String → Terminal
  | "LPAR" => leftParenthesis
  | "RPAR" => rightParenthesis
  | "LBRACE" => leftBrace
  | "RBRACE" => rightBrace
  | "COMMA" => comma
  | "SEMI" => semicolon
  | "ASSIGN" => assign
  | _ => foreign

/-- The class of a token; an operator or punctuation mark that is not in use has none. -/
def ofToken? (token : Token) : Option Terminal :=
  match token.kind with
  | .identifier => some identifier
  | .integer => some integer
  | .float => some float
  | .string => some string
  | .operator => ofOperator? token.lexeme
  | .punctuation => ofPunctuation? token.lexeme
  | .endOfInput => some foreign
  | .keyword word => some (keyword word)
  | .other name => some (ofName name)

end Terminal

end Scriptlet.Grammar
