import Scriptlet.Grammar.Meaning

/-! # Derivations of the grammar

The grammar of programs as the type of its derivations: one constructor for each way in which a
symbol can be written.  A repetition is written as a list that grows to the right, and an optional
part as a choice between two constructors.  A derivation carries its tokens, so it says which tokens
are derived and how.

Main definitions:

* `Symbol`: the symbols of the grammar.
* `Leaf`: a token of a given class.
* `Derivation`: the derivations of a symbol.
* `Derivation.tokens`: the tokens that are derived.
* `Derivation.tree`: the expression or the statement as it is written. -/

namespace Scriptlet.Grammar

/-- The operands that binary operators stand between: a chain of a level, or an operand with
operators in front at most. -/
inductive Rung
  | level (level : Level)
  | unary
deriving Repr, DecidableEq

/-- The operands that the operators of a level stand between. -/
def Level.next : Level → Rung
  | disjunction => .level .conjunction
  | conjunction => .level .bitOr
  | bitOr => .level .bitXor
  | bitXor => .level .bitAnd
  | bitAnd => .level .equality
  | equality => .level .relational
  | relational => .level .shift
  | shift => .level .additive
  | additive => .level .multiplicative
  | multiplicative => .unary

/-- The symbols of the grammar. -/
inductive Symbol
  | start | statements | statement | functionDeclaration | parameters | variableDeclaration | choice
  | elseBranch | whileLoop | doLoop | forLoop | forStart | forTest | forStep | returning | breaking
  | continuing | empty | body | expression | assignment
  /-- A chain of operators, or an operand with operators in front at most. -/
  | operand (rung : Rung)
  | primary | arguments
deriving Repr, DecidableEq

/-- A token of a given class. -/
structure Leaf (terminal : Terminal) where
  /-- The token. -/
  token : Token
  /-- Its class. -/
  ofToken?_eq : Terminal.ofToken? token = some terminal

/-- The derivations of a symbol. -/
inductive Derivation : Symbol → Type
  /-- Production `start: statement*`. -/
  | program (statements : Derivation .statements) : Derivation .start
  /-- No statement. -/
  | noStatement : Derivation .statements
  /-- One more statement. -/
  | oneMore (statements : Derivation .statements) (statement : Derivation .statement) :
      Derivation .statements
  /-- Production `statement: function_decl`. -/
  | functionStatement (declaration : Derivation .functionDeclaration) : Derivation .statement
  /-- Production `statement: var_decl ";"`. -/
  | variableStatement (declaration : Derivation .variableDeclaration)
      (semicolon : Leaf .semicolon) : Derivation .statement
  /-- Production `statement: if_stmt`. -/
  | choiceStatement (choice : Derivation .choice) : Derivation .statement
  /-- Production `statement: while_stmt`. -/
  | whileStatement (loop : Derivation .whileLoop) : Derivation .statement
  /-- Production `statement: do_while_stmt`. -/
  | doStatement (loop : Derivation .doLoop) : Derivation .statement
  /-- Production `statement: for_stmt`. -/
  | forStatement (loop : Derivation .forLoop) : Derivation .statement
  /-- Production `statement: return_stmt`. -/
  | returnStatement (jump : Derivation .returning) : Derivation .statement
  /-- Production `statement: break_stmt`. -/
  | breakStatement (jump : Derivation .breaking) : Derivation .statement
  /-- Production `statement: continue_stmt`. -/
  | continueStatement (jump : Derivation .continuing) : Derivation .statement
  /-- Production `statement: body`. -/
  | blockStatement (body : Derivation .body) : Derivation .statement
  /-- Production `statement: expression ";"`. -/
  | expressionStatement (expression : Derivation .expression) (semicolon : Leaf .semicolon) :
      Derivation .statement
  /-- Production `statement: empty_stmt`. -/
  | emptyStatement (empty : Derivation .empty) : Derivation .statement
  /-- Production `function_decl: "function" IDENTIFIER "(" ")" body`. -/
  | function (keyword : Leaf (.keyword .function)) (name : Leaf .identifier)
      (opening : Leaf .leftParenthesis) (closing : Leaf .rightParenthesis)
      (body : Derivation .body) : Derivation .functionDeclaration
  /-- Production `function_decl: "function" IDENTIFIER "(" params ")" body`. -/
  | functionOf (keyword : Leaf (.keyword .function)) (name : Leaf .identifier)
      (opening : Leaf .leftParenthesis) (parameters : Derivation .parameters)
      (closing : Leaf .rightParenthesis) (body : Derivation .body) :
      Derivation .functionDeclaration
  /-- Production `params: IDENTIFIER`. -/
  | oneParameter (name : Leaf .identifier) : Derivation .parameters
  /-- Production `params: params "," IDENTIFIER`. -/
  | nextParameter (parameters : Derivation .parameters) (comma : Leaf .comma)
      (name : Leaf .identifier) : Derivation .parameters
  /-- Production `var_decl: "var" IDENTIFIER`. -/
  | uninitialized (keyword : Leaf (.keyword .varWord)) (name : Leaf .identifier) :
      Derivation .variableDeclaration
  /-- Production `var_decl: "var" IDENTIFIER "=" expression`. -/
  | initialized (keyword : Leaf (.keyword .varWord)) (name : Leaf .identifier)
      (sign : Leaf .assign) (value : Derivation .expression) : Derivation .variableDeclaration
  /-- Production `if_stmt: "if" "(" expression ")" body`. -/
  | ifThen (keyword : Leaf (.keyword .ifWord)) (opening : Leaf .leftParenthesis)
      (condition : Derivation .expression) (closing : Leaf .rightParenthesis)
      (body : Derivation .body) : Derivation .choice
  /-- Production `if_stmt: "if" "(" expression ")" body "else" else_branch`. -/
  | ifElse (keyword : Leaf (.keyword .ifWord)) (opening : Leaf .leftParenthesis)
      (condition : Derivation .expression) (closing : Leaf .rightParenthesis)
      (body : Derivation .body) (otherwise : Leaf (.keyword .elseWord))
      (alternative : Derivation .elseBranch) : Derivation .choice
  /-- Production `else_branch: body`. -/
  | elseBody (body : Derivation .body) : Derivation .elseBranch
  /-- Production `else_branch: if_stmt`. -/
  | elseChoice (choice : Derivation .choice) : Derivation .elseBranch
  /-- Production `while_stmt: "while" "(" expression ")" body`. -/
  | whileLoop (keyword : Leaf (.keyword .whileWord)) (opening : Leaf .leftParenthesis)
      (condition : Derivation .expression) (closing : Leaf .rightParenthesis)
      (body : Derivation .body) : Derivation .whileLoop
  /-- Production `do_while_stmt: "do" body "while" "(" expression ")" ";"`. -/
  | doLoop (keyword : Leaf (.keyword .doWord)) (body : Derivation .body)
      (test : Leaf (.keyword .whileWord)) (opening : Leaf .leftParenthesis)
      (condition : Derivation .expression) (closing : Leaf .rightParenthesis)
      (semicolon : Leaf .semicolon) : Derivation .doLoop
  /-- Production `for_stmt: "for" "(" for_init ";" for_cond ";" for_step ")" body`. -/
  | forLoop (keyword : Leaf (.keyword .forWord)) (opening : Leaf .leftParenthesis)
      (first : Derivation .forStart) (afterStart : Leaf .semicolon)
      (condition : Derivation .forTest) (afterTest : Leaf .semicolon) (step : Derivation .forStep)
      (closing : Leaf .rightParenthesis) (body : Derivation .body) : Derivation .forLoop
  /-- Production `for_init:`. -/
  | noStart : Derivation .forStart
  /-- Production `for_init: var_decl`. -/
  | variableStart (declaration : Derivation .variableDeclaration) : Derivation .forStart
  /-- Production `for_init: expression`. -/
  | expressionStart (expression : Derivation .expression) : Derivation .forStart
  /-- Production `for_cond:`. -/
  | noTest : Derivation .forTest
  /-- Production `for_cond: expression`. -/
  | testOf (expression : Derivation .expression) : Derivation .forTest
  /-- Production `for_step:`. -/
  | noStep : Derivation .forStep
  /-- Production `for_step: expression`. -/
  | stepOf (expression : Derivation .expression) : Derivation .forStep
  /-- Production `return_stmt: "return" ";"`. -/
  | returning (keyword : Leaf (.keyword .returnWord)) (semicolon : Leaf .semicolon) :
      Derivation .returning
  /-- Production `return_stmt: "return" expression ";"`. -/
  | returningOf (keyword : Leaf (.keyword .returnWord)) (value : Derivation .expression)
      (semicolon : Leaf .semicolon) : Derivation .returning
  /-- Production `break_stmt: "break" ";"`. -/
  | breaking (keyword : Leaf (.keyword .breakWord)) (semicolon : Leaf .semicolon) :
      Derivation .breaking
  /-- Production `continue_stmt: "continue" ";"`. -/
  | continuing (keyword : Leaf (.keyword .continueWord)) (semicolon : Leaf .semicolon) :
      Derivation .continuing
  /-- Production `empty_stmt: ";"`. -/
  | bare (semicolon : Leaf .semicolon) : Derivation .empty
  /-- Production `body: "{" statement* "}"`. -/
  | braces (opening : Leaf .leftBrace) (statements : Derivation .statements)
      (closing : Leaf .rightBrace) : Derivation .body
  /-- Production `expression: assignment`. -/
  | whole (assignment : Derivation .assignment) : Derivation .expression
  /-- Production `assignment: logic_or`. -/
  | plain (operand : Derivation (.operand (.level .disjunction))) : Derivation .assignment
  /-- Production `assignment: logic_or "=" assignment`. -/
  | assign (target : Derivation (.operand (.level .disjunction))) (sign : Leaf .assign)
      (value : Derivation .assignment) : Derivation .assignment
  /-- Production `assignment: logic_or COMPOUND_ASSIGN assignment`. -/
  | compoundAssign (target : Derivation (.operand (.level .disjunction)))
      (sign : Leaf .compoundAssign) (value : Derivation .assignment) : Derivation .assignment
  /-- A chain of a level, such as `logic_or: logic_and`, that is a single operand. -/
  | single (level : Level) (operand : Derivation (.operand level.next)) :
      Derivation (.operand (.level level))
  /-- A chain of a level, such as `logic_or: logic_or OROR logic_and`, with one more operator. -/
  | chain (level : Level) (left : Derivation (.operand (.level level)))
      (operator : Leaf (.binary level)) (right : Derivation (.operand level.next)) :
      Derivation (.operand (.level level))
  /-- Production `unary: (BANG | TILDE) unary`. -/
  | prefixed (operator : Leaf .unary) (operand : Derivation (.operand .unary)) :
      Derivation (.operand .unary)
  /-- Production `unary: ADD_OP unary`. -/
  | signed (operator : Leaf (.binary .additive)) (operand : Derivation (.operand .unary)) :
      Derivation (.operand .unary)
  /-- Production `unary: primary`. -/
  | atom (operand : Derivation .primary) : Derivation (.operand .unary)
  /-- Production `primary: IDENTIFIER "(" ")"`. -/
  | call (callee : Leaf .identifier) (opening : Leaf .leftParenthesis)
      (closing : Leaf .rightParenthesis) : Derivation .primary
  /-- Production `primary: IDENTIFIER "(" arguments ")"`. -/
  | callOf (callee : Leaf .identifier) (opening : Leaf .leftParenthesis)
      (arguments : Derivation .arguments) (closing : Leaf .rightParenthesis) : Derivation .primary
  /-- Production `primary: IDENTIFIER`. -/
  | reference (name : Leaf .identifier) : Derivation .primary
  /-- Production `primary: INTEGER`. -/
  | integer (numeral : Leaf .integer) : Derivation .primary
  /-- Production `primary: FLOAT`. -/
  | float (numeral : Leaf .float) : Derivation .primary
  /-- Production `primary: STRING`. -/
  | string (literal : Leaf .string) : Derivation .primary
  /-- Production `primary: "(" expression ")"`. -/
  | group (opening : Leaf .leftParenthesis) (expression : Derivation .expression)
      (closing : Leaf .rightParenthesis) : Derivation .primary
  /-- Production `arguments: expression`. -/
  | oneArgument (expression : Derivation .expression) : Derivation .arguments
  /-- Production `arguments: arguments "," expression`. -/
  | nextArgument (arguments : Derivation .arguments) (comma : Leaf .comma)
      (expression : Derivation .expression) : Derivation .arguments

/-- The tokens that are derived. -/
def Derivation.tokens {symbol : Symbol} : Derivation symbol → List Token
  | .program statements => statements.tokens
  | .noStatement | .noStart | .noTest | .noStep => []
  | .oneMore statements statement => statements.tokens ++ statement.tokens
  | .functionStatement declaration => declaration.tokens
  | .variableStatement declaration semicolon => declaration.tokens ++ [semicolon.token]
  | .choiceStatement choice => choice.tokens
  | .whileStatement loop | .doStatement loop | .forStatement loop => loop.tokens
  | .returnStatement jump | .breakStatement jump | .continueStatement jump => jump.tokens
  | .blockStatement body => body.tokens
  | .expressionStatement expression semicolon => expression.tokens ++ [semicolon.token]
  | .emptyStatement empty => empty.tokens
  | .function keyword name opening closing body =>
    keyword.token :: name.token :: opening.token :: closing.token :: body.tokens
  | .functionOf keyword name opening parameters closing body =>
    keyword.token :: name.token :: opening.token ::
      (parameters.tokens ++ closing.token :: body.tokens)
  | .oneParameter name => [name.token]
  | .nextParameter parameters comma name => parameters.tokens ++ [comma.token, name.token]
  | .uninitialized keyword name => [keyword.token, name.token]
  | .initialized keyword name sign value =>
    keyword.token :: name.token :: sign.token :: value.tokens
  | .ifThen keyword opening condition closing body =>
    keyword.token :: opening.token :: (condition.tokens ++ closing.token :: body.tokens)
  | .ifElse keyword opening condition closing body otherwise alternative =>
    keyword.token :: opening.token :: (condition.tokens ++ closing.token ::
      (body.tokens ++ otherwise.token :: alternative.tokens))
  | .elseBody body => body.tokens
  | .elseChoice choice => choice.tokens
  | .whileLoop keyword opening condition closing body =>
    keyword.token :: opening.token :: (condition.tokens ++ closing.token :: body.tokens)
  | .doLoop keyword body test opening condition closing semicolon =>
    keyword.token :: (body.tokens ++ test.token :: opening.token ::
      (condition.tokens ++ [closing.token, semicolon.token]))
  | .forLoop keyword opening first afterStart condition afterTest step closing body =>
    keyword.token :: opening.token :: (first.tokens ++ afterStart.token ::
      (condition.tokens ++ afterTest.token :: (step.tokens ++ closing.token :: body.tokens)))
  | .variableStart declaration => declaration.tokens
  | .expressionStart expression | .testOf expression | .stepOf expression => expression.tokens
  | .returning keyword semicolon => [keyword.token, semicolon.token]
  | .returningOf keyword value semicolon => keyword.token :: (value.tokens ++ [semicolon.token])
  | .breaking keyword semicolon => [keyword.token, semicolon.token]
  | .continuing keyword semicolon => [keyword.token, semicolon.token]
  | .bare semicolon => [semicolon.token]
  | .braces opening statements closing => opening.token :: (statements.tokens ++ [closing.token])
  | .whole assignment => assignment.tokens
  | .plain operand => operand.tokens
  | .assign target sign value => target.tokens ++ sign.token :: value.tokens
  | .compoundAssign target sign value => target.tokens ++ sign.token :: value.tokens
  | .single _ operand => operand.tokens
  | .chain _ left operator right => left.tokens ++ operator.token :: right.tokens
  | .prefixed operator operand => operator.token :: operand.tokens
  | .signed operator operand => operator.token :: operand.tokens
  | .atom operand => operand.tokens
  | .call callee opening closing => [callee.token, opening.token, closing.token]
  | .callOf callee opening arguments closing =>
    callee.token :: opening.token :: (arguments.tokens ++ [closing.token])
  | .reference name => [name.token]
  | .integer numeral => [numeral.token]
  | .float numeral => [numeral.token]
  | .string literal => [literal.token]
  | .group opening expression closing => opening.token :: (expression.tokens ++ [closing.token])
  | .oneArgument expression => expression.tokens
  | .nextArgument arguments comma expression =>
    arguments.tokens ++ comma.token :: expression.tokens

/-- The line of the first token. -/
def Derivation.line {symbol : Symbol} (derivation : Derivation symbol) : Int :=
  (derivation.tokens.head?.map (·.line)).getD 0

/-! ## Concrete trees -/

/-- What a symbol is written as. -/
abbrev Symbol.Tree : Symbol → Type
  | start | statements | body => List Clause
  | statement | functionDeclaration | variableDeclaration | choice | whileLoop | doLoop | forLoop
  | returning | breaking | continuing | empty => Clause
  | parameters => List Token
  | elseBranch => List Clause ⊕ Clause
  | forStart => Option Clause
  | forTest | forStep => Option Phrase
  | expression | assignment | operand _ | primary => Phrase
  | arguments => List Phrase

/-- An arm with an `else` branch. -/
def Arm.orElse (arm : Arm) : List Clause ⊕ Clause → Clause
  | .inl other => .ifElse arm.line arm.condition arm.body other
  | .inr choice => .ifElseIf arm.line arm.condition arm.body choice

/-- The expression or the statement as it is written. -/
def Derivation.tree {symbol : Symbol} : Derivation symbol → symbol.Tree
  | .program statements => statements.tree
  | .noStatement => []
  | .oneMore statements statement => statements.tree ++ [statement.tree]
  | .functionStatement declaration => declaration.tree
  | .variableStatement declaration _ => declaration.tree
  | .choiceStatement choice => choice.tree
  | .whileStatement loop => loop.tree
  | .doStatement loop => loop.tree
  | .forStatement loop => loop.tree
  | .returnStatement jump => jump.tree
  | .breakStatement jump => jump.tree
  | .continueStatement jump => jump.tree
  | .blockStatement body => .block body.line body.tree
  | .expressionStatement expression _ => .expression expression.tree
  | .emptyStatement empty => empty.tree
  | .function keyword name _ _ body => .function keyword.token.line name.token [] body.tree
  | .functionOf keyword name _ parameters _ body =>
    .function keyword.token.line name.token parameters.tree body.tree
  | .oneParameter name => [name.token]
  | .nextParameter parameters _ name => parameters.tree ++ [name.token]
  | .uninitialized keyword name => .declaration keyword.token.line name.token none
  | .initialized keyword name _ value =>
    .declaration keyword.token.line name.token (some value.tree)
  | .ifThen keyword _ condition _ body => .ifThen keyword.token.line condition.tree body.tree
  | .ifElse keyword _ condition _ body _ alternative =>
    Arm.orElse ⟨keyword.token.line, condition.tree, body.tree⟩ alternative.tree
  | .elseBody body => .inl body.tree
  | .elseChoice choice => .inr choice.tree
  | .whileLoop keyword _ condition _ body => .whileLoop keyword.token.line condition.tree body.tree
  | .doLoop keyword body _ _ condition _ _ => .doLoop keyword.token.line body.tree condition.tree
  | .forLoop keyword _ first _ condition _ step _ body =>
    .forLoop keyword.token.line first.tree condition.tree step.tree body.tree
  | .noStart => none
  | .variableStart declaration => some declaration.tree
  | .expressionStart expression => some (.expression expression.tree)
  | .noTest => none
  | .testOf expression => some expression.tree
  | .noStep => none
  | .stepOf expression => some expression.tree
  | .returning keyword _ => .returning keyword.token.line none
  | .returningOf keyword value _ => .returning keyword.token.line (some value.tree)
  | .breaking keyword _ => .breaking keyword.token.line
  | .continuing keyword _ => .continuing keyword.token.line
  | .bare _ => .empty
  | .braces _ statements _ => statements.tree
  | .whole assignment => assignment.tree
  | .plain operand => operand.tree
  | .assign target sign value => .assign target.tree sign.token value.tree
  | .compoundAssign target sign value => .assign target.tree sign.token value.tree
  | .single _ operand => operand.tree
  | .chain _ left operator right => .binary left.tree operator.token right.tree
  | .prefixed operator operand => .unary operator.token operand.tree
  | .signed operator operand => .unary operator.token operand.tree
  | .atom operand => operand.tree
  | .call callee _ _ => .call callee.token []
  | .callOf callee _ arguments _ => .call callee.token arguments.tree
  | .reference name => .name name.token
  | .integer numeral => .integer numeral.token
  | .float numeral => .float numeral.token
  | .string literal => .string literal.token
  | .group opening expression _ => .group opening.token.line expression.tree
  | .oneArgument expression => [expression.tree]
  | .nextArgument arguments _ expression => arguments.tree ++ [expression.tree]

end Scriptlet.Grammar
