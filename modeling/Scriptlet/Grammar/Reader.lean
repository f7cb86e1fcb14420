import Scriptlet.Error
import Scriptlet.Grammar.Terminal
import Scriptlet.Grammar.Tree

/-! # Reading tokens one by one

A reader takes a program in token by token.  It holds the statements finished so far, the bodies that
are still open, and one position in the statement being read.  A token either moves the reader on or
is one with which no program that starts this way can go on; nothing is ever taken back, so the first
token refused is the first impossible one.

Main definitions:

* `Layer`: an expression around the operand being read, with one place left open.
* `Purpose`: what the expression being read is for, which decides the tokens that may end it.
* `Position`, `Reader`: what has been read, and what may come next.
* `Reader.accept?`: the reader after one more terminal, `none` if no program goes on with it.
* `Reader.clauses?`: the program, if it may end here.
* `read`: the clauses of a list of tokens. -/

namespace Scriptlet.Grammar

/-! ## Expressions -/

/-- An expression around the operand being read. -/
inductive Layer
  /-- The operand of an operator in front. -/
  | unary (operator : Token)
  /-- The right operand of an operator. -/
  | binary (level : Level) (left : Phrase) (operator : Token)
  /-- The right side of an assignment. -/
  | assign (target : Phrase) (sign : Token)
  /-- The inside of parentheses. -/
  | group (line : Int)
  /-- An argument of a call, after the finished ones, last first. -/
  | argument (callee : Token) (finished : List Phrase)
deriving Repr, Inhabited

/-- Closes the layers that bind at least as tightly as a rank around a finished operand.  Operators
in front bind tightest, assignment is at rank zero, and a bracket is closed by its partner only. -/
def settle (rank : Nat) : List Layer → Phrase → List Layer × Phrase
  | .unary operator :: layers, operand => settle rank layers (.unary operator operand)
  | .binary level left operator :: layers, right =>
    if rank ≤ level.rank then settle rank layers (.binary left operator right)
    else (.binary level left operator :: layers, right)
  | .assign target sign :: layers, value =>
    if rank = 0 then settle rank layers (.assign target sign value)
    else (.assign target sign :: layers, value)
  | layers, operand => (layers, operand)

/-! ## Statements -/

/-- A test and the branch taken if it holds. -/
structure Arm where
  /-- The line of the choice. -/
  line : Int
  /-- The test. -/
  condition : Phrase
  /-- The branch. -/
  body : List Clause
deriving Repr, Inhabited

/-- Puts a choice into the `else` branches of the arms around it, innermost first. -/
def nest (choice : Clause) (arms : List Arm) : Clause :=
  arms.foldl (fun inner arm => .ifElseIf arm.line arm.condition arm.body inner) choice

/-- What an expression is for. -/
inductive Purpose
  /-- A statement of its own. -/
  | statement
  /-- The initial value of a variable; in the heading of a loop on the given line, if any. -/
  | initializer (line : Int) (name : Token) (heading : Option Int)
  /-- The test of a choice, in the `else` branch of the arms around it. -/
  | ifTest (outer : List Arm) (line : Int)
  /-- The test before a round. -/
  | whileTest (line : Int)
  /-- The test after a round. -/
  | doTest (line : Int) (body : List Clause)
  /-- The start of a loop. -/
  | forStart (line : Int)
  /-- The test of a loop with a start. -/
  | forTest (line : Int) (start : Option Clause)
  /-- The step of a loop. -/
  | forStep (line : Int) (start : Option Clause) (condition : Option Phrase)
  /-- The result of a function. -/
  | result (line : Int)
deriving Repr, Inhabited

/-- What a body belongs to. -/
inductive Owner
  | function (line : Int) (name : Token) (parameters : List Token)
  | thenBranch (outer : List Arm) (line : Int) (condition : Phrase)
  | elseBranch (arm : Arm) (outer : List Arm)
  | whileLoop (line : Int) (condition : Phrase)
  | doLoop (line : Int)
  | forLoop (line : Int) (start : Option Clause) (condition step : Option Phrase)
  | block (line : Int)
deriving Repr, Inhabited

/-- The position in the statement being read. -/
inductive Position
  /-- Between two statements. -/
  | ready
  /-- After the branch of a choice; `else` may follow. -/
  | afterBranch (arm : Arm) (outer : List Arm)
  /-- After `else`: a body or another choice. -/
  | alternative (arm : Arm) (outer : List Arm)
  /-- Before the name of a function. -/
  | functionName (line : Int)
  /-- Before the parameters of a function. -/
  | parametersOpen (line : Int) (name : Token)
  /-- Before a parameter, after the finished ones, last first. -/
  | parameter (line : Int) (name : Token) (finished : List Token)
  /-- After a parameter. -/
  | afterParameter (line : Int) (name : Token) (finished : List Token)
  /-- Before the brace of a body. -/
  | bodyOpen (owner : Owner)
  /-- Before the name of a variable. -/
  | variableName (line : Int) (heading : Option Int)
  /-- After the name of a variable. -/
  | afterName (line : Int) (name : Token) (heading : Option Int)
  /-- Before the parenthesis of a heading. -/
  | headingOpen (purpose : Purpose)
  /-- After the body of a loop that tests after each round. -/
  | afterBody (line : Int) (body : List Clause)
  /-- Before the semicolon that ends a statement. -/
  | ending (clause : Clause)
  /-- Before an operand. -/
  | operand (purpose : Purpose) (layers : List Layer)
  /-- After an operand. -/
  | operator (purpose : Purpose) (layers : List Layer) (phrase : Phrase)
deriving Repr, Inhabited

/-- What has been read of a program. -/
structure Reader where
  /-- The owners of the open bodies, innermost first, each with the statements finished before it,
  last first. -/
  outer : List (Owner × List Clause)
  /-- The finished statements of the innermost body, last first. -/
  finished : List Clause
  /-- The position in the statement being read. -/
  position : Position
deriving Repr, Inhabited

namespace Reader

/-- Nothing has been read. -/
def initial : Reader :=
  { outer := [], finished := [], position := .ready }

/-- Moves on inside the statement being read. -/
def moveTo (reader : Reader) (position : Position) : Reader :=
  { reader with position }

/-- Ends the statement being read. -/
def finish (reader : Reader) (clause : Clause) : Reader :=
  { reader with finished := clause :: reader.finished, position := .ready }

/-- Opens a body. -/
def openBody (reader : Reader) (owner : Owner) : Reader :=
  { outer := (owner, reader.finished) :: reader.outer, finished := [], position := .ready }

/-- Goes on after a body has ended, around which its owner stands. -/
def endBody (around : Reader) (owner : Owner) (body : List Clause) : Reader :=
  match owner with
  | .function line name parameters => around.finish (.function line name parameters body)
  | .thenBranch arms line condition => around.moveTo (.afterBranch ⟨line, condition, body⟩ arms)
  | .elseBranch arm arms =>
    around.finish (nest (.ifElse arm.line arm.condition arm.body body) arms)
  | .whileLoop line condition => around.finish (.whileLoop line condition body)
  | .doLoop line => around.moveTo (.afterBody line body)
  | .forLoop line start condition step => around.finish (.forLoop line start condition step body)
  | .block line => around.finish (.block line body)

/-- Closes the innermost body. -/
def closeBody? (reader : Reader) : Option Reader :=
  match reader.outer with
  | [] => none
  | (owner, finished) :: outer =>
    let around : Reader := { outer, finished, position := .ready }
    some (around.endBody owner reader.finished.reverse)

/-- Goes on after an expression that a semicolon ends, or that a semicolon says is absent. -/
def endBySemicolon? (reader : Reader) (purpose : Purpose) (phrase : Option Phrase) :
    Option Reader :=
  match purpose, phrase with
  | .statement, some phrase => some (reader.finish (.expression phrase))
  | .initializer line name none, some phrase =>
    some (reader.finish (.declaration line name (some phrase)))
  | .initializer line name (some heading), some phrase =>
    some (reader.moveTo (.operand (.forTest heading (some (.declaration line name phrase))) []))
  | .forStart line, phrase =>
    some (reader.moveTo (.operand (.forTest line (phrase.map .expression)) []))
  | .forTest line start, phrase => some (reader.moveTo (.operand (.forStep line start phrase) []))
  | .result line, phrase => some (reader.finish (.returning line phrase))
  | _, _ => none

/-- Goes on after an expression that a parenthesis ends, or that a parenthesis says is absent. -/
def endByParenthesis? (reader : Reader) (purpose : Purpose) (phrase : Option Phrase) :
    Option Reader :=
  match purpose, phrase with
  | .ifTest outer line, some phrase =>
    some (reader.moveTo (.bodyOpen (.thenBranch outer line phrase)))
  | .whileTest line, some phrase => some (reader.moveTo (.bodyOpen (.whileLoop line phrase)))
  | .doTest line body, some phrase => some (reader.moveTo (.ending (.doLoop line body phrase)))
  | .forStep line start condition, phrase =>
    some (reader.moveTo (.bodyOpen (.forLoop line start condition phrase)))
  | _, _ => none

/-- Takes a token in where an operand may start. -/
def acceptOperand? (reader : Reader) (purpose : Purpose) (layers : List Layer)
    (terminal : Terminal) (token : Token) : Option Reader :=
  let after (phrase : Phrase) : Option Reader :=
    some (reader.moveTo (.operator purpose layers phrase))
  let before (layer : Layer) : Option Reader :=
    some (reader.moveTo (.operand purpose (layer :: layers)))
  match terminal, layers with
  | .identifier, _ => after (.name token)
  | .integer, _ => after (.integer token)
  | .float, _ => after (.float token)
  | .string, _ => after (.string token)
  | .leftParenthesis, _ => before (.group token.line)
  | .unary, _ | .binary .additive, _ => before (.unary token)
  | .rightParenthesis, .argument callee [] :: layers =>
    some (reader.moveTo (.operator purpose layers (.call callee [])))
  | .rightParenthesis, [] => reader.endByParenthesis? purpose none
  | .semicolon, [] => reader.endBySemicolon? purpose none
  | .keyword .varWord, [] =>
    match purpose with
    | .forStart line => some (reader.moveTo (.variableName token.line (some line)))
    | _ => none
  | _, _ => none

/-- Takes a token in where an operand has ended. -/
def acceptOperator? (reader : Reader) (purpose : Purpose) (layers : List Layer) (phrase : Phrase)
    (terminal : Terminal) (token : Token) : Option Reader :=
  match terminal, phrase with
  | .binary level, _ =>
    let (layers, phrase) := settle level.rank layers phrase
    some (reader.moveTo (.operand purpose (.binary level phrase token :: layers)))
  | .assign, _ | .compoundAssign, _ =>
    let (layers, phrase) := settle 1 layers phrase
    some (reader.moveTo (.operand purpose (.assign phrase token :: layers)))
  | .leftParenthesis, .name callee =>
    some (reader.moveTo (.operand purpose (.argument callee [] :: layers)))
  | .rightParenthesis, _ =>
    match settle 0 layers phrase with
    | (.group line :: layers, phrase) =>
      some (reader.moveTo (.operator purpose layers (.group line phrase)))
    | (.argument callee finished :: layers, phrase) =>
      some (reader.moveTo (.operator purpose layers (.call callee (phrase :: finished).reverse)))
    | ([], phrase) => reader.endByParenthesis? purpose (some phrase)
    | _ => none
  | .comma, _ =>
    match settle 0 layers phrase with
    | (.argument callee finished :: layers, phrase) =>
      some (reader.moveTo (.operand purpose (.argument callee (phrase :: finished) :: layers)))
    | _ => none
  | .semicolon, _ =>
    match settle 0 layers phrase with
    | ([], phrase) => reader.endBySemicolon? purpose (some phrase)
    | _ => none
  | _, _ => none

/-- Takes a token in where a statement may start. -/
def acceptStatement? (reader : Reader) (terminal : Terminal) (token : Token) : Option Reader :=
  match terminal with
  | .rightBrace => reader.closeBody?
  | .leftBrace => some (reader.openBody (.block token.line))
  | .semicolon => some (reader.finish .empty)
  | .keyword .function => some (reader.moveTo (.functionName token.line))
  | .keyword .varWord => some (reader.moveTo (.variableName token.line none))
  | .keyword .ifWord => some (reader.moveTo (.headingOpen (.ifTest [] token.line)))
  | .keyword .whileWord => some (reader.moveTo (.headingOpen (.whileTest token.line)))
  | .keyword .doWord => some (reader.moveTo (.bodyOpen (.doLoop token.line)))
  | .keyword .forWord => some (reader.moveTo (.headingOpen (.forStart token.line)))
  | .keyword .returnWord => some (reader.moveTo (.operand (.result token.line) []))
  | .keyword .breakWord => some (reader.moveTo (.ending (.breaking token.line)))
  | .keyword .continueWord => some (reader.moveTo (.ending (.continuing token.line)))
  | _ => reader.acceptOperand? .statement [] terminal token

/-- The reader after one more token, `none` if no program goes on with it. -/
def accept? (reader : Reader) (terminal : Terminal) (token : Token) : Option Reader :=
  match reader.position, terminal with
  | .ready, _ => reader.acceptStatement? terminal token
  | .afterBranch arm outer, .keyword .elseWord => some (reader.moveTo (.alternative arm outer))
  | .afterBranch arm outer, _ =>
    (reader.finish (nest (.ifThen arm.line arm.condition arm.body) outer)).acceptStatement?
      terminal token
  | .alternative arm outer, .leftBrace => some (reader.openBody (.elseBranch arm outer))
  | .alternative arm outer, .keyword .ifWord =>
    some (reader.moveTo (.headingOpen (.ifTest (arm :: outer) token.line)))
  | .functionName line, .identifier => some (reader.moveTo (.parametersOpen line token))
  | .parametersOpen line name, .leftParenthesis => some (reader.moveTo (.parameter line name []))
  | .parameter line name finished, .identifier =>
    some (reader.moveTo (.afterParameter line name (token :: finished)))
  | .parameter line name [], .rightParenthesis =>
    some (reader.moveTo (.bodyOpen (.function line name [])))
  | .afterParameter line name finished, .comma =>
    some (reader.moveTo (.parameter line name finished))
  | .afterParameter line name finished, .rightParenthesis =>
    some (reader.moveTo (.bodyOpen (.function line name finished.reverse)))
  | .bodyOpen owner, .leftBrace => some (reader.openBody owner)
  | .variableName line heading, .identifier => some (reader.moveTo (.afterName line token heading))
  | .afterName line name heading, .assign =>
    some (reader.moveTo (.operand (.initializer line name heading) []))
  | .afterName line name none, .semicolon => some (reader.finish (.declaration line name none))
  | .afterName line name (some heading), .semicolon =>
    some (reader.moveTo (.operand (.forTest heading (some (.declaration line name none))) []))
  | .headingOpen purpose, .leftParenthesis => some (reader.moveTo (.operand purpose []))
  | .afterBody line body, .keyword .whileWord =>
    some (reader.moveTo (.headingOpen (.doTest line body)))
  | .ending clause, .semicolon => some (reader.finish clause)
  | .operand purpose layers, _ => reader.acceptOperand? purpose layers terminal token
  | .operator purpose layers phrase, _ =>
    reader.acceptOperator? purpose layers phrase terminal token
  | _, _ => none

/-- The program that has been read, if it may end here. -/
def clauses? (reader : Reader) : Option (List Clause) :=
  match reader.outer, reader.position with
  | [], .ready => some reader.finished.reverse
  | [], .afterBranch arm outer =>
    some (nest (.ifThen arm.line arm.condition arm.body) outer :: reader.finished).reverse
  | _, _ => none

end Reader

/-! ## Programs -/

/-- Why a list of tokens denotes no program. -/
inductive Failure
  /-- An error of the program. -/
  | error (error : Error)
  /-- An operator or punctuation mark that is not in use. -/
  | unknownSign (lexeme : String)
  /-- A number token whose lexeme is no numeral. -/
  | badNumeral (lexeme : String)
deriving Repr, DecidableEq, Inhabited

/-- Takes one token in. -/
def Reader.feed (reader : Reader) (token : Token) : Except Failure Reader :=
  match Terminal.ofToken? token with
  | none => .error (.unknownSign token.lexeme)
  | some terminal =>
    match reader.accept? terminal token with
    | none => .error (.error ⟨.unexpectedToken token.lexeme, token.line⟩)
    | some next => .ok next

/-- The line on which a program that is not complete ends: that of its last token, or the first line
if there is none or its lexeme is empty. -/
def lastLine (tokens : List Token) : Int :=
  match tokens.getLast? with
  | some token => if token.lexeme.isEmpty then 1 else token.line
  | none => 1

/-- The clauses of a list of tokens, which ends at the first mark of the end of input. -/
def read (tokens : List Token) : Except Failure (List Clause) :=
  let tokens := tokens.takeWhile (·.kind ≠ .endOfInput)
  match tokens.foldlM Reader.feed Reader.initial with
  | .error failure => .error failure
  | .ok reader =>
    match reader.clauses? with
    | some clauses => .ok clauses
    | none => .error (.error ⟨.unexpectedEnd, lastLine tokens⟩)

end Scriptlet.Grammar
