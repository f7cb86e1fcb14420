import Scriptlet.Decimal.Numeral
import Scriptlet.Grammar.Reader
import Scriptlet.Node.Basic
import Scriptlet.Token.Lexer

/-! # The program that a text denotes

Concrete trees are turned into nodes from the inside out and from left to right; the first construct
that has no meaning is reported.

Main definitions:

* `Phrase.node`, `Clause.node`: the nodes of expressions and statements.
* `Program.ofTokens`: the program that a list of tokens denotes.
* `Program.ofSource`: the program that a source text denotes. -/

namespace Scriptlet.Grammar

/-- The operator of an assignment sign that has one. -/
def compoundOperator? (sign : Token) : Option String :=
  match Terminal.ofToken? sign with
  | some .compoundAssign => some (sign.lexeme.dropEnd 1).toString
  | _ => none

/-- An assignment on a given line; with an operator, it assigns the result of the operator applied to
the variable and the value. -/
def assignment (line : Int) (target : Node) (operator : Option String) (value : Node) :
    Except Failure Node :=
  match target, operator with
  | .reference _ _, none => .ok (.binary line "=" target value)
  | .reference _ name, some operator =>
    .ok (.binary line "=" target (.binary line operator (.reference line name) value))
  | _, _ => .error (.error ⟨.unassignable, line⟩)

mutual

/-- The node of an expression.  An operator between operands is blamed on its own line, or on the
first line of the expression if it has none. -/
def Phrase.node : Phrase → Except Failure Node
  | .name token => .ok (.reference token.line token.lexeme)
  | .integer token =>
    match Decimal.integer? token.lexeme with
    | some value => .ok (.integer token.line value)
    | none => .error (.badNumeral token.lexeme)
  | .float token =>
    match Decimal.double? token.lexeme with
    | some value => .ok (.float token.line value)
    | none => .error (.badNumeral token.lexeme)
  | .string token => .ok (.text token.line token.lexeme)
  | .group _ inner => inner.node
  | .call callee arguments => do
    let arguments ← Phrase.nodes arguments
    return .call callee.line callee.lexeme arguments
  | .unary operator operand => do
    let operand ← operand.node
    return .unary operator.line operator.lexeme operand
  | .binary left operator right => do
    let leftNode ← left.node
    let rightNode ← right.node
    let line := if operator.line = 0 then left.start else operator.line
    return .binary line operator.lexeme leftNode rightNode
  | .assign target sign value => do
    let targetNode ← target.node
    let valueNode ← value.node
    assignment target.start targetNode (compoundOperator? sign) valueNode

/-- The nodes of expressions, from left to right. -/
def Phrase.nodes : List Phrase → Except Failure (List Node)
  | [] => .ok []
  | phrase :: phrases => do
    let node ← phrase.node
    let nodes ← Phrase.nodes phrases
    return node :: nodes

end

/-- The node of an expression that may be absent. -/
def Phrase.node? : Option Phrase → Except Failure (Option Node)
  | none => .ok none
  | some phrase => some <$> phrase.node

mutual

/-- The node of a statement, `none` for an empty one. -/
def Clause.node : Clause → Except Failure (Option Node)
  | .function line name parameters body => do
    let body ← Clause.nodes body
    let parameters := parameters.map (·.lexeme)
    if parameters.Nodup then return some (.function line name.lexeme parameters body)
    else .error (.error ⟨.repeatedParameter name.lexeme, line⟩)
  | .declaration line name initializer => do
    let initializer ← Phrase.node? initializer
    return some (.declaration line name.lexeme initializer)
  | .ifThen line condition body => do
    let condition ← condition.node
    let body ← Clause.nodes body
    return some (.conditional line condition body none)
  | .ifElse line condition body alternative => do
    let condition ← condition.node
    let body ← Clause.nodes body
    let alternative ← Clause.nodes alternative
    return some (.conditional line condition body (some alternative))
  | .ifElseIf line condition body alternative => do
    let condition ← condition.node
    let body ← Clause.nodes body
    let alternative ← alternative.node
    return some (.conditional line condition body (some alternative.toList))
  | .whileLoop line condition body => do
    let condition ← condition.node
    let body ← Clause.nodes body
    return some (.whileLoop line condition body)
  | .doLoop line body condition => do
    let body ← Clause.nodes body
    let condition ← condition.node
    return some (.doLoop line condition body)
  | .forLoop line start condition step body => do
    let start ← Clause.node? start
    let condition ← Phrase.node? condition
    let step ← Phrase.node? step
    let body ← Clause.nodes body
    return some (.forLoop line start condition step body)
  | .returning line value => do
    let value ← Phrase.node? value
    return some (.returning line value)
  | .breaking line => .ok (some (.breaking line))
  | .continuing line => .ok (some (.continuing line))
  | .block line body => do
    let body ← Clause.nodes body
    return some (.block line body)
  | .expression phrase => some <$> phrase.node
  | .empty => .ok none

/-- The node of a statement that may be absent. -/
def Clause.node? : Option Clause → Except Failure (Option Node)
  | none => .ok none
  | some clause => clause.node

/-- The nodes of statements, in order; empty statements leave none. -/
def Clause.nodes : List Clause → Except Failure (List Node)
  | [] => .ok []
  | clause :: clauses => do
    let node ← clause.node
    let nodes ← Clause.nodes clauses
    return node.toList ++ nodes

end

end Scriptlet.Grammar

namespace Scriptlet.Program

open Grammar

/-- The program that a list of tokens denotes; its own line is zero. -/
def ofTokens (tokens : List Token) : Except Failure Node := do
  let clauses ← read tokens
  let body ← Clause.nodes clauses
  return .program 0 body

/-- The program that a source text denotes. -/
def ofSource (source : String) : Except Failure Node :=
  match Token.tokenize source with
  | .error error => .error (.error error)
  | .ok tokens => ofTokens tokens

end Scriptlet.Program
