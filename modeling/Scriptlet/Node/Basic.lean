/-! # Program nodes

The tree that a program is run from.  Every node carries the line it is blamed on.  The type does not
separate statements from expressions: a tree may come from a document written by hand, and running it
reports a node that stands where it has no meaning.

Main definitions:

* `Node`: the eighteen node types.
* `Node.line`, `Node.typeName`: the line of a node and the name of its type. -/

namespace Scriptlet

/-- A node of a program. -/
inductive Node
  /-- A whole program. -/
  | program (line : Int) (body : List Node)
  /-- An integer literal of any size. -/
  | integer (line : Int) (value : Int)
  /-- A literal with a point. -/
  | float (line : Int) (value : Float)
  /-- A text literal. -/
  | text (line : Int) (value : String)
  /-- The value of a name. -/
  | reference (line : Int) (name : String)
  /-- An operator between two operands; `=` assigns. -/
  | binary (line : Int) (operator : String) (left right : Node)
  /-- An operator before its operand. -/
  | unary (line : Int) (operator : String) (operand : Node)
  /-- A call of a function by its name. -/
  | call (line : Int) (callee : String) (arguments : List Node)
  /-- A declaration of a function. -/
  | function (line : Int) (name : String) (parameters : List String) (body : List Node)
  /-- A declaration of a variable. -/
  | declaration (line : Int) (name : String) (initializer : Option Node)
  /-- A jump out of a function, with the result of the call. -/
  | returning (line : Int) (value : Option Node)
  /-- A jump out of a loop. -/
  | breaking (line : Int)
  /-- A jump to the next round of a loop. -/
  | continuing (line : Int)
  /-- A choice between two branches. -/
  | conditional (line : Int) (condition : Node) (thenBranch : List Node)
      (elseBranch : Option (List Node))
  /-- A loop that tests before each round. -/
  | whileLoop (line : Int) (condition : Node) (body : List Node)
  /-- A loop that tests after each round. -/
  | doLoop (line : Int) (condition : Node) (body : List Node)
  /-- A loop with a start, a test and a step, each of which may be absent. -/
  | forLoop (line : Int) (start condition step : Option Node) (body : List Node)
  /-- Statements with a scope of their own. -/
  | block (line : Int) (body : List Node)
deriving Repr, Inhabited

namespace Node

/-- The line that a node is blamed on. -/
def line : Node → Int
  | program line _ | integer line _ | float line _ | text line _ | reference line _
  | binary line .. | unary line .. | call line .. | function line .. | declaration line ..
  | returning line _ | breaking line | continuing line | conditional line .. | whileLoop line ..
  | doLoop line .. | forLoop line .. | block line _ => line

/-- The name of a node's type in documents, traces and messages. -/
def typeName : Node → String
  | program .. => "Program"
  | integer .. => "IntegerLiteral"
  | float .. => "FloatLiteral"
  | text .. => "StringLiteral"
  | reference .. => "Variable"
  | binary .. => "BinaryOp"
  | unary .. => "UnaryOp"
  | call .. => "Call"
  | function .. => "FunctionDecl"
  | declaration .. => "VarDecl"
  | returning .. => "Return"
  | breaking .. => "Break"
  | continuing .. => "Continue"
  | conditional .. => "If"
  | whileLoop .. => "While"
  | doLoop .. => "DoWhile"
  | forLoop .. => "For"
  | block .. => "Block"

end Node

end Scriptlet
