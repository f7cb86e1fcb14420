import Scriptlet.Json.Basic
import Scriptlet.Node.Basic

/-! # Programs in documents

A program is stored as a document: a node becomes an object that names its type and then its line and
its parts, in a fixed order.

Main definitions:

* `Node.toJson`: the document of a node.
* `Item`: what a document denotes, a node or data around nodes.
* `Item.toJson`, `Item.display`: the document of an item, and the text that messages show it by.
* `Node.same`, `Item.same`: equality up to lines. -/

namespace Scriptlet

/-- An object that names a type, a line and the parts of a node. -/
def nodeObject (typeName : String) (line : Int) (parts : List (String × Json)) : Json :=
  .object (("type", .string typeName) :: ("line", .integer line) :: parts)

namespace Node

mutual

/-- The document of a node. -/
def toJson : Node → Json
  | program line body => nodeObject "Program" line [("body", .array (toJsons body))]
  | integer line value => nodeObject "IntegerLiteral" line [("value", .integer value)]
  | float line value => nodeObject "FloatLiteral" line [("value", .float value)]
  | text line value => nodeObject "StringLiteral" line [("value", .string value)]
  | reference line name => nodeObject "Variable" line [("name", .string name)]
  | binary line operator left right =>
    nodeObject "BinaryOp" line
      [("op", .string operator), ("left", left.toJson), ("right", right.toJson)]
  | unary line operator operand =>
    nodeObject "UnaryOp" line [("op", .string operator), ("operand", operand.toJson)]
  | call line callee arguments =>
    nodeObject "Call" line [("callee", .string callee), ("args", .array (toJsons arguments))]
  | function line name parameters body =>
    nodeObject "FunctionDecl" line
      [("name", .string name), ("params", .array (parameters.map .string)),
       ("body", .array (toJsons body))]
  | declaration line name initializer =>
    nodeObject "VarDecl" line [("name", .string name), ("initializer", toJson? initializer)]
  | returning line value => nodeObject "Return" line [("value", toJson? value)]
  | breaking line => nodeObject "Break" line []
  | continuing line => nodeObject "Continue" line []
  | conditional line condition thenBranch elseBranch =>
    nodeObject "If" line
      [("condition", condition.toJson), ("then_branch", .array (toJsons thenBranch)),
       ("else_branch", toJsons? elseBranch)]
  | whileLoop line condition body =>
    nodeObject "While" line [("condition", condition.toJson), ("body", .array (toJsons body))]
  | doLoop line condition body =>
    nodeObject "DoWhile" line [("condition", condition.toJson), ("body", .array (toJsons body))]
  | forLoop line start condition step body =>
    nodeObject "For" line
      [("init", toJson? start), ("condition", toJson? condition), ("step", toJson? step),
       ("body", .array (toJsons body))]
  | block line body => nodeObject "Block" line [("body", .array (toJsons body))]

/-- The documents of nodes. -/
def toJsons : List Node → List Json
  | [] => []
  | node :: nodes => node.toJson :: toJsons nodes

/-- The document of a node that may be absent. -/
def toJson? : Option Node → Json
  | none => .null
  | some node => node.toJson

/-- The document of nodes that may be absent. -/
def toJsons? : Option (List Node) → Json
  | none => .null
  | some nodes => .array (toJsons nodes)

end

mutual

/-- Whether two nodes are equal up to lines. -/
def same : Node → Node → Bool
  | program _ body, program _ body' => sameList body body'
  | integer _ value, integer _ value' => value = value'
  | float _ value, float _ value' => value == value'
  | text _ value, text _ value' => value = value'
  | reference _ name, reference _ name' => name = name'
  | binary _ operator left right, binary _ operator' left' right' =>
    operator = operator' && left.same left' && right.same right'
  | unary _ operator operand, unary _ operator' operand' =>
    operator = operator' && operand.same operand'
  | call _ callee arguments, call _ callee' arguments' =>
    callee = callee' && sameList arguments arguments'
  | function _ name parameters body, function _ name' parameters' body' =>
    name = name' && parameters = parameters' && sameList body body'
  | declaration _ name initializer, declaration _ name' initializer' =>
    name = name' && same? initializer initializer'
  | returning _ value, returning _ value' => same? value value'
  | breaking _, breaking _ => true
  | continuing _, continuing _ => true
  | conditional _ condition thenBranch elseBranch,
      conditional _ condition' thenBranch' elseBranch' =>
    condition.same condition' && sameList thenBranch thenBranch' &&
      sameList? elseBranch elseBranch'
  | whileLoop _ condition body, whileLoop _ condition' body' =>
    condition.same condition' && sameList body body'
  | doLoop _ condition body, doLoop _ condition' body' =>
    condition.same condition' && sameList body body'
  | forLoop _ start condition step body, forLoop _ start' condition' step' body' =>
    same? start start' && same? condition condition' && same? step step' && sameList body body'
  | block _ body, block _ body' => sameList body body'
  | _, _ => false

/-- Whether two lists of nodes are equal up to lines. -/
def sameList : List Node → List Node → Bool
  | [], [] => true
  | node :: nodes, node' :: nodes' => node.same node' && sameList nodes nodes'
  | _, _ => false

/-- Whether two nodes that may be absent are equal up to lines. -/
def same? : Option Node → Option Node → Bool
  | none, none => true
  | some node, some node' => node.same node'
  | _, _ => false

/-- Whether two lists of nodes that may be absent are equal up to lines. -/
def sameList? : Option (List Node) → Option (List Node) → Bool
  | none, none => true
  | some nodes, some nodes' => sameList nodes nodes'
  | _, _ => false

end

end Node

/-- What a document denotes. -/
inductive Item
  | null
  | boolean (value : Bool)
  | integer (value : Int)
  | float (value : Float)
  | text (value : String)
  | list (items : List Item)
  | node (tree : Node)
deriving Repr, Inhabited

namespace Item

mutual

/-- The document of an item. -/
def toJson : Item → Json
  | null => .null
  | boolean value => .boolean value
  | integer value => .integer value
  | float value => .float value
  | text value => .string value
  | list items => .array (toJsons items)
  | node tree => tree.toJson

/-- The documents of items. -/
def toJsons : List Item → List Json
  | [] => []
  | item :: items => item.toJson :: toJsons items

end

/-- The text that messages show an item by. -/
def display (item : Item) : String :=
  item.toJson.display

/-- The value of an item as a number; the two truth values count as one and zero. -/
def reading? : Item → Option Decimal.Reading
  | boolean value => some (.ofInteger (if value then 1 else 0))
  | integer value => some (.ofInteger value)
  | float value => some (Decimal.read value)
  | _ => none

mutual

/-- Whether two items are equal, numbers by value and nodes up to lines. -/
def same : Item → Item → Bool
  | null, null => true
  | text value, text value' => value = value'
  | list items, list items' => sameList items items'
  | node tree, node tree' => tree.same tree'
  | item, item' =>
    match item.reading?, item'.reading? with
    | some reading, some reading' => Decimal.compareReadings reading reading' = some .eq
    | _, _ => false

/-- Whether two lists of items are equal, item by item. -/
def sameList : List Item → List Item → Bool
  | [], [] => true
  | item :: items, item' :: items' => item.same item' && sameList items items'
  | _, _ => false

end

end Item

end Scriptlet
