import Scriptlet.Document.Item

/-! # Loading programs from documents

A document denotes data around nodes.  Each object is a node of the type that it names; its parts are
loaded and checked in a fixed order, the line first, and entries that are no parts are passed over.

Main definitions:

* `LoadFailure`: why a document is refused, with `LoadFailure.message`.
* `Expectation`: what a part of a node may be.
* `loadNode`: the node of a type with given parts.
* `load`: the item that a document denotes. -/

namespace Scriptlet.Document

/-- Why a document is refused. -/
inductive LoadFailure
  /-- An object that names no type of node; the text shows what it names. -/
  | unknownType (name : String)
  /-- An object whose type is a list or an object. -/
  | compoundType (name : String)
  /-- A part that is not what it is expected to be. -/
  | malformed (typeName part expected : String) (item : Item)
  /-- Parts without which there is no node. -/
  | missing (typeName : String) (parts : List String)
  /-- An integer given for a double that is past the largest double. -/
  | tooLarge
deriving Repr, Inhabited

/-- Names in quotes, with `and` before the last one. -/
def enumerate : List String → String
  | [] => ""
  | [name] => Text.quoted name
  | [first, second] => Text.quoted first ++ " and " ++ Text.quoted second
  | names =>
    ", ".intercalate (names.dropLast.map Text.quoted) ++ ", and " ++
      Text.quoted (names.getLast?.getD "")

/-- The wording of a refusal. -/
def LoadFailure.message : LoadFailure → String
  | unknownType name => s!"Unknown AST node type: {name}"
  | compoundType name => s!"unhashable type: '{name}'"
  | malformed typeName part expected item =>
    s!"Malformed {typeName} node: field '{part}' expects {expected}, got {item.display}"
  | missing typeName parts =>
    let count := parts.length
    let noun := if count = 1 then "argument" else "arguments"
    s!"Malformed {typeName} node: {typeName}.__init__() missing {count} required positional {noun}: "
      ++ enumerate parts
  | tooLarge => "int too large to convert to float"

/-! ## Parts -/

/-- Why an item is not what it is expected to be. -/
inductive Refusal
  | mismatch
  | tooLarge

/-- What a part of a node may be. -/
structure Expectation (α : Type) where
  /-- The name of the expectation in messages. -/
  name : String
  /-- The content of an item that meets the expectation. -/
  content : Item → Except Refusal α

/-- The texts among items, if all are texts. -/
def texts? : List Item → Option (List String)
  | [] => some []
  | .text value :: items => (texts? items).map (value :: ·)
  | _ => none

/-- The nodes among items, if all are nodes. -/
def nodes? : List Item → Option (List Node)
  | [] => some []
  | .node node :: items => (nodes? items).map (node :: ·)
  | _ => none

namespace Expectation

/-- The content that a partial function finds, and a mismatch where it finds none. -/
def ofPartial {α : Type} (name : String) (content? : Item → Option α) : Expectation α where
  name
  content item := match content? item with
    | some content => .ok content
    | none => .error .mismatch

/-- An integer; truth values are none. -/
def integer : Expectation Int := ofPartial "int" fun
  | .integer value => some value
  | _ => none

/-- A text. -/
def text : Expectation String := ofPartial "str" fun
  | .text value => some value
  | _ => none

/-- A double; an integer counts as the double nearest to it. -/
def float : Expectation Float where
  name := "float"
  content
    | .float value => .ok value
    | .integer value =>
      match Decimal.ofInteger? value with
      | some value => .ok value
      | none => .error .tooLarge
    | _ => .error .mismatch

/-- A node. -/
def node : Expectation Node := ofPartial "Node" fun
  | .node node => some node
  | _ => none

/-- A list of nodes. -/
def nodes : Expectation (List Node) := ofPartial "List[Node]" fun
  | .list items => nodes? items
  | _ => none

/-- A list of texts. -/
def texts : Expectation (List String) := ofPartial "List[str]" fun
  | .list items => texts? items
  | _ => none

/-- A node that may be absent. -/
def optionalNode : Expectation (Option Node) := ofPartial "Optional[Node]" fun
  | .null => some none
  | .node node => some (some node)
  | _ => none

/-- A list of nodes that may be absent. -/
def optionalNodes : Expectation (Option (List Node)) := ofPartial "Optional[List[Node]]" fun
  | .null => some none
  | .list items => (nodes? items).map some
  | _ => none

end Expectation

/-- The entries of an object, each loaded. -/
abbrev Parts := List (String × Except LoadFailure Item)

/-- The content of a part, `none` if the part is absent. -/
def Parts.get {α : Type} (parts : Parts) (typeName part : String) (expected : Expectation α) :
    Except LoadFailure (Option α) :=
  match parts.lookup part with
  | none => .ok none
  | some (.error failure) => .error failure
  | some (.ok item) =>
    match expected.content item with
    | .ok content => .ok (some content)
    | .error .mismatch => .error (.malformed typeName part expected.name item)
    | .error .tooLarge => .error .tooLarge

/-- The line of a node, zero if it has none. -/
def Parts.line (parts : Parts) (typeName : String) : Except LoadFailure Int := do
  let line ← parts.get typeName "line" .integer
  return line.getD 0

/-- A node without which some of the named parts are absent. -/
def lacking {α : Type} (typeName : String) (parts : List (String × Bool)) : Except LoadFailure α :=
  .error (.missing typeName ((parts.filter (!·.2)).map (·.1)))

/-- A node with one part that must be present. -/
def loadOne {α : Type} (parts : Parts) (typeName part : String) (expected : Expectation α)
    (make : Int → α → Node) : Except LoadFailure Node := do
  let line ← parts.line typeName
  match ← parts.get typeName part expected with
  | some content => return make line content
  | none => lacking typeName [(part, false)]

/-- A node with two parts that must be present. -/
def loadTwo {α β : Type} (parts : Parts) (typeName part : String) (expected : Expectation α)
    (part' : String) (expected' : Expectation β) (make : Int → α → β → Node) :
    Except LoadFailure Node := do
  let line ← parts.line typeName
  let content ← parts.get typeName part expected
  let content' ← parts.get typeName part' expected'
  match content, content' with
  | some content, some content' => return make line content content'
  | _, _ => lacking typeName [(part, content.isSome), (part', content'.isSome)]

/-- A node with three parts that must be present. -/
def loadThree {α β γ : Type} (parts : Parts) (typeName part : String) (expected : Expectation α)
    (part' : String) (expected' : Expectation β) (part'' : String) (expected'' : Expectation γ)
    (make : Int → α → β → γ → Node) : Except LoadFailure Node := do
  let line ← parts.line typeName
  let content ← parts.get typeName part expected
  let content' ← parts.get typeName part' expected'
  let content'' ← parts.get typeName part'' expected''
  match content, content', content'' with
  | some content, some content', some content'' => return make line content content' content''
  | _, _, _ =>
    lacking typeName
      [(part, content.isSome), (part', content'.isSome), (part'', content''.isSome)]

/-- A declaration of a variable; its initial value may be absent. -/
def loadDeclaration (parts : Parts) (typeName : String) : Except LoadFailure Node := do
  let line ← parts.line typeName
  let name ← parts.get typeName "name" .text
  let initializer ← parts.get typeName "initializer" .optionalNode
  match name with
  | some name => return .declaration line name initializer.join
  | none => lacking typeName [("name", false)]

/-- A jump out of a function; its result may be absent. -/
def loadReturning (parts : Parts) (typeName : String) : Except LoadFailure Node := do
  let line ← parts.line typeName
  let value ← parts.get typeName "value" .optionalNode
  return .returning line value.join

/-- A choice; its second branch may be absent. -/
def loadConditional (parts : Parts) (typeName : String) : Except LoadFailure Node := do
  let line ← parts.line typeName
  let condition ← parts.get typeName "condition" .node
  let thenBranch ← parts.get typeName "then_branch" .nodes
  let elseBranch ← parts.get typeName "else_branch" .optionalNodes
  match condition, thenBranch with
  | some condition, some thenBranch =>
    return .conditional line condition thenBranch elseBranch.join
  | _, _ => lacking typeName [("condition", condition.isSome), ("then_branch", thenBranch.isSome)]

/-- A loop with a start, a test and a step, all of which must be given, if only as absent. -/
def loadForLoop (parts : Parts) (typeName : String) : Except LoadFailure Node := do
  let line ← parts.line typeName
  let start ← parts.get typeName "init" .optionalNode
  let condition ← parts.get typeName "condition" .optionalNode
  let step ← parts.get typeName "step" .optionalNode
  let body ← parts.get typeName "body" .nodes
  match start, condition, step, body with
  | some start, some condition, some step, some body =>
    return .forLoop line start condition step body
  | _, _, _, _ =>
    lacking typeName
      [("init", start.isSome), ("condition", condition.isSome), ("step", step.isSome),
       ("body", body.isSome)]

/-- The node of a type with given parts. -/
def loadNode (typeName : String) (parts : Parts) : Except LoadFailure Node :=
  match typeName with
  | "Program" => loadOne parts typeName "body" .nodes .program
  | "IntegerLiteral" => loadOne parts typeName "value" .integer .integer
  | "FloatLiteral" => loadOne parts typeName "value" .float .float
  | "StringLiteral" => loadOne parts typeName "value" .text .text
  | "Variable" => loadOne parts typeName "name" .text .reference
  | "BinaryOp" => loadThree parts typeName "op" .text "left" .node "right" .node .binary
  | "UnaryOp" => loadTwo parts typeName "op" .text "operand" .node .unary
  | "Call" => loadTwo parts typeName "callee" .text "args" .nodes .call
  | "FunctionDecl" =>
    loadThree parts typeName "name" .text "params" .texts "body" .nodes .function
  | "VarDecl" => loadDeclaration parts typeName
  | "Return" => loadReturning parts typeName
  | "Break" => return .breaking (← parts.line typeName)
  | "Continue" => return .continuing (← parts.line typeName)
  | "If" => loadConditional parts typeName
  | "While" => loadTwo parts typeName "condition" .node "body" .nodes .whileLoop
  | "DoWhile" => loadTwo parts typeName "condition" .node "body" .nodes .doLoop
  | "For" => loadForLoop parts typeName
  | "Block" => loadOne parts typeName "body" .nodes .block
  | _ => .error (.unknownType typeName)

/-! ## Documents -/

/-- The name of the type that an object gives. -/
def typeName (entries : List (String × Json)) : Except LoadFailure String :=
  match entries.lookup "type" with
  | some (.string name) => .ok name
  | some (.array _) => .error (.compoundType "list")
  | some (.object _) => .error (.compoundType "dict")
  | some scalar => .error (.unknownType scalar.display)
  | none => .error (.unknownType Json.null.display)

mutual

/-- The item that a document denotes. -/
def load : Json → Except LoadFailure Item
  | .null => .ok .null
  | .boolean value => .ok (.boolean value)
  | .integer value => .ok (.integer value)
  | .float value => .ok (.float value)
  | .string value => .ok (.text value)
  | .array items => do
    let items ← loadItems items
    return .list items
  | .object entries => do
    let name ← typeName entries
    let node ← loadNode name (loadParts entries)
    return .node node

/-- The items that documents denote, from left to right. -/
def loadItems : List Json → Except LoadFailure (List Item)
  | [] => .ok []
  | json :: jsons => do
    let item ← load json
    let items ← loadItems jsons
    return item :: items

/-- The entries of an object, each loaded on its own. -/
def loadParts : List (String × Json) → Parts
  | [] => []
  | (key, value) :: entries => (key, load value) :: loadParts entries

end

end Scriptlet.Document
