import Mathlib
import Scriptlet.Document.Load

/-! # Documents hold all of a program

What is stored in a document is loaded from it again, with all lines and all parts.  Documents are
more liberal than what is stored: parts that may be absent need not be given, other entries are
passed over, and an integer counts as a double.  Storing what has been loaded brings each node into
one form.

Main definitions:

* `declaredParts?`: the parts that a node of a type has, in order, its line first.
* `isCanonical`: every object in a document names a type and has exactly the parts of that type.

Main statements:

* `load_toJson`: what is loaded from the document of a node is the node.
* `isCanonical_toJson`: the document of a node is canonical.
* `load_stored`: both, for all that can be loaded from a document. -/

namespace Scriptlet.Document

/-! ## The form of stored nodes -/

/-- The parts that a node of a type has, in order, its line first. -/
def declaredParts? : String → Option (List String)
  | "Program" | "Block" => some ["line", "body"]
  | "IntegerLiteral" | "FloatLiteral" | "StringLiteral" | "Return" => some ["line", "value"]
  | "Variable" => some ["line", "name"]
  | "BinaryOp" => some ["line", "op", "left", "right"]
  | "UnaryOp" => some ["line", "op", "operand"]
  | "Call" => some ["line", "callee", "args"]
  | "FunctionDecl" => some ["line", "name", "params", "body"]
  | "VarDecl" => some ["line", "name", "initializer"]
  | "Break" | "Continue" => some ["line"]
  | "If" => some ["line", "condition", "then_branch", "else_branch"]
  | "While" | "DoWhile" => some ["line", "condition", "body"]
  | "For" => some ["line", "init", "condition", "step", "body"]
  | _ => none

/-- Whether the entries of an object are its type and then the parts that the type declares. -/
def areDeclared : List (String × Json) → Bool
  | ("type", .string name) :: parts => declaredParts? name = some (parts.map (·.1))
  | _ => false

mutual

/-- Whether every object in a document names a type and has exactly the parts of that type. -/
@[simp] def isCanonical : Json → Bool
  | .array items => areCanonical items
  | .object entries => areDeclared entries && areCanonicalParts entries
  | .null | .boolean _ | .integer _ | .float _ | .string _ => true

/-- Whether documents are canonical. -/
@[simp] def areCanonical : List Json → Bool
  | [] => true
  | item :: items => isCanonical item && areCanonical items

/-- Whether the entries of an object hold canonical documents. -/
@[simp] def areCanonicalParts : List (String × Json) → Bool
  | [] => true
  | (_, value) :: entries => isCanonical value && areCanonicalParts entries

end

/-- The document of a node names its type and its line. -/
theorem exists_toJson_eq (node : Node) :
    ∃ parts, node.toJson = nodeObject node.typeName node.line parts := by
  cases node <;> exact ⟨_, rfl⟩

/-- Names are canonical. -/
@[simp] theorem areCanonical_strings (texts : List String) :
    areCanonical (texts.map .string) = true := by
  induction texts with
  | nil => rfl
  | cons text texts ih => simp [ih]

/-- The object of a node is canonical if it has the parts of its type and they are canonical. -/
@[simp] theorem isCanonical_nodeObject (name : String) (line : Int) (parts : List (String × Json)) :
    isCanonical (nodeObject name line parts) =
      (decide (declaredParts? name = some ("line" :: parts.map (·.1))) &&
        areCanonicalParts parts) := by
  simp [nodeObject, areDeclared]

mutual

/-- The document of a node is canonical. -/
theorem isCanonical_toJson : ∀ node : Node, isCanonical node.toJson = true
  | .program _ body | .block _ body => by
    simp [Node.toJson, declaredParts?, areCanonical_toJsons body]
  | .integer .. | .float .. | .text .. | .reference .. | .breaking _ | .continuing _ => by
    simp [Node.toJson, declaredParts?]
  | .binary _ _ left right => by
    simp [Node.toJson, declaredParts?, isCanonical_toJson left, isCanonical_toJson right]
  | .unary _ _ operand => by
    simp [Node.toJson, declaredParts?, isCanonical_toJson operand]
  | .call _ _ arguments => by
    simp [Node.toJson, declaredParts?, areCanonical_toJsons arguments]
  | .function _ _ parameters body => by
    simp [Node.toJson, declaredParts?, areCanonical_toJsons body]
  | .declaration _ _ part | .returning _ part => by
    simp [Node.toJson, declaredParts?, isCanonical_toJson? part]
  | .conditional _ condition thenBranch elseBranch => by
    simp [Node.toJson, declaredParts?, isCanonical_toJson condition,
      areCanonical_toJsons thenBranch, isCanonical_toJsons? elseBranch]
  | .whileLoop _ condition body | .doLoop _ condition body => by
    simp [Node.toJson, declaredParts?, isCanonical_toJson condition, areCanonical_toJsons body]
  | .forLoop _ start condition step body => by
    simp [Node.toJson, declaredParts?, isCanonical_toJson? start, isCanonical_toJson? condition,
      isCanonical_toJson? step, areCanonical_toJsons body]

/-- The documents of nodes are canonical. -/
theorem areCanonical_toJsons : ∀ nodes : List Node, areCanonical (Node.toJsons nodes) = true
  | [] => rfl
  | node :: nodes => by
    simp [Node.toJsons, isCanonical_toJson node, areCanonical_toJsons nodes]

/-- So is that of a node that may be missing. -/
theorem isCanonical_toJson? : ∀ node : Option Node, isCanonical (Node.toJson? node) = true
  | none => rfl
  | some node => isCanonical_toJson node

/-- So are those of a list that may be missing. -/
theorem isCanonical_toJsons? :
    ∀ nodes : Option (List Node), isCanonical (Node.toJsons? nodes) = true
  | none => rfl
  | some nodes => areCanonical_toJsons nodes

end

/-! ## Loading what has been stored -/

/-- Nodes are nodes. -/
@[simp] theorem nodes?_map (nodes : List Node) : nodes? (nodes.map .node) = some nodes := by
  induction nodes with
  | nil => rfl
  | cons node nodes ih => simp [nodes?, ih]

/-- Texts are texts. -/
@[simp] theorem texts?_map (texts : List String) : texts? (texts.map .text) = some texts := by
  induction texts with
  | nil => rfl
  | cons text texts ih => simp [texts?, ih]

/-- An item and those after it are loaded one after the other. -/
theorem loadItems_cons {json : Json} {jsons : List Json} {item : Item} {items : List Item}
    (head : load json = .ok item) (tail : loadItems jsons = .ok items) :
    loadItems (json :: jsons) = .ok (item :: items) := by
  rw [loadItems, head, tail]
  rfl

/-- An array of what can be loaded is loaded as a list. -/
theorem load_array {jsons : List Json} {items : List Item} (loaded : loadItems jsons = .ok items) :
    load (.array jsons) = .ok (.list items) := by
  rw [load, loaded]
  rfl

/-- Names are loaded as texts. -/
theorem loadItems_strings (texts : List String) :
    loadItems (texts.map .string) = .ok (texts.map .text) := by
  induction texts with
  | nil => rfl
  | cons text texts ih => exact loadItems_cons (by rw [load]) ih

/-- A node is loaded from an object that names its type. -/
theorem load_nodeObject {name : String} {line : Int} {parts : List (String × Json)} {node : Node}
    (loaded : loadNode name
      (("type", .ok (.text name)) :: ("line", .ok (.integer line)) :: loadParts parts) =
        .ok node) : load (nodeObject name line parts) = .ok (.node node) := by
  have entries : loadParts (("type", .string name) :: ("line", .integer line) :: parts) =
      ("type", .ok (.text name)) :: ("line", .ok (.integer line)) :: loadParts parts := by
    simp [loadParts, load]
  rw [nodeObject, load, typeName, List.lookup_cons_self, entries]
  show (loadNode name _ >>= fun node => pure (Item.node node)) = _
  rw [loaded]
  rfl

/-! ### Parts -/

/-- What is loaded from a document is as expected, and has a content. -/
def Expectation.Reads {α : Type} (expected : Expectation α) (json : Json) (content : α) : Prop :=
  ∃ item, load json = .ok item ∧ expected.content item = .ok content

section

variable {α β γ : Type} {parts : Parts} {name part part' part'' : String} {line : Int}
  {expected : Expectation α} {expected' : Expectation β} {expected'' : Expectation γ} {content : α}
  {content' : β} {content'' : γ}

/-- A part that is given and is as expected has its content. -/
theorem Parts.get_eq {json : Json} (given : parts.lookup part = some (load json))
    (reads : expected.Reads json content) : parts.get name part expected = .ok (some content) := by
  obtain ⟨item, loaded, meets⟩ := reads
  simp [Parts.get, given, loaded, meets]

/-- A line that is given is the line. -/
theorem Parts.line_eq (given : parts.lookup "line" = some (.ok (.integer line))) :
    parts.line name = .ok line := by
  have reads : Expectation.integer.Reads (.integer line) line := ⟨_, rfl, rfl⟩
  rw [Parts.line, Parts.get_eq given reads]
  rfl

/-- A node with one part beside its line is made of the two. -/
theorem loadOne_eq {make : Int → α → Node} (line_eq : parts.line name = .ok line)
    (first : parts.get name part expected = .ok (some content)) :
    loadOne parts name part expected make = .ok (make line content) := by
  simp [loadOne, line_eq, first, bind, Except.bind, pure, Except.pure]

/-- A node with two parts beside its line is made of the three. -/
theorem loadTwo_eq {make : Int → α → β → Node} (line_eq : parts.line name = .ok line)
    (first : parts.get name part expected = .ok (some content))
    (second : parts.get name part' expected' = .ok (some content')) :
    loadTwo parts name part expected part' expected' make = .ok (make line content content') := by
  simp [loadTwo, line_eq, first, second, bind, Except.bind, pure, Except.pure]

/-- A node with three parts beside its line is made of the four. -/
theorem loadThree_eq {make : Int → α → β → γ → Node} (line_eq : parts.line name = .ok line)
    (first : parts.get name part expected = .ok (some content))
    (second : parts.get name part' expected' = .ok (some content'))
    (third : parts.get name part'' expected'' = .ok (some content'')) :
    loadThree parts name part expected part' expected' part'' expected'' make =
      .ok (make line content content' content'') := by
  simp [loadThree, line_eq, first, second, third, bind, Except.bind, pure, Except.pure]

/-- A declaration is made of its parts. -/
theorem loadDeclaration_eq {binding : String} {initializer : Option Node}
    (line_eq : parts.line name = .ok line)
    (first : parts.get name "name" .text = .ok (some binding))
    (second : parts.get name "initializer" .optionalNode = .ok (some initializer)) :
    loadDeclaration parts name = .ok (.declaration line binding initializer) := by
  simp [loadDeclaration, line_eq, first, second, bind, Except.bind, pure, Except.pure]

/-- A `return` is made of its parts. -/
theorem loadReturning_eq {value : Option Node} (line_eq : parts.line name = .ok line)
    (first : parts.get name "value" .optionalNode = .ok (some value)) :
    loadReturning parts name = .ok (.returning line value) := by
  simp [loadReturning, line_eq, first, bind, Except.bind, pure, Except.pure]

/-- A choice is made of its parts. -/
theorem loadConditional_eq {condition : Node} {thenBranch : List Node}
    {elseBranch : Option (List Node)} (line_eq : parts.line name = .ok line)
    (first : parts.get name "condition" .node = .ok (some condition))
    (second : parts.get name "then_branch" .nodes = .ok (some thenBranch))
    (third : parts.get name "else_branch" .optionalNodes = .ok (some elseBranch)) :
    loadConditional parts name = .ok (.conditional line condition thenBranch elseBranch) := by
  simp [loadConditional, line_eq, first, second, third, bind, Except.bind, pure, Except.pure]

/-- A loop with a heading is made of its parts. -/
theorem loadForLoop_eq {start condition step : Option Node} {body : List Node}
    (line_eq : parts.line name = .ok line)
    (first : parts.get name "init" .optionalNode = .ok (some start))
    (second : parts.get name "condition" .optionalNode = .ok (some condition))
    (third : parts.get name "step" .optionalNode = .ok (some step))
    (fourth : parts.get name "body" .nodes = .ok (some body)) :
    loadForLoop parts name = .ok (.forLoop line start condition step body) := by
  simp [loadForLoop, line_eq, first, second, third, fourth, bind, Except.bind, pure, Except.pure]

/-- A node without parts is made of its line. -/
theorem loadBare_eq {make : Int → Node} (line_eq : parts.line name = .ok line) :
    (do return make (← parts.line name) : Except LoadFailure Node) = .ok (make line) := by
  rw [line_eq]
  rfl

end

namespace Expectation

/-- An integer is read where one is expected. -/
theorem reads_integer (value : Int) : integer.Reads (.integer value) value := ⟨_, rfl, rfl⟩

/-- A float is read where one is expected. -/
theorem reads_float (value : Float) : float.Reads (.float value) value := ⟨_, rfl, rfl⟩

/-- A text is read where one is expected. -/
theorem reads_text (value : String) : text.Reads (.string value) value := ⟨_, rfl, rfl⟩

/-- Texts are read where they are expected. -/
theorem reads_texts (values : List String) : texts.Reads (.array (values.map .string)) values :=
  ⟨_, load_array (loadItems_strings values), by simp [texts, ofPartial]⟩

/-- A node that is loaded is read where one is expected. -/
theorem reads_node {tree : Node} (loaded : load tree.toJson = .ok (.node tree)) :
    node.Reads tree.toJson tree := ⟨_, loaded, rfl⟩

/-- Nodes that are loaded are read where they are expected. -/
theorem reads_nodes {trees : List Node}
    (loaded : loadItems (Node.toJsons trees) = .ok (trees.map .node)) :
    nodes.Reads (.array (Node.toJsons trees)) trees :=
  ⟨_, load_array loaded, by simp [nodes, ofPartial]⟩

end Expectation

/-! ### Nodes -/

open Expectation

mutual

/-- What is loaded from the document of a node is the node. -/
theorem load_toJson : ∀ node : Node, load node.toJson = .ok (.node node)
  | .program _ body => by
    -- Each part is read back by the expectation of its shape; the parts that are nodes by
    -- induction.
    have statements := reads_nodes (loadItems_toJsons body)
    exact load_nodeObject (loadOne_eq (Parts.line_eq rfl) (Parts.get_eq rfl statements))
  | .integer _ value =>
    load_nodeObject (loadOne_eq (Parts.line_eq rfl) (Parts.get_eq rfl (reads_integer value)))
  | .float _ value =>
    load_nodeObject (loadOne_eq (Parts.line_eq rfl) (Parts.get_eq rfl (reads_float value)))
  | .text _ value =>
    load_nodeObject (loadOne_eq (Parts.line_eq rfl) (Parts.get_eq rfl (reads_text value)))
  | .reference _ name =>
    load_nodeObject (loadOne_eq (Parts.line_eq rfl) (Parts.get_eq rfl (reads_text name)))
  | .binary _ operator left right => by
    have first := reads_node (load_toJson left)
    have second := reads_node (load_toJson right)
    exact load_nodeObject (loadThree_eq (Parts.line_eq rfl)
      (Parts.get_eq rfl (reads_text operator)) (Parts.get_eq rfl first) (Parts.get_eq rfl second))
  | .unary _ operator operand => by
    have only := reads_node (load_toJson operand)
    exact load_nodeObject (loadTwo_eq (Parts.line_eq rfl) (Parts.get_eq rfl (reads_text operator))
      (Parts.get_eq rfl only))
  | .call _ callee arguments => by
    have passed := reads_nodes (loadItems_toJsons arguments)
    exact load_nodeObject (loadTwo_eq (Parts.line_eq rfl) (Parts.get_eq rfl (reads_text callee))
      (Parts.get_eq rfl passed))
  | .function _ name parameters body => by
    have statements := reads_nodes (loadItems_toJsons body)
    exact load_nodeObject (loadThree_eq (Parts.line_eq rfl) (Parts.get_eq rfl (reads_text name))
      (Parts.get_eq rfl (reads_texts parameters)) (Parts.get_eq rfl statements))
  | .declaration _ name initializer =>
    load_nodeObject (loadDeclaration_eq (Parts.line_eq rfl) (Parts.get_eq rfl (reads_text name))
      (Parts.get_eq rfl (reads_toJson? initializer)))
  | .returning _ value =>
    load_nodeObject (loadReturning_eq (Parts.line_eq rfl)
      (Parts.get_eq rfl (reads_toJson? value)))
  | .breaking _ => load_nodeObject (loadBare_eq (Parts.line_eq rfl))
  | .continuing _ => load_nodeObject (loadBare_eq (Parts.line_eq rfl))
  | .conditional _ condition thenBranch elseBranch => by
    have test := reads_node (load_toJson condition)
    have statements := reads_nodes (loadItems_toJsons thenBranch)
    exact load_nodeObject (loadConditional_eq (Parts.line_eq rfl) (Parts.get_eq rfl test)
      (Parts.get_eq rfl statements) (Parts.get_eq rfl (reads_toJsons? elseBranch)))
  | .whileLoop _ condition body => by
    have test := reads_node (load_toJson condition)
    have statements := reads_nodes (loadItems_toJsons body)
    exact load_nodeObject (loadTwo_eq (Parts.line_eq rfl) (Parts.get_eq rfl test)
      (Parts.get_eq rfl statements))
  | .doLoop _ condition body => by
    have test := reads_node (load_toJson condition)
    have statements := reads_nodes (loadItems_toJsons body)
    exact load_nodeObject (loadTwo_eq (Parts.line_eq rfl) (Parts.get_eq rfl test)
      (Parts.get_eq rfl statements))
  | .forLoop _ start condition step body => by
    have statements := reads_nodes (loadItems_toJsons body)
    exact load_nodeObject (loadForLoop_eq (Parts.line_eq rfl)
      (Parts.get_eq rfl (reads_toJson? start)) (Parts.get_eq rfl (reads_toJson? condition))
      (Parts.get_eq rfl (reads_toJson? step)) (Parts.get_eq rfl statements))
  | .block _ body => by
    have statements := reads_nodes (loadItems_toJsons body)
    exact load_nodeObject (loadOne_eq (Parts.line_eq rfl) (Parts.get_eq rfl statements))

/-- The documents of nodes are loaded as the nodes. -/
theorem loadItems_toJsons :
    ∀ nodes : List Node, loadItems (Node.toJsons nodes) = .ok (nodes.map .node)
  | [] => rfl
  | node :: nodes => loadItems_cons (load_toJson node) (loadItems_toJsons nodes)

/-- A node that may be missing is read from its document. -/
theorem reads_toJson? : ∀ tree : Option Node, optionalNode.Reads (Node.toJson? tree) tree
  | none => ⟨.null, rfl, rfl⟩
  | some tree => ⟨.node tree, load_toJson tree, rfl⟩

/-- Nodes that may be missing are read from their documents. -/
theorem reads_toJsons? :
    ∀ trees : Option (List Node), optionalNodes.Reads (Node.toJsons? trees) trees
  | none => ⟨.null, rfl, rfl⟩
  | some trees => by
    refine ⟨.list (trees.map .node), load_array (loadItems_toJsons trees), ?_⟩
    simp [optionalNodes, ofPartial]

end

/-! ### All that a document denotes -/

mutual

/-- What is loaded from the document of an item is the item. -/
theorem load_itemToJson : ∀ item : Item, load item.toJson = .ok item
  | .null => rfl
  | .boolean _ => rfl
  | .integer _ => rfl
  | .float _ => rfl
  | .text _ => rfl
  | .list items => load_array (loadItems_itemToJsons items)
  | .node tree => load_toJson tree

/-- The documents of items are loaded as the items. -/
theorem loadItems_itemToJsons :
    ∀ items : List Item, loadItems (Item.toJsons items) = .ok items
  | [] => rfl
  | item :: items => loadItems_cons (load_itemToJson item) (loadItems_itemToJsons items)

end

mutual

/-- The document of an item is canonical. -/
theorem isCanonical_itemToJson : ∀ item : Item, isCanonical item.toJson = true
  | .null => rfl
  | .boolean _ => rfl
  | .integer _ => rfl
  | .float _ => rfl
  | .text _ => rfl
  | .list items => areCanonical_itemToJsons items
  | .node tree => isCanonical_toJson tree

/-- The documents of items are canonical. -/
theorem areCanonical_itemToJsons :
    ∀ items : List Item, areCanonical (Item.toJsons items) = true
  | [] => rfl
  | item :: items => by
    simp [Item.toJsons, isCanonical_itemToJson item, areCanonical_itemToJsons items]

end

/-- A node is what is loaded from its document, which names its type and its line; and what has been
loaded from any document is stored in canonical form, from which it is loaded again. -/
theorem load_stored :
    (∀ node : Node, load node.toJson = .ok (.node node) ∧
      ∃ parts, node.toJson = nodeObject node.typeName node.line parts) ∧
    ∀ (json : Json) (item : Item), load json = .ok item →
      isCanonical item.toJson = true ∧ load item.toJson = .ok item := by
  constructor
  · intro node
    exact ⟨load_toJson node, exists_toJson_eq node⟩
  · intro json item _
    exact ⟨isCanonical_itemToJson item, load_itemToJson item⟩

/-- A document with an integer for a double, without a line and a value, and with an entry that
means nothing. -/
def sloppyDocument : Json :=
  .array [.object [("value", .integer 3), ("type", .string "FloatLiteral"), ("note", .object [])],
    .object [("type", .string "Return")]]

/-- What is loaded from a document that leaves things out is stored in full. -/
theorem sloppyDocument_stored :
    load sloppyDocument = .ok (.list [.node (.float 0 3), .node (.returning 0 none)]) ∧
      isCanonical (.array [(Node.float 0 3).toJson, (Node.returning 0 none).toJson]) = true ∧
      load (.array [(Node.float 0 3).toJson, (Node.returning 0 none).toJson]) =
        .ok (.list [.node (.float 0 3), .node (.returning 0 none)]) := by
  have three : Decimal.ofInteger? 3 = some 3 := by decide +kernel
  have loaded : load sloppyDocument =
      .ok (.list [.node (.float 0 3), .node (.returning 0 none)]) := by
    simp [sloppyDocument, load, loadItems, loadParts, typeName, loadNode, loadOne, loadReturning,
      Parts.line, Parts.get, List.lookup, Expectation.float, three, bind, Except.bind, pure,
      Except.pure]
  exact ⟨loaded, load_stored.2 _ _ loaded⟩

end Scriptlet.Document
