import Mathlib
import Scriptlet.Proofs.Document.Readable
import Scriptlet.Proofs.Document.RoundTrip

/-! # Declared parts of nodes

What each type of nodes declares of its parts: their names, what they are, and which of them need not
be given.  A node is loaded if and only if what is given for its parts is what the declarations say,
and then the parts of the node are what is given.

Main definitions:

* `Shape`, `Part`, `declared?`: the parts that the types of nodes declare, and what they are.
* `Expectation.Realizes`: an expectation is of a shape.
* `Takes`: the parts of a node are what is given for them.

Main statements:

* `loadNode_takes`, `exists_loadNode`: which nodes are loaded, and what their parts are. -/

namespace Scriptlet.Document

open Grammar (bind_eq_ok pure_eq_ok)

/-! ## Declarations -/

/-- What a part of a node is declared to be. -/
inductive Shape
  | integer | float | text | node
  /-- A list of documents of a shape. -/
  | list (item : Shape)
  /-- A document of a shape, or nothing. -/
  | optional (content : Shape)
deriving DecidableEq

namespace Shape

/-- A document is of a shape; a truth value is of none. -/
def Matches : Shape → Json → Prop
  | .integer, .integer _ | .float, .float _ | .text, .string _ | .node, .object _ => True
  | .list item, .array items => ∀ json ∈ items, item.Matches json
  | .optional _, .null => True
  | .optional content, json => content.Matches json
  | _, _ => False

/-- A document is of a shape, or an integer for a double. -/
def Accepts (shape : Shape) (json : Json) : Prop :=
  shape.Matches json ∨ shape = .float ∧ ∃ value, json = .integer value

/-- An item is of a shape, and is kept as the given document: as it is, but an integer
for a double as the double next to it. -/
def Keeps (shape : Shape) (item : Item) (kept : Json) : Prop :=
  shape.Matches kept ∧ (kept = item.toJson ∨ shape = .float ∧
    ∃ integer number, item = .integer integer ∧ Decimal.ofInteger? integer = some number ∧
      kept = .float number)

end Shape

/-- A part that a type of nodes declares. -/
structure Part where
  /-- Its name. -/
  name : String
  /-- What it is. -/
  shape : Shape
  /-- What it is if it is not given; none if it must be given. -/
  absent? : Option Json := none

/-- The line of a node, which is zero if it is not given. -/
def Part.line : Part := ⟨"line", .integer, some (.integer 0)⟩

/-- The parts that a type of nodes declares, the line first. -/
def declared? : String → Option (List Part)
  | "Program" | "Block" => some [.line, ⟨"body", .list .node, none⟩]
  | "IntegerLiteral" => some [.line, ⟨"value", .integer, none⟩]
  | "FloatLiteral" => some [.line, ⟨"value", .float, none⟩]
  | "StringLiteral" => some [.line, ⟨"value", .text, none⟩]
  | "Variable" => some [.line, ⟨"name", .text, none⟩]
  | "BinaryOp" =>
    some [.line, ⟨"op", .text, none⟩, ⟨"left", .node, none⟩, ⟨"right", .node, none⟩]
  | "UnaryOp" => some [.line, ⟨"op", .text, none⟩, ⟨"operand", .node, none⟩]
  | "Call" => some [.line, ⟨"callee", .text, none⟩, ⟨"args", .list .node, none⟩]
  | "FunctionDecl" =>
    some [.line, ⟨"name", .text, none⟩, ⟨"params", .list .text, none⟩,
      ⟨"body", .list .node, none⟩]
  | "VarDecl" => some [.line, ⟨"name", .text, none⟩, ⟨"initializer", .optional .node, some .null⟩]
  | "Return" => some [.line, ⟨"value", .optional .node, some .null⟩]
  | "Break" | "Continue" => some [.line]
  | "If" =>
    some [.line, ⟨"condition", .node, none⟩, ⟨"then_branch", .list .node, none⟩,
      ⟨"else_branch", .optional (.list .node), some .null⟩]
  | "While" | "DoWhile" =>
    some [.line, ⟨"condition", .node, none⟩, ⟨"body", .list .node, none⟩]
  | "For" =>
    some [.line, ⟨"init", .optional .node, none⟩, ⟨"condition", .optional .node, none⟩,
      ⟨"step", .optional .node, none⟩, ⟨"body", .list .node, none⟩]
  | _ => none

/-- The parts that are stored for a node of a type are those that the type declares. -/
theorem declaredParts?_eq (type : String) :
    declaredParts? type = (declared? type).map (List.map Part.name) := by
  unfold declaredParts? declared?
  split
  case h_19 => simp_all
  all_goals rfl

/-- A part of a node, as it is stored. -/
def storedPart? (node : Node) (name : String) : Option Json :=
  match node.toJson with
  | .object entries => entries.lookup name
  | _ => none

/-- What a part is given as, if it is given, is kept; a part that is not given is what it is then. -/
def Part.Gives (part : Part) (given : Option (Except LoadFailure Item)) (kept : Json) : Prop :=
  match given with
  | none => part.absent? = some kept
  | some loaded => ∃ item, loaded = .ok item ∧ part.shape.Keeps item kept

/-! ## Expectations -/

section

variable {α : Type} {shape : Shape} {store : α → Json}

/-- An expectation is of a shape, and its content is stored in a given way. -/
structure Expectation.Realizes (expected : Expectation α) (shape : Shape)
    (store : α → Json) : Prop where
  keeps : ∀ {item content}, expected.content item = .ok content →
    shape.Keeps item (store content)
  finds : ∀ {item kept}, shape.Keeps item kept → ∃ content, expected.content item = .ok content

/-- The document of a node is an object. -/
theorem exists_object (tree : Node) : ∃ entries, tree.toJson = .object entries := by
  obtain ⟨parts, stored⟩ := exists_toJson_eq tree
  exact ⟨_, stored⟩

/-- The document of a node is one of a node. -/
theorem matches_node (tree : Node) : Shape.node.Matches tree.toJson := by
  obtain ⟨entries, stored⟩ := exists_object tree
  rw [stored]
  trivial

/-- An expectation that keeps what it is given as it is, is of a shape. -/
theorem realizes_ofPartial {name : String} {content? : Item → Option α}
    (other : shape ≠ .float)
    (sound : ∀ item content, content? item = some content →
      store content = item.toJson ∧ shape.Matches item.toJson)
    (complete : ∀ item, shape.Matches item.toJson → (content? item).isSome = true) :
    (Expectation.ofPartial name content?).Realizes shape store := by
  constructor
  · intro item content content_eq
    simp only [Expectation.ofPartial] at content_eq
    split at content_eq
    next found =>
      obtain rfl := Except.ok.inj content_eq
      obtain ⟨stored, fits⟩ := sound item _ found
      exact ⟨stored ▸ fits, .inl stored⟩
    next => cases content_eq
  · rintro item kept ⟨fits, rfl | ⟨double, -⟩⟩
    · obtain ⟨content, found⟩ := Option.isSome_iff_exists.mp (complete item fits)
      exact ⟨content, by simp only [Expectation.ofPartial, found]⟩
    · exact absurd double other

end

/-- Items are stored one by one. -/
theorem itemToJsons_eq (items : List Item) : Item.toJsons items = items.map Item.toJson := by
  induction items with
  | nil => rfl
  | cons item items ih => rw [Item.toJsons, ih, List.map_cons]

/-- Nodes are stored one by one. -/
theorem nodeToJsons_eq (nodes : List Node) : Node.toJsons nodes = nodes.map Node.toJson := by
  induction nodes with
  | nil => rfl
  | cons node nodes ih => rw [Node.toJsons, ih, List.map_cons]

/-- Of the documents of nodes it counts only that they are objects. -/
theorem matches_of_stored {shape : Shape} {tree : Node}
    (fits : shape.Matches tree.toJson) : shape.Matches (.object []) := by
  obtain ⟨entries, stored⟩ := exists_object tree
  rw [stored] at fits
  induction shape with
  | node => trivial
  | optional shape ih => exact ih fits
  | integer | float | text | list => exact fits.elim

/-- Only nothing is stored as nothing. -/
theorem eq_null {item : Item} (absent : item.toJson = .null) : item = .null := by
  cases item with
  | null => rfl
  | node tree =>
    obtain ⟨entries, stored⟩ := exists_object tree
    rw [Item.toJson, stored] at absent
    cases absent
  | boolean | integer | float | text | list => cases absent

/-- An item that is stored as an object is a node. -/
theorem exists_node {item : Item} (fits : Shape.node.Matches item.toJson) :
    ∃ tree, item = .node tree := by
  cases item with
  | node tree => exact ⟨tree, rfl⟩
  | null | boolean | integer | float | text | list => exact fits.elim

/-- What is stored as a text is one. -/
theorem exists_text {item : Item} (fits : Shape.text.Matches item.toJson) :
    ∃ value, item = .text value := by
  cases item with
  | text value => exact ⟨value, rfl⟩
  | node tree => exact (matches_of_stored fits).elim
  | null | boolean | integer | float | list => exact fits.elim

/-- What is stored as an integer is one. -/
theorem exists_integer {item : Item} (fits : Shape.integer.Matches item.toJson) :
    ∃ value, item = .integer value := by
  cases item with
  | integer value => exact ⟨value, rfl⟩
  | node tree => exact (matches_of_stored fits).elim
  | null | boolean | text | float | list => exact fits.elim

/-- What is stored as a float is one. -/
theorem exists_float {item : Item} (fits : Shape.float.Matches item.toJson) :
    ∃ value, item = .float value := by
  cases item with
  | float value => exact ⟨value, rfl⟩
  | node tree => exact (matches_of_stored fits).elim
  | null | boolean | integer | text | list => exact fits.elim

/-- What is stored as a list is one, of items of the shape. -/
theorem exists_list {shape : Shape} {item : Item}
    (fits : (Shape.list shape).Matches item.toJson) :
    ∃ items, item = .list items ∧ ∀ item ∈ items, shape.Matches item.toJson := by
  cases item with
  | list items =>
    refine ⟨items, rfl, fun item mem => ?_⟩
    have each : ∀ json ∈ Item.toJsons items, shape.Matches json := fits
    rw [itemToJsons_eq, List.forall_mem_map] at each
    exact each item mem
  | node tree => exact (matches_of_stored fits).elim
  | null | boolean | integer | float | text => exact fits.elim

/-- An optional document is none or one of the shape. -/
theorem matches_optional_iff {shape : Shape} {json : Json} :
    (Shape.optional shape).Matches json ↔ json = .null ∨ shape.Matches json := by
  cases json <;> simp [Shape.Matches]

/-! ## Lists of one kind -/

/-- Contents of one kind: each is wrapped as an item and stored as a document of a shape, every item
of that shape wraps one, and they are collected from lists of items that all wrap one. -/
structure Collects {α : Type} (collect? : List Item → Option (List α)) (wrap : α → Item)
    (shape : Shape) (store : α → Json) : Prop where
  collect_map : ∀ contents, collect? (List.map wrap contents) = some contents
  cons : ∀ content items, collect? (wrap content :: items) = (collect? items).map (content :: ·)
  wrapped : ∀ {item items contents}, collect? (item :: items) = some contents →
    ∃ content, item = wrap content
  stored : ∀ content, (wrap content).toJson = store content
  fits : ∀ content, shape.Matches (store content)
  exists_eq : ∀ {item : Item}, shape.Matches item.toJson → ∃ content, item = wrap content

namespace Collects

variable {α : Type} {collect? : List Item → Option (List α)} {wrap : α → Item} {shape : Shape}
  {store : α → Json}

/-- The contents that are collected are those that the items wrap. -/
theorem eq_map (collects : Collects collect? wrap shape store) {items : List Item}
    {contents : List α} (found : collect? items = some contents) : items = contents.map wrap := by
  induction items generalizing contents with
  | nil =>
    obtain rfl := Option.some.inj ((collects.collect_map []).symm.trans found)
    rfl
  | cons item items ih =>
    obtain ⟨content, rfl⟩ := collects.wrapped found
    rw [collects.cons] at found
    obtain ⟨rest, rest_eq, rfl⟩ := Option.map_eq_some_iff.mp found
    rw [List.map_cons, ih rest_eq]

/-- A list of items is stored as the array of what is stored for their contents. -/
theorem toJson_list (collects : Collects collect? wrap shape store) (contents : List α) :
    (Item.list (contents.map wrap)).toJson = .array (contents.map store) := by
  rw [Item.toJson, itemToJsons_eq, List.map_map]
  exact congrArg Json.array (List.map_congr_left fun content _ => collects.stored content)

/-- Such an array is of the shape of a list. -/
theorem matches_array (collects : Collects collect? wrap shape store) (contents : List α) :
    (Shape.list shape).Matches (.array (contents.map store)) := by
  intro json mem
  obtain ⟨content, -, rfl⟩ := List.mem_map.mp mem
  exact collects.fits content

/-- Every item of the shape of a list is a list of items that wrap contents. -/
theorem exists_list_eq (collects : Collects collect? wrap shape store) {item : Item}
    (fits : (Shape.list shape).Matches item.toJson) :
    ∃ contents, item = .list (List.map wrap contents) := by
  obtain ⟨items, rfl, each⟩ := exists_list fits
  have wraps : items ∈ Set.range (List.map wrap) := by
    rw [Set.range_list_map]
    exact fun item mem => (collects.exists_eq (each item mem)).imp fun _ => Eq.symm
  obtain ⟨contents, rfl⟩ := wraps
  exact ⟨contents, rfl⟩

end Collects

/-- Nodes are collected from items that are nodes. -/
theorem collects_nodes : Collects nodes? .node .node Node.toJson where
  collect_map := nodes?_map
  cons _ _ := rfl
  wrapped {item items contents} found := by
    cases item with
    | node tree => exact ⟨tree, rfl⟩
    | null | boolean | integer | float | text | list => cases found
  stored _ := rfl
  fits := matches_node
  exists_eq := exists_node

/-- Texts are collected from items that are texts. -/
theorem collects_texts : Collects texts? .text .text Json.string where
  collect_map := texts?_map
  cons _ _ := rfl
  wrapped {item items contents} found := by
    cases item with
    | text value => exact ⟨value, rfl⟩
    | null | boolean | integer | float | node | list => cases found
  stored _ := rfl
  fits _ := trivial
  exists_eq := exists_text

namespace Expectation

/-- An integer is expected where one is declared. -/
theorem realizes_integer : integer.Realizes .integer Json.integer := by
  refine realizes_ofPartial nofun ?_ ?_
  · rintro (_ | _ | _ | _ | _ | _ | _) content ⟨⟩
    exact ⟨rfl, trivial⟩
  · intro item fits
    obtain ⟨value, rfl⟩ := exists_integer fits
    rfl

/-- A text is expected where one is declared. -/
theorem realizes_text : text.Realizes .text Json.string := by
  refine realizes_ofPartial nofun ?_ ?_
  · rintro (_ | _ | _ | _ | _ | _ | _) content ⟨⟩
    exact ⟨rfl, trivial⟩
  · intro item fits
    obtain ⟨value, rfl⟩ := exists_text fits
    rfl

/-- An integer for a double is kept as the double next to it. -/
theorem realizes_float : float.Realizes .float Json.float := by
  constructor
  · intro item content content_eq
    cases item with
    | float value =>
      obtain rfl := Except.ok.inj content_eq
      exact ⟨trivial, .inl rfl⟩
    | integer value =>
      simp only [float] at content_eq
      split at content_eq
      next number found =>
        obtain rfl := Except.ok.inj content_eq
        exact ⟨trivial, .inr ⟨rfl, value, number, rfl, found, rfl⟩⟩
      next => cases content_eq
    | null | boolean | text | list | node => cases content_eq
  · rintro item kept ⟨fits, rfl | ⟨-, integer, number, rfl, found, -⟩⟩
    · obtain ⟨value, rfl⟩ := exists_float fits
      exact ⟨value, rfl⟩
    · exact ⟨number, by simp only [float, found]⟩

/-- A node is expected where one is declared. -/
theorem realizes_node : node.Realizes .node Node.toJson := by
  refine realizes_ofPartial nofun ?_ ?_
  · rintro (_ | _ | _ | _ | _ | _ | tree) content ⟨⟩
    exact ⟨rfl, matches_node tree⟩
  · intro item fits
    obtain ⟨tree, rfl⟩ := exists_node fits
    rfl

/-- An expectation that collects contents from a list is of the shape of a list. -/
theorem realizes_list {α : Type} {collect? : List Item → Option (List α)} {wrap : α → Item}
    {shape : Shape} {store : α → Json} {name : String} {content? : Item → Option (List α)}
    (collects : Collects collect? wrap shape store)
    (listed : ∀ items, content? (.list items) = collect? items)
    (unlisted : ∀ item contents, content? item = some contents → ∃ items, item = .list items) :
    (ofPartial name content?).Realizes (.list shape) fun contents =>
      .array (contents.map store) := by
  refine realizes_ofPartial nofun ?_ ?_
  · intro item contents found
    obtain ⟨items, rfl⟩ := unlisted item contents found
    rw [listed] at found
    obtain rfl := collects.eq_map found
    rw [collects.toJson_list]
    exact ⟨rfl, collects.matches_array contents⟩
  · intro item fits
    obtain ⟨contents, rfl⟩ := collects.exists_list_eq fits
    rw [listed, collects.collect_map]
    rfl

/-- A list of nodes is expected. -/
theorem realizes_nodes : nodes.Realizes (.list .node) fun trees => .array (Node.toJsons trees) := by
  simp only [nodeToJsons_eq]
  refine realizes_list collects_nodes (fun _ => rfl) fun item contents found => ?_
  cases item with
  | list items => exact ⟨items, rfl⟩
  | null | boolean | integer | float | text | node => cases found

/-- A list of texts is expected. -/
theorem realizes_texts :
    texts.Realizes (.list .text) fun texts => .array (texts.map .string) := by
  refine realizes_list collects_texts (fun _ => rfl) fun item contents found => ?_
  cases item with
  | list items => exact ⟨items, rfl⟩
  | null | boolean | integer | float | text | node => cases found

/-- A node that may be missing is expected where one is declared. -/
theorem realizes_optionalNode : optionalNode.Realizes (.optional .node) Node.toJson? := by
  refine realizes_ofPartial nofun ?_ ?_
  · rintro (_ | _ | _ | _ | _ | _ | tree) content ⟨⟩
    · exact ⟨rfl, trivial⟩
    · exact ⟨rfl, matches_optional_iff.mpr (.inr (matches_node tree))⟩
  · intro item fits
    obtain absent | fits := matches_optional_iff.mp fits
    · rw [eq_null absent]
      rfl
    · obtain ⟨tree, rfl⟩ := exists_node fits
      rfl

/-- A list that may be missing is expected where one is declared. -/
theorem realizes_optionalNodes :
    optionalNodes.Realizes (.optional (.list .node)) Node.toJsons? := by
  refine realizes_ofPartial nofun ?_ ?_
  · rintro (_ | _ | _ | _ | _ | items | _) content found <;> try cases found
    · exact ⟨rfl, trivial⟩
    · obtain ⟨trees, trees_eq, rfl⟩ := Option.map_eq_some_iff.mp found
      obtain rfl := collects_nodes.eq_map trees_eq
      rw [collects_nodes.toJson_list, ← nodeToJsons_eq]
      refine ⟨rfl, matches_optional_iff.mpr (.inr ?_)⟩
      rw [nodeToJsons_eq]
      exact collects_nodes.matches_array trees
  · intro item fits
    obtain absent | fits := matches_optional_iff.mp fits
    · rw [eq_null absent]
      rfl
    · obtain ⟨trees, rfl⟩ := collects_nodes.exists_list_eq fits
      simp

end Expectation

/-! ## Parts -/

section Parts

variable {α β γ : Type} {parts : Parts} {type name name' name'' : String} {absent? : Option Json}
  {expected : Expectation α} {shape : Shape} {store : α → Json}
  {expected' : Expectation β} {shape' : Shape} {store' : β → Json}
  {expected'' : Expectation γ} {shape'' : Shape} {store'' : γ → Json}

/-- A part that is found missing is not among what is given. -/
theorem lookup_of_get (read : parts.get type name expected = .ok none) :
    parts.lookup name = none := by
  rw [Parts.get] at read
  split at read
  next absent => exact absent
  next => cases read
  next => split at read <;> cases read

/-- What is read as a part is what is given for it. -/
theorem gives_of_get (realizes : expected.Realizes shape store) {content : α}
    (read : parts.get type name expected = .ok (some content)) :
    Part.Gives ⟨name, shape, absent?⟩ (parts.lookup name) (store content) := by
  rw [Parts.get] at read
  split at read
  next => cases read
  next => cases read
  next item given =>
    split at read
    next found =>
      obtain rfl := Option.some.inj (Except.ok.inj read)
      rw [given]
      exact ⟨item, rfl, realizes.keeps found⟩
    next => cases read
    next => cases read

/-- A part that may be absent is nothing if it is not given. -/
theorem gives_of_get_join {expected : Expectation (Option α)} {store : Option α → Json}
    (realizes : expected.Realizes shape store) (nothing : store none = .null)
    {content? : Option (Option α)} (read : parts.get type name expected = .ok content?) :
    Part.Gives ⟨name, shape, some .null⟩ (parts.lookup name) (store content?.join) := by
  cases content? with
  | none =>
    rw [lookup_of_get read]
    exact congrArg some nothing.symm
  | some content => exact gives_of_get realizes read

/-- The line of a node is the one that is given. -/
theorem gives_of_line {line : Int} (read : parts.line type = .ok line) :
    Part.line.Gives (parts.lookup "line") (.integer line) := by
  obtain ⟨content?, got, line_eq⟩ := bind_eq_ok.mp read
  obtain rfl := pure_eq_ok.mp line_eq
  cases content? with
  | none =>
    rw [lookup_of_get got]
    rfl
  | some content => exact gives_of_get Expectation.realizes_integer got

/-- A part for which something can be kept is read. -/
theorem exists_get (realizes : expected.Realizes shape store)
    (gives : ∃ kept, Part.Gives ⟨name, shape, absent?⟩ (parts.lookup name) kept) :
    ∃ content?, parts.get type name expected = .ok content? := by
  obtain ⟨kept, gives⟩ := gives
  rw [Parts.get]
  cases given : parts.lookup name with
  | none => exact ⟨none, rfl⟩
  | some loaded =>
    rw [given] at gives
    obtain ⟨item, rfl, keeps⟩ := gives
    obtain ⟨content, found⟩ := realizes.finds keeps
    exact ⟨some content, by simp only [found]⟩

/-- A part that must be given is given if something can be kept for it. -/
theorem exists_content (realizes : expected.Realizes shape store)
    (gives : ∃ kept, Part.Gives ⟨name, shape, none⟩ (parts.lookup name) kept) :
    ∃ content, parts.get type name expected = .ok (some content) := by
  obtain ⟨content?, read⟩ := exists_get realizes gives
  cases content? with
  | none =>
    obtain ⟨kept, gives⟩ := gives
    rw [lookup_of_get read] at gives
    cases gives
  | some content => exact ⟨content, read⟩

/-- A line that is given is read. -/
theorem exists_line (gives : ∃ kept, Part.line.Gives (parts.lookup "line") kept) :
    ∃ line, parts.line type = .ok line := by
  obtain ⟨content?, read⟩ := exists_get Expectation.realizes_integer gives
  exact ⟨content?.getD 0, by rw [Parts.line, read]; rfl⟩

/-! ### Nodes of one, two or three parts -/

variable {node : Node} {part : Part} {declared : List Part}

/-- All parts of a node that its type declares are taken from what is given for them. -/
def Takes (node : Node) (parts : Parts) (declared : List Part) : Prop :=
  ∀ part ∈ declared, ∃ kept, storedPart? node part.name = some kept ∧
    part.Gives (parts.lookup part.name) kept

/-- One part more is taken. -/
theorem Takes.cons {kept : Json} (stored : storedPart? node part.name = some kept)
    (gives : part.Gives (parts.lookup part.name) kept) (rest : Takes node parts declared) :
    Takes node parts (part :: declared) :=
  List.forall_mem_cons.mpr ⟨⟨kept, stored, gives⟩, rest⟩

/-- Without declared parts there is nothing to take. -/
theorem Takes.nil : Takes node parts [] := nofun

section One

variable {make : Int → α → Node} (realizes : expected.Realizes shape store)
include realizes

/-- A node with one part beside its line takes both. -/
theorem loadOne_takes
    (makes : ∀ line content, (make line content).typeName = type ∧
      storedPart? (make line content) "line" = some (.integer line) ∧
      storedPart? (make line content) name = some (store content))
    (loaded : loadOne parts type name expected make = .ok node) :
    node.typeName = type ∧ Takes node parts [.line, ⟨name, shape, none⟩] := by
  simp only [loadOne, bind_eq_ok] at loaded
  obtain ⟨line, line_eq, content?, read, loaded⟩ := loaded
  cases content? with
  | none => cases loaded
  | some content =>
    obtain rfl := pure_eq_ok.mp loaded
    obtain ⟨typed, stored_line, stored⟩ := makes line content
    exact ⟨typed, .cons stored_line (gives_of_line line_eq)
      (.cons stored (gives_of_get realizes read) .nil)⟩

/-- A node with one part beside its line is loaded once both are given. -/
theorem exists_loadOne (line : ∃ kept, Part.line.Gives (parts.lookup "line") kept)
    (first : ∃ kept, Part.Gives ⟨name, shape, none⟩ (parts.lookup name) kept) :
    ∃ node, loadOne parts type name expected make = .ok node := by
  obtain ⟨line, line_eq⟩ := exists_line line
  obtain ⟨content, read⟩ := exists_content realizes first
  exact ⟨_, loadOne_eq line_eq read⟩

end One

section Two

variable {make : Int → α → β → Node} (realizes : expected.Realizes shape store)
  (realizes' : expected'.Realizes shape' store')
include realizes realizes'

/-- A node with two parts beside its line takes all three. -/
theorem loadTwo_takes
    (makes : ∀ line content content', (make line content content').typeName = type ∧
      storedPart? (make line content content') "line" = some (.integer line) ∧
      storedPart? (make line content content') name = some (store content) ∧
      storedPart? (make line content content') name' = some (store' content'))
    (loaded : loadTwo parts type name expected name' expected' make = .ok node) :
    node.typeName = type ∧
      Takes node parts [.line, ⟨name, shape, none⟩, ⟨name', shape', none⟩] := by
  simp only [loadTwo, bind_eq_ok] at loaded
  obtain ⟨line, line_eq, content?, read, content?', read', loaded⟩ := loaded
  cases content? with
  | none => cases loaded
  | some content =>
    cases content?' with
    | none => cases loaded
    | some content' =>
      obtain rfl := pure_eq_ok.mp loaded
      obtain ⟨typed, stored_line, stored, stored'⟩ := makes line content content'
      exact ⟨typed, .cons stored_line (gives_of_line line_eq)
        (.cons stored (gives_of_get realizes read)
          (.cons stored' (gives_of_get realizes' read') .nil))⟩

/-- A node with two parts beside its line is loaded once all three are given. -/
theorem exists_loadTwo (line : ∃ kept, Part.line.Gives (parts.lookup "line") kept)
    (first : ∃ kept, Part.Gives ⟨name, shape, none⟩ (parts.lookup name) kept)
    (second : ∃ kept, Part.Gives ⟨name', shape', none⟩ (parts.lookup name') kept) :
    ∃ node, loadTwo parts type name expected name' expected' make = .ok node := by
  obtain ⟨line, line_eq⟩ := exists_line line
  obtain ⟨content, read⟩ := exists_content realizes first
  obtain ⟨content', read'⟩ := exists_content realizes' second
  exact ⟨_, loadTwo_eq line_eq read read'⟩

end Two

section Three

variable {make : Int → α → β → γ → Node} (realizes : expected.Realizes shape store)
  (realizes' : expected'.Realizes shape' store')
  (realizes'' : expected''.Realizes shape'' store'')
include realizes realizes' realizes''

/-- A node with three parts beside its line takes all four. -/
theorem loadThree_takes
    (makes : ∀ line content content' content'',
      (make line content content' content'').typeName = type ∧
      storedPart? (make line content content' content'') "line" = some (.integer line) ∧
      storedPart? (make line content content' content'') name = some (store content) ∧
      storedPart? (make line content content' content'') name' = some (store' content') ∧
      storedPart? (make line content content' content'') name'' = some (store'' content''))
    (loaded : loadThree parts type name expected name' expected' name'' expected'' make = .ok node) :
    node.typeName = type ∧ Takes node parts
      [.line, ⟨name, shape, none⟩, ⟨name', shape', none⟩,
        ⟨name'', shape'', none⟩] := by
  simp only [loadThree, bind_eq_ok] at loaded
  obtain ⟨line, line_eq, content?, read, content?', read', content?'', read'', loaded⟩ := loaded
  cases content? with
  | none => cases loaded
  | some content =>
    cases content?' with
    | none => cases loaded
    | some content' =>
      cases content?'' with
      | none => cases loaded
      | some content'' =>
        obtain rfl := pure_eq_ok.mp loaded
        obtain ⟨typed, stored_line, stored, stored', stored''⟩ :=
          makes line content content' content''
        exact ⟨typed, .cons stored_line (gives_of_line line_eq)
          (.cons stored (gives_of_get realizes read)
            (.cons stored' (gives_of_get realizes' read')
              (.cons stored'' (gives_of_get realizes'' read'') .nil)))⟩

/-- A node with three parts beside its line is loaded once all four are given. -/
theorem exists_loadThree (line : ∃ kept, Part.line.Gives (parts.lookup "line") kept)
    (first : ∃ kept, Part.Gives ⟨name, shape, none⟩ (parts.lookup name) kept)
    (second : ∃ kept, Part.Gives ⟨name', shape', none⟩ (parts.lookup name') kept)
    (third : ∃ kept, Part.Gives ⟨name'', shape'', none⟩ (parts.lookup name'') kept) :
    ∃ node, loadThree parts type name expected name' expected' name'' expected'' make = .ok node := by
  obtain ⟨line, line_eq⟩ := exists_line line
  obtain ⟨content, read⟩ := exists_content realizes first
  obtain ⟨content', read'⟩ := exists_content realizes' second
  obtain ⟨content'', read''⟩ := exists_content realizes'' third
  exact ⟨_, loadThree_eq line_eq read read' read''⟩

end Three

end Parts

/-! ### Nodes of any type -/

section Nodes

variable {parts : Parts} {type : String} {node : Node} {part : Part} {declared : List Part}

open Expectation

/-- A declaration takes its name, and its value if there is one. -/
theorem loadDeclaration_takes (loaded : loadDeclaration parts type = .ok node) :
    node.typeName = "VarDecl" ∧ Takes node parts
      [.line, ⟨"name", .text, none⟩, ⟨"initializer", .optional .node, some .null⟩] := by
  simp only [loadDeclaration, bind_eq_ok] at loaded
  obtain ⟨line, line_eq, name?, read, initializer?, read', loaded⟩ := loaded
  cases name? with
  | none => cases loaded
  | some name =>
    obtain rfl := pure_eq_ok.mp loaded
    exact ⟨rfl, .cons rfl (gives_of_line line_eq) (.cons rfl (gives_of_get realizes_text read)
      (.cons rfl (gives_of_get_join realizes_optionalNode rfl read') .nil))⟩

/-- A `return` takes its value if there is one. -/
theorem loadReturning_takes (loaded : loadReturning parts type = .ok node) :
    node.typeName = "Return" ∧
      Takes node parts [.line, ⟨"value", .optional .node, some .null⟩] := by
  simp only [loadReturning, bind_eq_ok] at loaded
  obtain ⟨line, line_eq, value?, read, loaded⟩ := loaded
  obtain rfl := pure_eq_ok.mp loaded
  exact ⟨rfl, .cons rfl (gives_of_line line_eq)
    (.cons rfl (gives_of_get_join realizes_optionalNode rfl read) .nil)⟩

/-- A choice takes its condition and its body, and its other branch if there is one. -/
theorem loadConditional_takes (loaded : loadConditional parts type = .ok node) :
    node.typeName = "If" ∧ Takes node parts
      [.line, ⟨"condition", .node, none⟩, ⟨"then_branch", .list .node, none⟩,
        ⟨"else_branch", .optional (.list .node), some .null⟩] := by
  simp only [loadConditional, bind_eq_ok] at loaded
  obtain ⟨line, line_eq, condition?, read, thenBranch?, read', elseBranch?, read'', loaded⟩ := loaded
  cases condition? with
  | none => cases loaded
  | some condition =>
    cases thenBranch? with
    | none => cases loaded
    | some thenBranch =>
      obtain rfl := pure_eq_ok.mp loaded
      exact ⟨rfl, .cons rfl (gives_of_line line_eq) (.cons rfl (gives_of_get realizes_node read)
        (.cons rfl (gives_of_get realizes_nodes read')
          (.cons rfl (gives_of_get_join realizes_optionalNodes rfl read'') .nil)))⟩

/-- A loop with a heading takes the parts of the heading, none of which may be left out, and its
body. -/
theorem loadForLoop_takes (loaded : loadForLoop parts type = .ok node) :
    node.typeName = "For" ∧ Takes node parts
      [.line, ⟨"init", .optional .node, none⟩, ⟨"condition", .optional .node, none⟩,
        ⟨"step", .optional .node, none⟩, ⟨"body", .list .node, none⟩] := by
  simp only [loadForLoop, bind_eq_ok] at loaded
  obtain ⟨line, line_eq, start?, read, condition?, read', step?, read'', body?, read''', loaded⟩ :=
    loaded
  obtain ⟨start, rfl, condition, rfl, step, rfl, body, rfl, node_eq⟩ :
      ∃ start, start? = some start ∧ ∃ condition, condition? = some condition ∧
        ∃ step, step? = some step ∧ ∃ body, body? = some body ∧
          pure (Node.forLoop line start condition step body) = Except.ok node := by
    split at loaded
    next => exact ⟨_, rfl, _, rfl, _, rfl, _, rfl, loaded⟩
    next => cases loaded
  obtain rfl := pure_eq_ok.mp node_eq
  exact ⟨rfl, .cons rfl (gives_of_line line_eq) (.cons rfl (gives_of_get realizes_optionalNode read)
    (.cons rfl (gives_of_get realizes_optionalNode read')
      (.cons rfl (gives_of_get realizes_optionalNode read'')
        (.cons rfl (gives_of_get realizes_nodes read''') .nil))))⟩

/-- A node without parts takes its line. -/
theorem loadBare_takes {make : Int → Node} (stored : ∀ line,
      storedPart? (make line) "line" = some (.integer line))
    (loaded : (do return make (← parts.line type) : Except LoadFailure Node) = .ok node) :
    ∃ line, node = make line ∧ Takes node parts [.line] := by
  obtain ⟨line, line_eq, loaded⟩ := bind_eq_ok.mp loaded
  obtain rfl := pure_eq_ok.mp loaded
  exact ⟨line, rfl, .cons (stored line) (gives_of_line line_eq) .nil⟩

/-- A node that is loaded is of the type that is named, and its parts are what is given. -/
theorem loadNode_takes (loaded : loadNode type parts = .ok node) :
    ∃ declared, declared? type = some declared ∧ node.typeName = type ∧
      Takes node parts declared := by
  unfold loadNode at loaded
  -- One case for each type, in the order of the loader.
  split at loaded
  case h_1 => exact ⟨_, rfl, loadOne_takes realizes_nodes (fun _ _ => ⟨rfl, rfl, rfl⟩) loaded⟩
  case h_2 => exact ⟨_, rfl, loadOne_takes realizes_integer (fun _ _ => ⟨rfl, rfl, rfl⟩) loaded⟩
  case h_3 => exact ⟨_, rfl, loadOne_takes realizes_float (fun _ _ => ⟨rfl, rfl, rfl⟩) loaded⟩
  case h_4 | h_5 =>
    exact ⟨_, rfl, loadOne_takes realizes_text (fun _ _ => ⟨rfl, rfl, rfl⟩) loaded⟩
  case h_6 =>
    exact ⟨_, rfl, loadThree_takes realizes_text realizes_node realizes_node
      (fun _ _ _ _ => ⟨rfl, rfl, rfl, rfl, rfl⟩) loaded⟩
  case h_7 =>
    exact ⟨_, rfl, loadTwo_takes realizes_text realizes_node
      (fun _ _ _ => ⟨rfl, rfl, rfl, rfl⟩) loaded⟩
  case h_8 =>
    exact ⟨_, rfl, loadTwo_takes realizes_text realizes_nodes
      (fun _ _ _ => ⟨rfl, rfl, rfl, rfl⟩) loaded⟩
  case h_9 =>
    exact ⟨_, rfl, loadThree_takes realizes_text realizes_texts realizes_nodes
      (fun _ _ _ _ => ⟨rfl, rfl, rfl, rfl, rfl⟩) loaded⟩
  case h_10 => exact ⟨_, rfl, loadDeclaration_takes loaded⟩
  case h_11 => exact ⟨_, rfl, loadReturning_takes loaded⟩
  case h_12 | h_13 =>
    obtain ⟨line, rfl, takes⟩ := loadBare_takes (fun _ => rfl) loaded
    exact ⟨_, rfl, rfl, takes⟩
  case h_14 => exact ⟨_, rfl, loadConditional_takes loaded⟩
  case h_15 | h_16 =>
    exact ⟨_, rfl, loadTwo_takes realizes_node realizes_nodes
      (fun _ _ _ => ⟨rfl, rfl, rfl, rfl⟩) loaded⟩
  case h_17 => exact ⟨_, rfl, loadForLoop_takes loaded⟩
  case h_18 => exact ⟨_, rfl, loadOne_takes realizes_nodes (fun _ _ => ⟨rfl, rfl, rfl⟩) loaded⟩
  case h_19 => cases loaded

/-- Something can be kept for each part that a type declares. -/
def AreKept (parts : Parts) (declared : List Part) : Prop :=
  ∀ part ∈ declared, ∃ kept, part.Gives (parts.lookup part.name) kept

/-- Of parts that are given, the first is. -/
theorem AreKept.head (kept : AreKept parts (part :: declared)) :
    ∃ kept, part.Gives (parts.lookup part.name) kept :=
  kept part List.mem_cons_self

/-- Of parts that are given, those after the first are. -/
theorem AreKept.tail (kept : AreKept parts (part :: declared)) : AreKept parts declared :=
  fun part mem => kept part (List.mem_cons_of_mem _ mem)

/-- A declaration is loaded once its parts are given. -/
theorem exists_loadDeclaration (kept : AreKept parts
      [.line, ⟨"name", .text, none⟩, ⟨"initializer", .optional .node, some .null⟩]) :
    ∃ node, loadDeclaration parts type = .ok node := by
  obtain ⟨line, line_eq⟩ := exists_line kept.head
  obtain ⟨name, read⟩ := exists_content realizes_text kept.tail.head
  obtain ⟨initializer?, read'⟩ := exists_get realizes_optionalNode kept.tail.tail.head
  exact ⟨_, by rw [loadDeclaration, line_eq, read, read']; rfl⟩

/-- A `return` is loaded once its parts are given. -/
theorem exists_loadReturning
    (kept : AreKept parts [.line, ⟨"value", .optional .node, some .null⟩]) :
    ∃ node, loadReturning parts type = .ok node := by
  obtain ⟨line, line_eq⟩ := exists_line kept.head
  obtain ⟨value?, read⟩ := exists_get realizes_optionalNode kept.tail.head
  exact ⟨_, by rw [loadReturning, line_eq, read]; rfl⟩

/-- A choice is loaded once its parts are given. -/
theorem exists_loadConditional (kept : AreKept parts
      [.line, ⟨"condition", .node, none⟩, ⟨"then_branch", .list .node, none⟩,
        ⟨"else_branch", .optional (.list .node), some .null⟩]) :
    ∃ node, loadConditional parts type = .ok node := by
  obtain ⟨line, line_eq⟩ := exists_line kept.head
  obtain ⟨condition, read⟩ := exists_content realizes_node kept.tail.head
  obtain ⟨thenBranch, read'⟩ := exists_content realizes_nodes kept.tail.tail.head
  obtain ⟨elseBranch?, read''⟩ := exists_get realizes_optionalNodes kept.tail.tail.tail.head
  exact ⟨_, by rw [loadConditional, line_eq, read, read', read'']; rfl⟩

/-- A loop with a heading is loaded once its parts are given. -/
theorem exists_loadForLoop (kept : AreKept parts
      [.line, ⟨"init", .optional .node, none⟩, ⟨"condition", .optional .node, none⟩,
        ⟨"step", .optional .node, none⟩, ⟨"body", .list .node, none⟩]) :
    ∃ node, loadForLoop parts type = .ok node := by
  obtain ⟨line, line_eq⟩ := exists_line kept.head
  obtain ⟨start, start_eq⟩ := exists_content realizes_optionalNode kept.tail.head
  obtain ⟨condition, condition_eq⟩ := exists_content realizes_optionalNode kept.tail.tail.head
  obtain ⟨step, step_eq⟩ := exists_content realizes_optionalNode kept.tail.tail.tail.head
  obtain ⟨body, body_eq⟩ := exists_content realizes_nodes kept.tail.tail.tail.tail.head
  exact ⟨_, loadForLoop_eq line_eq start_eq condition_eq step_eq body_eq⟩

/-- A node without parts is loaded once its line is given. -/
theorem exists_loadBare {make : Int → Node} (kept : AreKept parts [.line]) :
    ∃ node, (do return make (← parts.line type) : Except LoadFailure Node) = .ok node := by
  obtain ⟨line, line_eq⟩ := exists_line kept.head
  exact ⟨_, loadBare_eq line_eq⟩

/-- A node is loaded if something can be kept for each part that its type declares. -/
theorem exists_loadNode (declared_eq : declared? type = some declared)
    (kept : AreKept parts declared) : ∃ node, loadNode type parts = .ok node := by
  unfold declared? at declared_eq
  split at declared_eq <;> cases declared_eq
  case h_1 | h_2 => exact exists_loadOne realizes_nodes kept.head kept.tail.head
  case h_3 => exact exists_loadOne realizes_integer kept.head kept.tail.head
  case h_4 => exact exists_loadOne realizes_float kept.head kept.tail.head
  case h_5 | h_6 => exact exists_loadOne realizes_text kept.head kept.tail.head
  case h_7 =>
    exact exists_loadThree realizes_text realizes_node realizes_node kept.head kept.tail.head
      kept.tail.tail.head kept.tail.tail.tail.head
  case h_8 =>
    exact exists_loadTwo realizes_text realizes_node kept.head kept.tail.head kept.tail.tail.head
  case h_9 =>
    exact exists_loadTwo realizes_text realizes_nodes kept.head kept.tail.head kept.tail.tail.head
  case h_10 =>
    exact exists_loadThree realizes_text realizes_texts realizes_nodes kept.head kept.tail.head
      kept.tail.tail.head kept.tail.tail.tail.head
  case h_11 => exact exists_loadDeclaration kept
  case h_12 => exact exists_loadReturning kept
  case h_13 | h_14 => exact exists_loadBare kept
  case h_15 => exact exists_loadConditional kept
  case h_16 | h_17 =>
    exact exists_loadTwo realizes_node realizes_nodes kept.head kept.tail.head kept.tail.tail.head
  case h_18 => exact exists_loadForLoop kept

end Nodes

end Scriptlet.Document
