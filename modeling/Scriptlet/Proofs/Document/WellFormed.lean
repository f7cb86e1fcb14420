import Mathlib
import Scriptlet.Proofs.Document.Declaration
import Scriptlet.Proofs.Node.All

/-! # Well-formed documents

Which documents are loaded.  A document is well-formed if its objects name types of nodes and give the
parts that these declare: each part that is given is well-formed and is what the declaration says, and
none is left out that must be given.  Other entries may hold anything, for they are passed over.  An
integer counts as a double, unless it is past all doubles.

Main definitions:

* `IsWellFormed`: the documents that are loaded.
* `Oversizes`: a document gives an integer past all doubles for a double.
* `IsTakenFrom`: the parts of a node are what an object of a document gives.

Main statements:

* `isWellFormed_of_load`, `exists_load`: what is loaded is well-formed, and the other way round.
* `isTakenFrom_of_load`: all nodes that are loaded are taken from the document.
* `loads_wellFormed`: all of them. -/

namespace Scriptlet.Document

open Grammar (bind_eq_ok pure_eq_ok)

/-! ## Documents -/

/-- A document that is loaded: a scalar, a list of such documents, or an object that gives the parts
that its type declares. -/
inductive IsWellFormed : Json → Prop
  | null : IsWellFormed .null
  | boolean (value : Bool) : IsWellFormed (.boolean value)
  | integer (value : Int) : IsWellFormed (.integer value)
  | float (value : Float) : IsWellFormed (.float value)
  | string (value : String) : IsWellFormed (.string value)
  | array {items : List Json} (each : ∀ json ∈ items, IsWellFormed json) :
      IsWellFormed (.array items)
  | object {entries : List (String × Json)} {name : String} {parts : List Part}
      (named : entries.lookup "type" = some (.string name)) (declared : declared? name = some parts)
      (each : ∀ part ∈ parts, ∀ json, entries.lookup part.name = some json → IsWellFormed json)
      (accepted : ∀ part ∈ parts, ∀ json, entries.lookup part.name = some json →
        part.shape.Accepts json)
      (complete : ∀ part ∈ parts, part.absent? = none →
        ∃ json, entries.lookup part.name = some json) : IsWellFormed (.object entries)

/-- A document gives an integer past all doubles for a double, in a place that is not passed over. -/
inductive Oversizes : Json → Prop
  | array {items : List Json} {json : Json} (mem : json ∈ items) (oversizes : Oversizes json) :
      Oversizes (.array items)
  | object {entries : List (String × Json)} {name : String} {parts : List Part} {part : Part}
      {json : Json} (named : entries.lookup "type" = some (.string name))
      (declared : declared? name = some parts) (mem : part ∈ parts)
      (given : entries.lookup part.name = some json) (oversizes : Oversizes json) :
      Oversizes (.object entries)
  | here {entries : List (String × Json)} {name : String} {parts : List Part} {part : Part}
      {integer : Int} (named : entries.lookup "type" = some (.string name))
      (declared : declared? name = some parts) (mem : part ∈ parts)
      (double : part.shape = .float) (given : entries.lookup part.name = some (.integer integer))
      (large : Decimal.pastDoubles ≤ integer.natAbs) : Oversizes (.object entries)

/-- A document stands in a document, which may be the same one. -/
inductive Within (inner : Json) : Json → Prop
  | here : Within inner inner
  | array {items : List Json} {json : Json} (mem : json ∈ items) (within : Within inner json) :
      Within inner (.array items)
  | object {entries : List (String × Json)} {name : String} {json : Json}
      (given : entries.lookup name = some json) (within : Within inner json) :
      Within inner (.object entries)

section Documents

variable {shape : Shape} {json : Json} {jsons : List Json} {item : Item}
  {items : List Item} {entries : List (String × Json)} {name : String} {tree child : Node}

/-- An entry is smaller than the object that gives it, so that documents can be followed inwards. -/
theorem sizeOf_lt_of_lookup (given : entries.lookup name = some json) :
    sizeOf json < sizeOf entries := by
  obtain ⟨before, after, rfl, -⟩ := List.lookup_eq_some_iff.mp given
  have smaller := List.sizeOf_lt_of_mem (List.mem_append_right before (List.mem_cons_self
    (a := (name, json)) (l := after)))
  simp only [Prod.mk.sizeOf_spec] at smaller
  omega

/-- A part is loaded by itself. -/
theorem lookup_loadParts (entries : List (String × Json)) (name : String) :
    (loadParts entries).lookup name = (entries.lookup name).map load := by
  induction entries with
  | nil => rfl
  | cons entry entries ih =>
    obtain ⟨key, value⟩ := entry
    rw [loadParts, List.lookup_cons, List.lookup_cons, ih]
    split <;> rfl

/-- Items are loaded one by one. -/
theorem forall₂_of_loadItems (loaded : loadItems jsons = .ok items) :
    List.Forall₂ (fun json item => load json = .ok item) jsons items := by
  induction jsons generalizing items with
  | nil =>
    obtain rfl := Except.ok.inj loaded
    exact .nil
  | cons json jsons ih =>
    simp only [loadItems, bind_eq_ok, pure_eq_ok] at loaded
    obtain ⟨item, first, items, rest, rfl⟩ := loaded
    exact .cons first (ih rest)

/-- Items that can be loaded one by one are loaded. -/
theorem exists_loadItems (each : ∀ json ∈ jsons, ∃ item, load json = .ok item) :
    ∃ items, loadItems jsons = .ok items := by
  induction jsons with
  | nil => exact ⟨[], rfl⟩
  | cons json jsons ih =>
    obtain ⟨⟨item, first⟩, later⟩ := List.forall_mem_cons.mp each
    obtain ⟨items, rest⟩ := ih later
    exact ⟨item :: items, loadItems_cons first rest⟩

/-- An array is loaded as a list of its items. -/
theorem exists_of_load_array (loaded : load (.array jsons) = .ok item) :
    ∃ items, item = .list items ∧
      List.Forall₂ (fun json item => load json = .ok item) jsons items := by
  simp only [load, bind_eq_ok, pure_eq_ok] at loaded
  obtain ⟨items, each, rfl⟩ := loaded
  exact ⟨items, rfl, forall₂_of_loadItems each⟩

/-- A type that is named is an entry. -/
theorem typeName_eq_ok (named : typeName entries = .ok name) :
    entries.lookup "type" = some (.string name) := by
  rw [typeName] at named
  split at named <;> cases named
  assumption

/-- What is loaded from an object is a node of the type that is named, and its parts are what is
given. -/
theorem exists_of_load_object (loaded : load (.object entries) = .ok item) :
    ∃ tree declared, item = .node tree ∧ entries.lookup "type" = some (.string tree.typeName) ∧
      declared? tree.typeName = some declared ∧ Takes tree (loadParts entries) declared := by
  simp only [load, bind_eq_ok, pure_eq_ok] at loaded
  obtain ⟨type, named, tree, loaded, rfl⟩ := loaded
  obtain ⟨declared, declared_eq, rfl, takes⟩ := loadNode_takes loaded
  exact ⟨tree, declared, rfl, typeName_eq_ok named, declared_eq, takes⟩

/-- Only an integer is loaded as one. -/
theorem eq_of_load_integer {value : Int} (loaded : load json = .ok (.integer value)) :
    json = .integer value := by
  cases json with
  | integer =>
    obtain ⟨⟩ := loaded
    rfl
  | array =>
    obtain ⟨_, ⟨⟩, -⟩ := exists_of_load_array loaded
  | object =>
    obtain ⟨_, _, ⟨⟩, -⟩ := exists_of_load_object loaded
  | null | boolean | float | string => cases loaded

/-- Only nothing is loaded as nothing. -/
theorem load_eq_null_iff (loaded : load json = .ok item) : item.toJson = .null ↔ json = .null := by
  cases json with
  | null | boolean | integer | float | string =>
    obtain ⟨⟩ := loaded
    rfl
  | array =>
    obtain ⟨items, rfl, -⟩ := exists_of_load_array loaded
    simp [Item.toJson]
  | object =>
    obtain ⟨tree, declared, rfl, -⟩ := exists_of_load_object loaded
    obtain ⟨entries, stored⟩ := exists_object tree
    simp [Item.toJson, stored]

/-- What is loaded is of a shape if and only if its document is. -/
theorem matches_load_iff (loaded : load json = .ok item) :
    shape.Matches item.toJson ↔ shape.Matches json := by
  induction shape generalizing json item with
  | integer | float | text | node =>
    cases json with
    | null | boolean | integer | float | string =>
      obtain ⟨⟩ := loaded
      rfl
    | array =>
      obtain ⟨items, rfl, -⟩ := exists_of_load_array loaded
      rfl
    | object =>
      -- A node is stored as an object, as what it is loaded from is one.
      obtain ⟨tree, declared, rfl, -⟩ := exists_of_load_object loaded
      obtain ⟨entries, stored⟩ := exists_object tree
      rw [Item.toJson, stored]
      rfl
  | list shape ih =>
    cases json with
    | null | boolean | integer | float | string =>
      obtain ⟨⟩ := loaded
      rfl
    | array =>
      obtain ⟨items, rfl, each⟩ := exists_of_load_array loaded
      show (∀ json ∈ Item.toJsons items, shape.Matches json) ↔ _
      rw [itemToJsons_eq, List.forall_mem_map]
      show _ ↔ ∀ json ∈ _, shape.Matches json
      -- What is said of the whole array has to go before the induction on its items.
      clear loaded
      induction each with
      | nil => simp
      | cons first _ rest => rw [List.forall_mem_cons, List.forall_mem_cons, ih first, rest]
    | object =>
      obtain ⟨tree, declared, rfl, -⟩ := exists_of_load_object loaded
      obtain ⟨entries, stored⟩ := exists_object tree
      rw [Item.toJson, stored]
      rfl
  | optional shape ih =>
    rw [matches_optional_iff, matches_optional_iff, ih loaded, load_eq_null_iff loaded]

/-- What a shape keeps, it accepts. -/
theorem accepts_of_keeps {kept : Json} (loaded : load json = .ok item)
    (keeps : shape.Keeps item kept) : shape.Accepts json := by
  obtain ⟨fits, rfl | ⟨double, integer, number, rfl, -, -⟩⟩ := keeps
  · exact .inl ((matches_load_iff loaded).mp fits)
  · exact .inr ⟨double, integer, eq_of_load_integer loaded⟩

/-- What a part accepts can be kept, unless it is an integer past all doubles. -/
theorem exists_keeps (loaded : load json = .ok item) (accepts : shape.Accepts json)
    (small : ∀ integer, shape = .float → json = .integer integer →
      integer.natAbs < Decimal.pastDoubles) : ∃ kept, shape.Keeps item kept := by
  obtain fits | ⟨double, integer, rfl⟩ := accepts
  · exact ⟨item.toJson, (matches_load_iff loaded).mpr fits, .inl rfl⟩
  · obtain ⟨⟩ := loaded
    cases found : Decimal.ofInteger? integer with
    | none =>
      have large := Decimal.ofInteger?_eq_none_iff.mp found
      have := small integer double rfl
      omega
    | some number =>
      subst double
      exact ⟨.float number, trivial, .inr ⟨rfl, integer, number, rfl, found, rfl⟩⟩

/-- Each document in an array is loaded as an item. -/
theorem exists_load_of_forall₂
    (each : List.Forall₂ (fun json item => load json = .ok item) jsons items) :
    ∀ json ∈ jsons, ∃ item ∈ items, load json = .ok item := by
  induction each with
  | nil => nofun
  | cons first _ ih =>
    refine List.forall_mem_cons.mpr ⟨⟨_, List.mem_cons_self, first⟩, fun json mem => ?_⟩
    obtain ⟨item, mem, loaded⟩ := ih json mem
    exact ⟨item, List.mem_cons_of_mem _ mem, loaded⟩

/-- Each item is loaded from a document in the array. -/
theorem exists_document_of_forall₂
    (each : List.Forall₂ (fun json item => load json = .ok item) jsons items) (mem : item ∈ items) :
    ∃ json ∈ jsons, load json = .ok item := by
  induction each with
  | nil => cases mem
  | cons first _ ih =>
    obtain rfl | mem := List.mem_cons.mp mem
    · exact ⟨_, List.mem_cons_self, first⟩
    · obtain ⟨json, mem, loaded⟩ := ih mem
      exact ⟨json, List.mem_cons_of_mem _ mem, loaded⟩

/-! ### Parts that are taken from documents -/

section Taken

variable {part : Part} {declared : List Part} (takes : Takes tree (loadParts entries) declared)
  (mem : part ∈ declared)
include takes mem

/-- A part that is given is loaded and kept. -/
theorem Takes.keeps (given : entries.lookup part.name = some json) :
    ∃ item kept, load json = .ok item ∧ part.shape.Keeps item kept := by
  obtain ⟨kept, -, gives⟩ := takes part mem
  rw [lookup_loadParts, given] at gives
  obtain ⟨item, loaded, keeps⟩ := gives
  exact ⟨item, kept, loaded, keeps⟩

/-- A part that must be given is given. -/
theorem Takes.isGiven (needed : part.absent? = none) :
    ∃ json, entries.lookup part.name = some json := by
  obtain ⟨kept, -, gives⟩ := takes part mem
  rw [lookup_loadParts] at gives
  cases given : entries.lookup part.name with
  | none =>
    rw [given] at gives
    have absent : part.absent? = some kept := gives
    rw [needed] at absent
    cases absent
  | some json => exact ⟨json, rfl⟩

/-- An integer that is taken for a double is not past all doubles. -/
theorem Takes.isSmall (double : part.shape = .float) {integer : Int}
    (given : entries.lookup part.name = some (.integer integer)) :
    integer.natAbs < Decimal.pastDoubles := by
  by_contra large
  obtain ⟨item, kept, ⟨⟩, fits, rfl | ⟨-, _, number, ⟨⟩, found, -⟩⟩ := takes.keeps mem given
  · rw [double] at fits
    exact fits
  · rw [Decimal.ofInteger?_eq_none_iff.mpr (not_lt.mp large)] at found
    cases found

end Taken

end Documents

/-! ### What is loaded -/

/-- What is loaded is well-formed, and has no integer past all doubles for a double. -/
theorem isWellFormed_of_load {json : Json} {item : Item} (loaded : load json = .ok item) :
    IsWellFormed json ∧ ¬Oversizes json := by
  match json with
  | .null => exact ⟨.null, nofun⟩
  | .boolean value => exact ⟨.boolean value, nofun⟩
  | .integer value => exact ⟨.integer value, nofun⟩
  | .float value => exact ⟨.float value, nofun⟩
  | .string value => exact ⟨.string value, nofun⟩
  | .array jsons =>
    obtain ⟨items, rfl, each⟩ := exists_of_load_array loaded
    have all : ∀ json ∈ jsons, IsWellFormed json ∧ ¬Oversizes json := by
      intro json mem
      obtain ⟨item, -, loaded⟩ := exists_load_of_forall₂ each json mem
      have := List.sizeOf_lt_of_mem mem
      exact isWellFormed_of_load loaded
    refine ⟨.array fun json mem => (all json mem).1, ?_⟩
    rintro (⟨mem, oversizes⟩ | _ | _)
    exact (all _ mem).2 oversizes
  | .object entries =>
    obtain ⟨tree, declared, rfl, named, declared_eq, takes⟩ := exists_of_load_object loaded
    -- Every part that is given is loaded in its turn, and is smaller than the object.
    have all {part : Part} (mem : part ∈ declared) {json : Json}
        (given : entries.lookup part.name = some json) :
        IsWellFormed json ∧ ¬Oversizes json := by
      obtain ⟨item, kept, loaded, -⟩ := takes.keeps mem given
      have := sizeOf_lt_of_lookup given
      exact isWellFormed_of_load loaded
    constructor
    · refine .object named declared_eq (fun part mem json given => (all mem given).1) ?_
        fun part mem => takes.isGiven mem
      intro part mem json given
      obtain ⟨item, kept, loaded, keeps⟩ := takes.keeps mem given
      exact accepts_of_keeps loaded keeps
    · rintro (_ | ⟨named', declared_eq', mem, given, oversizes⟩ |
        ⟨named', declared_eq', mem, double, given, large⟩)
      · -- An object has one type, so the parts that are too large are among those of this type.
        obtain ⟨⟩ := named.symm.trans named'
        obtain ⟨⟩ := declared_eq.symm.trans declared_eq'
        exact (all mem given).2 oversizes
      · obtain ⟨⟩ := named.symm.trans named'
        obtain ⟨⟩ := declared_eq.symm.trans declared_eq'
        exact absurd (takes.isSmall mem double given) (not_lt.mpr large)
termination_by sizeOf json

/-- A well-formed document is loaded, unless it has an integer past all doubles for a double. -/
theorem exists_load {json : Json} (wellFormed : IsWellFormed json) (small : ¬Oversizes json) :
    ∃ item, load json = .ok item := by
  induction wellFormed with
  | null | boolean | integer | float | string => exact ⟨_, rfl⟩
  | @array jsons each ih =>
    obtain ⟨items, loaded⟩ := exists_loadItems fun json mem =>
      ih json mem fun oversizes => small (.array mem oversizes)
    exact ⟨_, load_array loaded⟩
  | @object entries name declared named declared_eq each accepted complete ih =>
    -- A part that is not given has something to stand for it; one that is given is loaded by
    -- induction.
    have kept : AreKept (loadParts entries) declared := by
      intro part mem
      rw [lookup_loadParts]
      cases given : entries.lookup part.name with
      | none =>
        have absent : part.absent? ≠ none := by
          intro needed
          obtain ⟨json, given'⟩ := complete part mem needed
          rw [given] at given'
          cases given'
        exact Option.ne_none_iff_exists'.mp absent
      | some json =>
        obtain ⟨item, loaded⟩ := ih part mem json given fun oversizes =>
          small (.object named declared_eq mem given oversizes)
        obtain ⟨kept, keeps⟩ := exists_keeps loaded (accepted part mem json given)
          fun integer double json_eq => by
            -- An integer for a double that is past all doubles is what was excluded.
            by_contra large
            subst json_eq
            exact small (.here named declared_eq mem double given (not_lt.mp large))
        exact ⟨kept, item, loaded, keeps⟩
    obtain ⟨tree, loaded⟩ := exists_loadNode declared_eq kept
    have named' : typeName entries = .ok name := by rw [typeName, named]
    exact ⟨.node tree, by simp only [load, named', bind_eq_ok]; exact ⟨_, rfl, _, loaded, rfl⟩⟩

/-! ### What nodes are made of -/

/-- A node is taken from an object that stands in a document: the object names its type, and each part
that the type declares is of its shape, and is what the object gives. -/
def IsTakenFrom (json : Json) (node : Node) : Prop :=
  ∃ entries declared, Within (.object entries) json ∧
    entries.lookup "type" = some (.string node.typeName) ∧
    declared? node.typeName = some declared ∧
    ∀ part ∈ declared, ∃ kept, storedPart? node part.name = some kept ∧
      part.shape.Matches kept ∧ part.Gives ((entries.lookup part.name).map load) kept

/-- What is within a part is within the whole. -/
theorem Within.trans {inner middle outer : Json} (within : Within inner middle)
    (within' : Within middle outer) : Within inner outer := by
  induction within' with
  | here => exact within
  | array mem _ ih => exact .array mem ih
  | object given _ ih => exact .object given ih

/-- A node taken from a part is taken from the whole. -/
theorem IsTakenFrom.mono {json outer : Json} {node : Node} (taken : IsTakenFrom json node)
    (within : Within json outer) : IsTakenFrom outer node := by
  obtain ⟨entries, declared, inside, rest⟩ := taken
  exact ⟨entries, declared, inside.trans within, rest⟩

/-- Only the line and parts that may be nothing need not be given. -/
theorem absent?_cases {type : String} {declared : List Part}
    (declared_eq : declared? type = some declared) :
    ∀ part ∈ declared, part = .line ∨ part.absent? = none ∨
      part.absent? = some .null ∧ ∃ content, part.shape = .optional content := by
  unfold declared? at declared_eq
  split at declared_eq <;> cases declared_eq <;> simp

/-- A stored part is a node, or a list in which the node stands. -/
def Holds (kept : Json) (node : Node) : Prop :=
  kept = node.toJson ∨ ∃ jsons, kept = .array jsons ∧ node.toJson ∈ jsons

/-- Scalars hold no nodes. -/
theorem not_holds_of_ne {kept : Json} (not_object : ∀ entries, kept ≠ .object entries)
    (not_array : ∀ jsons, kept ≠ .array jsons) (node : Node) : ¬Holds kept node := by
  rintro (stored | ⟨jsons, stored, -⟩)
  · obtain ⟨entries, node_stored⟩ := exists_object node
    exact not_object entries (stored.trans node_stored)
  · exact not_array jsons stored

/-- What a part is if it is not given is of its shape, and holds no node. -/
theorem matches_absent {type : String} {declared : List Part} {part : Part} {kept : Json}
    (declared_eq : declared? type = some declared) (mem : part ∈ declared)
    (absent : part.absent? = some kept) :
    part.shape.Matches kept ∧ ∀ node, ¬Holds kept node := by
  obtain rfl | needed | ⟨nothing, content, shape_eq⟩ := absent?_cases declared_eq part mem
  · obtain rfl := Option.some.inj absent
    exact ⟨trivial, not_holds_of_ne nofun nofun⟩
  · rw [needed] at absent
    cases absent
  · obtain rfl := Option.some.inj (nothing.symm.trans absent)
    rw [shape_eq]
    exact ⟨trivial, not_holds_of_ne nofun nofun⟩

section Children

variable {node child : Node}

/-- A list of nodes holds each of them. -/
theorem holds_nodes {nodes : List Node} (mem : child ∈ nodes) :
    Holds (.array (Node.toJsons nodes)) child :=
  .inr ⟨_, rfl, nodeToJsons_eq nodes ▸ List.mem_map_of_mem mem⟩

/-- A node that may be missing is held if it is there. -/
theorem holds_option {value : Option Node} (mem : child ∈ value.toList) :
    Holds (Node.toJson? value) child := by
  obtain rfl := Option.mem_toList.mp mem
  exact .inl rfl

/-- A branch that may be missing holds its nodes. -/
theorem holds_branch {branch : Option (List Node)} (mem : child ∈ branch.getD []) :
    Holds (Node.toJsons? branch) child := by
  cases branch with
  | none => cases mem
  | some branch => exact holds_nodes mem

/-- A child of a node stands in a part that its type declares. -/
theorem exists_holds {declared : List Part} (declared_eq : declared? node.typeName = some declared)
    (mem : child ∈ node.children) :
    ∃ part ∈ declared, ∃ kept, storedPart? node part.name = some kept ∧ Holds kept child := by
  cases node with
  | program line body | block line body =>
    -- Each way to be a child names the part it comes from, counted from the line on.
    cases declared_eq
    exact ⟨_, .tail _ (.head _), _, rfl, holds_nodes mem⟩
  | integer | float | text | reference | breaking | continuing => cases mem
  | binary line operator left right =>
    cases declared_eq
    obtain rfl | rfl : child = left ∨ child = right := by simpa [Node.children] using mem
    · exact ⟨_, .tail _ (.tail _ (.head _)), _, rfl, .inl rfl⟩
    · exact ⟨_, .tail _ (.tail _ (.tail _ (.head _))), _, rfl, .inl rfl⟩
  | unary line operator operand =>
    cases declared_eq
    obtain rfl : child = operand := by simpa [Node.children] using mem
    exact ⟨_, .tail _ (.tail _ (.head _)), _, rfl, .inl rfl⟩
  | call line callee arguments =>
    cases declared_eq
    exact ⟨_, .tail _ (.tail _ (.head _)), _, rfl, holds_nodes mem⟩
  | function line name parameters body =>
    cases declared_eq
    exact ⟨_, .tail _ (.tail _ (.tail _ (.head _))), _, rfl, holds_nodes mem⟩
  | declaration line name initializer =>
    cases declared_eq
    exact ⟨_, .tail _ (.tail _ (.head _)), _, rfl, holds_option mem⟩
  | returning line value =>
    cases declared_eq
    exact ⟨_, .tail _ (.head _), _, rfl, holds_option mem⟩
  | conditional line condition thenBranch elseBranch =>
    cases declared_eq
    obtain rfl | mem := List.mem_cons.mp mem
    · exact ⟨_, .tail _ (.head _), _, rfl, .inl rfl⟩
    · obtain mem | mem := List.mem_append.mp mem
      · exact ⟨_, .tail _ (.tail _ (.head _)), _, rfl, holds_nodes mem⟩
      · exact ⟨_, .tail _ (.tail _ (.tail _ (.head _))), _, rfl, holds_branch mem⟩
  | whileLoop line condition body | doLoop line condition body =>
    cases declared_eq
    obtain rfl | mem := List.mem_cons.mp mem
    · exact ⟨_, .tail _ (.head _), _, rfl, .inl rfl⟩
    · exact ⟨_, .tail _ (.tail _ (.head _)), _, rfl, holds_nodes mem⟩
  | forLoop line start condition step body =>
    cases declared_eq
    obtain mem | mem := List.mem_append.mp mem
    · exact ⟨_, .tail _ (.head _), _, rfl, holds_option mem⟩
    · obtain mem | mem := List.mem_append.mp mem
      · exact ⟨_, .tail _ (.tail _ (.head _)), _, rfl, holds_option mem⟩
      · obtain mem | mem := List.mem_append.mp mem
        · exact ⟨_, .tail _ (.tail _ (.tail _ (.head _))), _, rfl, holds_option mem⟩
        · exact ⟨_, .tail _ (.tail _ (.tail _ (.tail _ (.head _)))), _, rfl, holds_nodes mem⟩

/-- An item is the node in whose document it is stored. -/
theorem eq_node {item : Item} (stored : item.toJson = child.toJson) : item = .node child := by
  have loaded := load_itemToJson item
  rw [stored, load_toJson] at loaded
  exact (Except.ok.inj loaded).symm

/-- A node that stands in what is loaded from a document is loaded from a document within it. -/
theorem exists_within {json : Json} {item : Item} (loaded : load json = .ok item)
    (holds : Holds item.toJson child) :
    ∃ inner, Within inner json ∧ load inner = .ok (.node child) := by
  obtain stored | ⟨jsons, stored, mem⟩ := holds
  · obtain rfl := eq_node stored
    exact ⟨json, .here, loaded⟩
  · cases json with
    | null | boolean | integer | float | string =>
      obtain ⟨⟩ := loaded
      cases stored
    | array jsons' =>
      obtain ⟨items, rfl, each⟩ := exists_of_load_array loaded
      obtain rfl := Json.array.inj stored
      rw [itemToJsons_eq] at mem
      obtain ⟨item, mem, item_stored⟩ := List.mem_map.mp mem
      obtain rfl := eq_node item_stored
      obtain ⟨json, mem, loaded⟩ := exists_document_of_forall₂ each mem
      exact ⟨json, .array mem .here, loaded⟩
    | object =>
      obtain ⟨tree, declared, rfl, -⟩ := exists_of_load_object loaded
      obtain ⟨entries, tree_stored⟩ := exists_object tree
      rw [Item.toJson, tree_stored] at stored
      cases stored

/-- What is kept of an item holds no node that the item does not hold. -/
theorem holds_of_keeps {shape : Shape} {item : Item} {kept : Json}
    (keeps : shape.Keeps item kept) (holds : Holds kept child) : Holds item.toJson child := by
  obtain ⟨-, rfl | ⟨-, integer, number, -, -, rfl⟩⟩ := keeps
  · exact holds
  · exact (not_holds_of_ne (by nofun) (by nofun) child holds).elim

variable {entries : List (String × Json)} {declared : List Part}
  (declared_eq : declared? node.typeName = some declared)
  (takes : Takes node (loadParts entries) declared)
include declared_eq takes

/-- A node that takes its parts from an object of its type is taken from it. -/
theorem isTakenFrom_of_takes (named : entries.lookup "type" = some (.string node.typeName)) :
    IsTakenFrom (.object entries) node := by
  refine ⟨entries, declared, .here, named, declared_eq, fun part mem => ?_⟩
  obtain ⟨kept, stored, gives⟩ := takes part mem
  rw [lookup_loadParts] at gives
  refine ⟨kept, stored, ?_, gives⟩
  cases given : entries.lookup part.name with
  | none =>
    rw [given] at gives
    exact (matches_absent declared_eq mem gives).1
  | some json =>
    rw [given] at gives
    obtain ⟨item, -, fits, -⟩ := gives
    exact fits

/-- The children of a node are loaded from documents that stand in what is given for its parts. -/
theorem exists_within_of_mem_children (child_mem : child ∈ node.children) :
    ∃ inner, Within inner (.object entries) ∧ load inner = .ok (.node child) := by
  obtain ⟨part, mem, kept, stored, holds⟩ := exists_holds declared_eq child_mem
  obtain ⟨kept', stored', gives⟩ := takes part mem
  obtain rfl := Option.some.inj (stored.symm.trans stored')
  rw [lookup_loadParts] at gives
  cases given : entries.lookup part.name with
  | none =>
    rw [given] at gives
    exact absurd holds ((matches_absent declared_eq mem gives).2 child)
  | some json =>
    rw [given] at gives
    obtain ⟨item, loaded, keeps⟩ := gives
    obtain ⟨inner, within, child_loaded⟩ := exists_within loaded (holds_of_keeps keeps holds)
    exact ⟨inner, .object given within, child_loaded⟩

end Children

/-- Every node that a loaded node consists of is taken from an object that stands in the document. -/
theorem isTakenFrom_of_load {json : Json} {tree : Node} (loaded : load json = .ok (.node tree)) :
    tree.All (IsTakenFrom json) := by
  induction tree using Node.induction generalizing json with | step node ih =>
  cases json with
  | null | boolean | integer | float | string => cases loaded
  | array =>
    obtain ⟨items, ⟨⟩, -⟩ := exists_of_load_array loaded
  | object entries =>
    obtain ⟨_, declared, ⟨⟩, named, declared_eq, takes⟩ := exists_of_load_object loaded
    refine .intro (isTakenFrom_of_takes declared_eq takes named) fun child mem => ?_
    obtain ⟨inner, within, child_loaded⟩ := exists_within_of_mem_children declared_eq takes mem
    exact (ih child mem child_loaded).mono fun node taken => taken.mono within

/-- A document is loaded if and only if it is well-formed and has no integer past all doubles for a
double; and each node of a node that is loaded has all parts that its type declares, each of which is
of its shape and is what an object of the document gives. -/
theorem loads_wellFormed :
    (∀ json, (∃ item, load json = .ok item) ↔ IsWellFormed json ∧ ¬Oversizes json) ∧
    ∀ json tree, load json = .ok (.node tree) → tree.All (IsTakenFrom json) := by
  refine ⟨fun json => ⟨?_, ?_⟩, fun json tree => isTakenFrom_of_load⟩
  · rintro ⟨item, loaded⟩
    exact isWellFormed_of_load loaded
  · rintro ⟨wellFormed, small⟩
    exact exists_load wellFormed small

/-- A document with an integer for a double and with an entry that means nothing, which holds an object
that is no node. -/
def liberalDocument : Json :=
  .object [("type", .string "Return"), ("note", .object [("type", .string "Goto")]),
    ("value", .object [("value", .integer 3), ("type", .string "FloatLiteral")])]

/-- A document may give an integer for a double, and leave out what need not be given. -/
theorem liberalDocument_loads :
    (IsWellFormed liberalDocument ∧ ¬Oversizes liberalDocument) ∧
      load liberalDocument = .ok (.node (.returning 0 (some (.float 0 3)))) ∧
      (Node.returning 0 (some (.float 0 3))).All (IsTakenFrom liberalDocument) := by
  have three : Decimal.ofInteger? 3 = some 3 := by decide +kernel
  have loaded : load liberalDocument = .ok (.node (.returning 0 (some (.float 0 3)))) := by
    simp [liberalDocument, load, loadParts, typeName, loadNode, loadOne, loadReturning,
      Parts.line, Parts.get, List.lookup, Expectation.float, Expectation.optionalNode,
      Expectation.ofPartial, three, bind, Except.bind, pure, Except.pure]
  exact ⟨(loads_wellFormed.1 _).mp ⟨_, loaded⟩, loaded, loads_wellFormed.2 _ _ loaded⟩

end Scriptlet.Document
