import Scriptlet.Node.Basic

/-! # All nodes of a node

What a node consists of, down to its last parts, whatever these mean where they stand.

Main definitions:

* `Node.children`, `Node.nodes`: the nodes right below a node, and all that it consists of.
* `Node.All`: all nodes that a node consists of have a property. -/

namespace Scriptlet

/-- The nodes right below a node. -/
def Node.children : Node → List Node
  | .program _ body | .function _ _ _ body | .block _ body => body
  | .integer .. | .float .. | .text .. | .reference .. | .breaking _ | .continuing _ => []
  | .binary _ _ left right => [left, right]
  | .unary _ _ operand => [operand]
  | .call _ _ arguments => arguments
  | .declaration _ _ value | .returning _ value => value.toList
  | .conditional _ condition thenBranch elseBranch =>
    condition :: (thenBranch ++ elseBranch.getD [])
  | .whileLoop _ condition body | .doLoop _ condition body => condition :: body
  | .forLoop _ start condition step body =>
    start.toList ++ (condition.toList ++ (step.toList ++ body))

mutual

/-- The nodes that a node consists of, itself first. -/
def Node.nodes (node : Node) : List Node :=
  node :: match node with
    | .program _ body | .function _ _ _ body | .block _ body => Node.nodesOfAll body
    | .integer .. | .float .. | .text .. | .reference .. | .breaking _ | .continuing _ => []
    | .binary _ _ left right => left.nodes ++ right.nodes
    | .unary _ _ operand => operand.nodes
    | .call _ _ arguments => Node.nodesOfAll arguments
    | .declaration _ _ value | .returning _ value => Node.nodesOfOption value
    | .conditional _ condition thenBranch elseBranch =>
      condition.nodes ++ (Node.nodesOfAll thenBranch ++ Node.nodesOfBranch elseBranch)
    | .whileLoop _ condition body | .doLoop _ condition body =>
      condition.nodes ++ Node.nodesOfAll body
    | .forLoop _ start condition step body =>
      Node.nodesOfOption start ++ (Node.nodesOfOption condition ++
        (Node.nodesOfOption step ++ Node.nodesOfAll body))

/-- The nodes that several nodes consist of. -/
def Node.nodesOfAll : List Node → List Node
  | [] => []
  | node :: rest => node.nodes ++ Node.nodesOfAll rest

/-- The nodes that a node consists of, if there is one. -/
def Node.nodesOfOption : Option Node → List Node
  | none => []
  | some node => node.nodes

/-- The nodes that a branch consists of, if there is one. -/
def Node.nodesOfBranch : Option (List Node) → List Node
  | none => []
  | some branch => Node.nodesOfAll branch

end

namespace Node

/-- The nodes inside several are those inside each. -/
theorem nodesOfAll_eq (nodes : List Node) : nodesOfAll nodes = nodes.flatMap Node.nodes := by
  induction nodes with
  | nil => rfl
  | cons node rest ih => rw [nodesOfAll, List.flatMap_cons, ih]

/-- The nodes inside one that may be missing are those inside it if it is there. -/
theorem nodesOfOption_eq (node : Option Node) :
    nodesOfOption node = node.toList.flatMap Node.nodes := by
  cases node with
  | none => rfl
  | some node => simp [nodesOfOption]

/-- So it is with a branch that may be missing. -/
theorem nodesOfBranch_eq (branch : Option (List Node)) :
    nodesOfBranch branch = (branch.getD []).flatMap Node.nodes := by
  cases branch with
  | none => rfl
  | some branch => exact nodesOfAll_eq branch

/-- A node consists of itself and of what its children consist of. -/
theorem nodes_eq (node : Node) : node.nodes = node :: node.children.flatMap Node.nodes := by
  cases node <;>
    simp [nodes, children, nodesOfAll_eq, nodesOfOption_eq, nodesOfBranch_eq]

/-- A node is inside itself. -/
theorem mem_nodes_self (node : Node) : node ∈ node.nodes := by
  rw [nodes_eq]
  exact List.mem_cons_self

/-- What is inside a child is inside the node. -/
theorem nodes_subset_of_mem_children {node child : Node} (mem : child ∈ node.children) :
    child.nodes ⊆ node.nodes := by
  intro inner inside
  rw [nodes_eq]
  exact List.mem_cons_of_mem _ (List.mem_flatMap.mpr ⟨child, mem, inside⟩)

/-- A child consists of fewer nodes. -/
theorem length_nodes_lt_of_mem_children {node child : Node} (mem : child ∈ node.children) :
    child.nodes.length < node.nodes.length := by
  have sublist : child.nodes.Sublist (node.children.flatMap Node.nodes) := by
    rw [List.flatMap_def]
    exact List.sublist_flatten_of_mem (List.mem_map_of_mem mem)
  rw [nodes_eq node]
  exact Nat.lt_succ_of_le sublist.length_le

/-- What holds of a node as soon as it holds of its children holds of all nodes. -/
theorem induction {motive : Node → Prop}
    (step : ∀ node, (∀ child ∈ node.children, motive child) → motive node) (node : Node) :
    motive node :=
  -- nodes stand in lists and options of nodes, where the recursor of the type is of no use
  step node fun child _ => induction step child
termination_by node.nodes.length
decreasing_by exact length_nodes_lt_of_mem_children ‹_›

/-- All nodes that a node consists of have a property. -/
def All (property : Node → Prop) (node : Node) : Prop :=
  ∀ inner ∈ node.nodes, property inner

namespace All

variable {property : Node → Prop} {node inner : Node}

/-- What all nodes inside a node have, it has itself. -/
theorem here (all : node.All property) : property node :=
  all node node.mem_nodes_self

/-- What follows from it, all nodes inside have as well. -/
theorem mono {weaker : Node → Prop} (all : node.All property)
    (implies : ∀ inner, property inner → weaker inner) : node.All weaker :=
  fun inner inside => implies inner (all inner inside)

/-- All nodes inside a child have it. -/
theorem child (all : node.All property) (mem : inner ∈ node.children) : inner.All property :=
  fun _ inside => all _ (nodes_subset_of_mem_children mem inside)

/-- A node has a property throughout if it has the property itself and its children have it
throughout. -/
theorem intro (here : property node) (below : ∀ child ∈ node.children, child.All property) :
    node.All property := by
  intro inner inside
  rw [nodes_eq] at inside
  obtain rfl | further := List.mem_cons.mp inside
  · exact here
  · obtain ⟨child, mem, within⟩ := List.mem_flatMap.mp further
    exact below child mem inner within

end All

end Node

end Scriptlet
