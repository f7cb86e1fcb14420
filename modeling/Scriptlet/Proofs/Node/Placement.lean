import Scriptlet.Error
import Scriptlet.Proofs.Node.All

/-! # Where jumps stand

A jump out of a loop belongs inside the body of one, and a jump out of a function inside the body of
one; between a loop and the jumps out of it no function may begin.  What matters to a run is which
jumps a statement may end with: those that it has outside of the loops and the functions in it, since
a loop receives the jumps out of loops and a function all jumps.

Main definitions:

* `Node.isPlaced`: the jumps of a node are where they belong.
* `Node.jumps`: the jumps that a statement may end with.

Main statements: `Node.isAllowed_of_mem_jumps` and `Node.all_of_isPlaced`, what the place of jumps says
about the jumps that statements may end with. -/

namespace Scriptlet

/-- Whether a jump may stand in a place that is inside a loop or not, and inside a function or not. -/
def Jump.isAllowed (inLoop inFunction : Bool) : Jump → Bool
  | returning => inFunction
  | breaking | continuing => inLoop

/-! ## Places -/

mutual

/-- Whether the jumps of a node are where they belong, if it stands in a given place. -/
def Node.isPlaced (inLoop inFunction : Bool) : Node → Bool
  | .breaking _ => Jump.breaking.isAllowed inLoop inFunction
  | .continuing _ => Jump.continuing.isAllowed inLoop inFunction
  | .returning _ value =>
    Jump.returning.isAllowed inLoop inFunction && Node.optionIsPlaced inLoop inFunction value
  | .integer .. | .float .. | .text .. | .reference .. => true
  | .binary _ _ left right => left.isPlaced inLoop inFunction && right.isPlaced inLoop inFunction
  | .unary _ _ operand => operand.isPlaced inLoop inFunction
  | .call _ _ nodes | .program _ nodes | .block _ nodes => Node.arePlaced inLoop inFunction nodes
  | .function _ _ _ body => Node.arePlaced false true body
  | .declaration _ _ value => Node.optionIsPlaced inLoop inFunction value
  | .conditional _ condition thenBranch elseBranch =>
    condition.isPlaced inLoop inFunction && (Node.arePlaced inLoop inFunction thenBranch &&
      Node.branchIsPlaced inLoop inFunction elseBranch)
  | .whileLoop _ condition body | .doLoop _ condition body =>
    condition.isPlaced inLoop inFunction && Node.arePlaced true inFunction body
  | .forLoop _ start condition step body =>
    Node.optionIsPlaced inLoop inFunction start && (Node.optionIsPlaced inLoop inFunction condition &&
      (Node.optionIsPlaced inLoop inFunction step && Node.arePlaced true inFunction body))

/-- Whether the jumps of several nodes are where they belong. -/
def Node.arePlaced (inLoop inFunction : Bool) : List Node → Bool
  | [] => true
  | node :: rest => node.isPlaced inLoop inFunction && Node.arePlaced inLoop inFunction rest

/-- Whether the jumps of a node, if there is one, are where they belong. -/
def Node.optionIsPlaced (inLoop inFunction : Bool) : Option Node → Bool
  | none => true
  | some node => node.isPlaced inLoop inFunction

/-- Whether the jumps of a branch, if there is one, are where they belong. -/
def Node.branchIsPlaced (inLoop inFunction : Bool) : Option (List Node) → Bool
  | none => true
  | some branch => Node.arePlaced inLoop inFunction branch

end

namespace Node

variable {inLoop inFunction : Bool}

/-- Nodes are placed if each is. -/
theorem arePlaced_iff {nodes : List Node} : arePlaced inLoop inFunction nodes = true ↔
    ∀ node ∈ nodes, node.isPlaced inLoop inFunction = true := by
  induction nodes with
  | nil => simp [arePlaced]
  | cons node rest ih => simp [arePlaced, ih]

/-- A node that may be missing is placed if it is one that is. -/
theorem optionIsPlaced_iff {node : Option Node} : optionIsPlaced inLoop inFunction node = true ↔
    ∀ given ∈ node.toList, given.isPlaced inLoop inFunction = true := by
  cases node with
  | none => simp [optionIsPlaced]
  | some node => simp [optionIsPlaced]

/-- A branch that may be missing is placed if its nodes are. -/
theorem branchIsPlaced_iff {branch : Option (List Node)} :
    branchIsPlaced inLoop inFunction branch = true ↔
      ∀ node ∈ branch.getD [], node.isPlaced inLoop inFunction = true := by
  cases branch with
  | none => simp [branchIsPlaced]
  | some branch => simp [branchIsPlaced, arePlaced_iff]

/-- The children of a node are in places of their own. -/
theorem exists_isPlaced_of_mem_children {node child : Node}
    (placed : node.isPlaced inLoop inFunction = true) (mem : child ∈ node.children) :
    ∃ inLoop inFunction, child.isPlaced inLoop inFunction = true := by
  -- Where a child stands decides which jumps it may have: in a loop, in a function, in both.
  cases node with
  | integer | float | text | reference | breaking | continuing => cases mem
  | program | block | call => exact ⟨_, _, arePlaced_iff.mp placed child mem⟩
  | function => exact ⟨_, _, arePlaced_iff.mp placed child mem⟩
  | unary =>
    obtain rfl := List.mem_singleton.mp mem
    exact ⟨_, _, placed⟩
  | declaration => exact ⟨_, _, optionIsPlaced_iff.mp placed child mem⟩
  | returning =>
    obtain ⟨-, inside⟩ := Bool.and_eq_true_iff.mp placed
    exact ⟨_, _, optionIsPlaced_iff.mp inside child mem⟩
  | binary =>
    obtain ⟨left, right⟩ := Bool.and_eq_true_iff.mp placed
    simp only [children, List.mem_cons, List.not_mem_nil, or_false] at mem
    obtain rfl | rfl := mem
    · exact ⟨_, _, left⟩
    · exact ⟨_, _, right⟩
  | conditional =>
    obtain ⟨test, branches⟩ := Bool.and_eq_true_iff.mp placed
    obtain ⟨first, second⟩ := Bool.and_eq_true_iff.mp branches
    simp only [children, List.mem_cons, List.mem_append] at mem
    obtain rfl | mem | mem := mem
    · exact ⟨_, _, test⟩
    · exact ⟨_, _, arePlaced_iff.mp first child mem⟩
    · exact ⟨_, _, branchIsPlaced_iff.mp second child mem⟩
  | whileLoop | doLoop =>
    obtain ⟨test, body⟩ := Bool.and_eq_true_iff.mp placed
    obtain rfl | mem := List.mem_cons.mp mem
    · exact ⟨_, _, test⟩
    · exact ⟨_, _, arePlaced_iff.mp body child mem⟩
  | forLoop =>
    obtain ⟨start, heads⟩ := Bool.and_eq_true_iff.mp placed
    obtain ⟨test, steps⟩ := Bool.and_eq_true_iff.mp heads
    obtain ⟨step, body⟩ := Bool.and_eq_true_iff.mp steps
    simp only [children, List.mem_append] at mem
    obtain mem | mem | mem | mem := mem
    · exact ⟨_, _, optionIsPlaced_iff.mp start child mem⟩
    · exact ⟨_, _, optionIsPlaced_iff.mp test child mem⟩
    · exact ⟨_, _, optionIsPlaced_iff.mp step child mem⟩
    · exact ⟨_, _, arePlaced_iff.mp body child mem⟩

end Node

/-! ## Jumps that statements may end with -/

mutual

/-- The jumps that a statement may end with: those outside of the loops and the functions in it, but
a jump out of a function leaves the loops in it as well. -/
def Node.jumps : Node → List Jump
  | .breaking _ => [.breaking]
  | .continuing _ => [.continuing]
  | .returning _ _ => [.returning]
  | .block _ body => Node.jumpsOfAll body
  | .conditional _ _ thenBranch elseBranch =>
    Node.jumpsOfAll thenBranch ++ Node.jumpsOfBranch elseBranch
  | .whileLoop _ _ body | .doLoop _ _ body | .forLoop _ _ _ _ body =>
    (Node.jumpsOfAll body).filter (· = .returning)
  | _ => []

/-- The jumps that statements, one after the other, may end with. -/
def Node.jumpsOfAll : List Node → List Jump
  | [] => []
  | node :: rest => node.jumps ++ Node.jumpsOfAll rest

/-- The jumps that a branch, if there is one, may end with. -/
def Node.jumpsOfBranch : Option (List Node) → List Jump
  | none => []
  | some branch => Node.jumpsOfAll branch

end

namespace Node

/-- The jumps out of nodes are those out of each. -/
theorem mem_jumpsOfAll_iff {nodes : List Node} {jump : Jump} :
    jump ∈ jumpsOfAll nodes ↔ ∃ node ∈ nodes, jump ∈ node.jumps := by
  induction nodes with
  | nil => simp [jumpsOfAll]
  | cons node rest ih => simp [jumpsOfAll, ih]

/-- The jumps out of a branch are those out of its nodes. -/
theorem mem_jumpsOfBranch_iff {branch : Option (List Node)} {jump : Jump} :
    jump ∈ jumpsOfBranch branch ↔ ∃ node ∈ branch.getD [], jump ∈ node.jumps := by
  cases branch with
  | none => simp [jumpsOfBranch]
  | some branch => exact mem_jumpsOfAll_iff

/-- What is left of the jumps in the body of a loop are those out of a function. -/
theorem eq_returning_of_mem_loop {body : List Node} {jump : Jump}
    (mem : jump ∈ (jumpsOfAll body).filter (· = .returning)) :
    jump = .returning ∧ ∃ node ∈ body, Jump.returning ∈ node.jumps := by
  obtain ⟨inside, same⟩ := List.mem_filter.mp mem
  obtain rfl := of_decide_eq_true same
  exact ⟨rfl, mem_jumpsOfAll_iff.mp inside⟩

/-- Whether a node is a loop. -/
def isLoop : Node → Bool
  | whileLoop .. | doLoop .. | forLoop .. => true
  | _ => false

/-- Nothing but a `return` jumps out of a loop. -/
theorem eq_returning_of_isLoop {node : Node} {jump : Jump} (loop : node.isLoop = true)
    (mem : jump ∈ node.jumps) : jump = .returning := by
  cases node with
  | whileLoop | doLoop | forLoop => exact (eq_returning_of_mem_loop mem).1
  | _ => cases loop

/-- A statement ends with jumps only that are allowed in its place. -/
theorem isAllowed_of_mem_jumps {node : Node} : ∀ {inLoop inFunction : Bool} {jump : Jump},
    node.isPlaced inLoop inFunction = true → jump ∈ node.jumps →
      jump.isAllowed inLoop inFunction = true := by
  induction node using Node.induction with
  | step node ih =>
    intro inLoop inFunction jump placed mem
    cases node with
    | breaking | continuing =>
      obtain rfl := List.mem_singleton.mp mem
      exact placed
    | returning =>
      obtain rfl := List.mem_singleton.mp mem
      exact (Bool.and_eq_true_iff.mp placed).1
    | block line body =>
      obtain ⟨statement, inside, mem⟩ := mem_jumpsOfAll_iff.mp mem
      exact ih statement inside (arePlaced_iff.mp placed statement inside) mem
    | conditional line condition thenBranch elseBranch =>
      obtain ⟨-, branches⟩ := Bool.and_eq_true_iff.mp placed
      obtain ⟨first, second⟩ := Bool.and_eq_true_iff.mp branches
      obtain mem | mem := List.mem_append.mp mem
      · obtain ⟨statement, inside, mem⟩ := mem_jumpsOfAll_iff.mp mem
        exact ih statement (by simp [children, inside]) (arePlaced_iff.mp first statement inside) mem
      · obtain ⟨statement, inside, mem⟩ := mem_jumpsOfBranch_iff.mp mem
        exact ih statement (by simp [children, inside])
          (branchIsPlaced_iff.mp second statement inside) mem
    | whileLoop line condition body | doLoop line condition body =>
      obtain ⟨-, placed⟩ := Bool.and_eq_true_iff.mp placed
      obtain ⟨rfl, statement, inside, mem⟩ := eq_returning_of_mem_loop mem
      -- Inside the loop as well as around it, a function is what its returns need.
      have allowed := ih statement (by simp [children, inside])
        (arePlaced_iff.mp placed statement inside) mem
      exact allowed
    | forLoop line start condition step body =>
      obtain ⟨-, heads⟩ := Bool.and_eq_true_iff.mp placed
      obtain ⟨-, steps⟩ := Bool.and_eq_true_iff.mp heads
      obtain ⟨-, placed⟩ := Bool.and_eq_true_iff.mp steps
      obtain ⟨rfl, statement, inside, mem⟩ := eq_returning_of_mem_loop mem
      -- Inside the loop as well as around it, a function is what its returns need.
      have allowed := ih statement (by simp [children, inside])
        (arePlaced_iff.mp placed statement inside) mem
      exact allowed
    | program | integer | float | text | reference | binary | unary | call | function
    | declaration => cases mem

/-- If a node is a function, its statements end with no jumps but those out of it. -/
def FunctionReceives (node : Node) : Prop :=
  ∀ line name parameters body, node = .function line name parameters body →
    ∀ statement ∈ body, ∀ jump ∈ statement.jumps, jump = .returning

/-- If the jumps of a node are where they belong, the functions in it receive their jumps. -/
theorem all_of_isPlaced {node : Node} : ∀ {inLoop inFunction : Bool},
    node.isPlaced inLoop inFunction = true → node.All FunctionReceives := by
  induction node using Node.induction with
  | step node ih =>
    intro inLoop inFunction placed
    refine .intro ?_ fun child mem => ?_
    · rintro line name parameters body rfl statement inside jump mem
      have allowed := isAllowed_of_mem_jumps (arePlaced_iff.mp placed statement inside) mem
      cases jump with
      | returning => rfl
      | breaking | continuing => cases allowed
    · obtain ⟨inLoop, inFunction, placed⟩ := exists_isPlaced_of_mem_children placed mem
      exact ih child mem placed

/-- At the top level, no statement ends with a jump. -/
theorem jumps_eq_nil_of_isPlaced {node : Node} (placed : node.isPlaced false false = true) :
    node.jumps = [] := by
  refine List.eq_nil_iff_forall_not_mem.mpr fun jump mem => ?_
  have allowed := isAllowed_of_mem_jumps placed mem
  cases jump <;> cases allowed

end Node

end Scriptlet
