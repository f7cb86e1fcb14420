import Scriptlet.Proofs.Grammar.Category
import Scriptlet.Proofs.Grammar.Construct
import Scriptlet.Proofs.Grammar.Source
import Scriptlet.Proofs.Node.All

/-! # The lines of a program that is read

A node of a program that is read from tokens is on the line of one of them, and the tokens of a source
text are on its lines.  So every node of a program is on a line of its source text, the program itself
aside, whose line is zero.

Main definitions: `Symbol.Lined`, what a symbol denotes is on given lines.

Main statements: `Derivation.lined`, and from it `ofSource_lined` for source texts. -/

namespace Scriptlet.Grammar

/-- All nodes of what a symbol denotes are on lines of a kind. -/
def Symbol.Lined (fit : Int → Prop) : (symbol : Symbol) → symbol.Meaning → Prop
  | start, nodes | statements, nodes | body, nodes | elseBranch, nodes | arguments, nodes =>
    ∀ node ∈ nodes, node.All fun inner => fit inner.line
  | statement, node | empty, node | forStart, node | forTest, node | forStep, node =>
    ∀ given ∈ node, given.All fun inner => fit inner.line
  | functionDeclaration, node | variableDeclaration, node | choice, node | whileLoop, node
  | doLoop, node | forLoop, node | returning, node | breaking, node | continuing, node
  | expression, node | assignment, node | operand _, node | primary, node =>
    node.All fun inner => fit inner.line
  | parameters, _ => True

namespace Derivation

variable {fit : Int → Prop}

/-- What has tokens is on the line of the first one. -/
theorem fit_line {symbol : Symbol} {derivation : Derivation symbol} (ne : derivation.tokens ≠ [])
    (fits : ∀ token ∈ derivation.tokens, fit token.line) : fit derivation.line := by
  rw [line]
  cases tokens_eq : derivation.tokens with
  | nil => exact absurd tokens_eq ne
  | cons first rest =>
    rw [tokens_eq] at fits
    exact fits first List.mem_cons_self

/-- A body has tokens. -/
theorem tokens_ne_nil_of_body (body : Derivation .body) : body.tokens ≠ [] := by
  cases body with
  | braces => exact List.cons_ne_nil _ _

/-- An operand has tokens. -/
theorem tokens_ne_nil_of_operand {rung : Rung} (operand : Derivation (.operand rung)) :
    operand.tokens ≠ [] := by
  obtain ⟨first, rest, tokens_eq, -⟩ := operand.starts
  rw [tokens_eq]
  exact List.cons_ne_nil _ _

/-- The nodes that a derivation adds to those of its pieces are on the lines of its tokens. -/
theorem fit_made {symbol : Symbol} {derivation : Derivation symbol}
    (fits : ∀ token ∈ derivation.tokens, fit token.line) {node : Node}
    (mem : node ∈ derivation.made) : fit node.line := by
  cases derivation with
  | blockStatement body =>
    obtain rfl := List.mem_singleton.mp mem
    exact fit_line body.tokens_ne_nil_of_body fits
  | function | functionOf | uninitialized | initialized | ifThen | ifElse | whileLoop | doLoop
  | forLoop | returning | returningOf | breaking | continuing | prefixed | signed | call | callOf
  | reference | integer | float | string =>
    obtain rfl := List.mem_singleton.mp mem
    exact fits _ List.mem_cons_self
  | assign target =>
    obtain ⟨before, -⟩ := List.forall_mem_append.mp fits
    obtain rfl := List.mem_singleton.mp mem
    exact fit_line target.tokens_ne_nil_of_operand before
  | compoundAssign target sign value =>
    -- the nodes that the sign stands for are on the line of the target
    obtain ⟨before, -⟩ := List.forall_mem_append.mp fits
    have here := fit_line target.tokens_ne_nil_of_operand before
    have each : ∀ node ∈ (compoundAssign target sign value).made, fit node.line :=
      List.forall_mem_cons.mpr ⟨here, List.forall_mem_cons.mpr
        ⟨here, List.forall_mem_singleton.mpr here⟩⟩
    exact each node mem
  | chain level left operator right =>
    obtain ⟨before, after⟩ := List.forall_mem_append.mp fits
    obtain rfl := List.mem_singleton.mp mem
    show fit (if _ then _ else _)
    split
    · exact fit_line left.tokens_ne_nil_of_operand before
    · exact after _ List.mem_cons_self
  | _ => cases mem

/-- What a symbol denotes is on given lines if all its nodes are. -/
theorem lined_of_nodes {symbol : Symbol} {derivation : Derivation symbol}
    (each : ∀ node ∈ (Construct.mk derivation).nodes, fit node.line) :
    symbol.Lined fit derivation.meaning := by
  have all {node : Node} (mem : node ∈ symbol.roots derivation.meaning) :
      node.All fun inner => fit inner.line :=
    fun inner inside => each inner (List.mem_flatMap.mpr ⟨node, mem, inside⟩)
  cases symbol with
  | start | statements | body | elseBranch | arguments => exact fun node mem => all mem
  | statement | empty | forStart | forTest | forStep =>
    exact fun node mem => all (Option.mem_toList.mpr mem)
  | functionDeclaration | variableDeclaration | choice | whileLoop | doLoop | forLoop | returning
  | breaking | continuing | expression | assignment | operand | primary =>
    exact all (List.mem_singleton_self _)
  | parameters => trivial

/-- What is derived is on the lines of its tokens. -/
theorem lined {symbol : Symbol} (derivation : Derivation symbol)
    (fits : ∀ token ∈ derivation.tokens, fit token.line) :
    symbol.Lined fit derivation.meaning := by
  refine lined_of_nodes fun node mem => ?_
  obtain ⟨occurrence, made⟩ := Occurrence.exists_of_mem_nodes mem
  obtain ⟨before, after, tokens_eq, -⟩ := occurrence.occurs.exists_tokens
  refine fit_made (fun token inside => fits token ?_) made
  rw [show derivation.tokens = _ from tokens_eq]
  exact List.mem_append_right _ (List.mem_append_left _ inside)

end Derivation

/-- The nodes of a program that is read from tokens are on the lines of the tokens. -/
theorem ofTokens_lined {tokens : List Token} {program : Node} {fit : Int → Prop}
    (fits : ∀ token ∈ tokens, fit token.line) (program_eq : Program.ofTokens tokens = .ok program) :
    ∃ body, program = .program 0 body ∧ ∀ node ∈ body, node.All fun inner => fit inner.line := by
  obtain ⟨derivation, tokens_eq, -, rfl⟩ := exists_derivation_of_ofTokens program_eq
  refine ⟨_, rfl, derivation.lined fun token mem => fits token ?_⟩
  rw [tokens_eq] at mem
  exact List.takeWhile_subset _ mem

/-- The nodes of a program that is read from a source text are on its lines. -/
theorem ofSource_lined {source : String} {program : Node}
    (program_eq : Program.ofSource source = .ok program) :
    ∃ body, program = .program 0 body ∧ ∀ node ∈ body, node.All fun inner =>
      1 ≤ inner.line ∧ inner.line ≤ 1 + Text.countNewlines source.toList := by
  unfold Program.ofSource at program_eq
  split at program_eq
  · cases program_eq
  · rename_i tokens tokenized
    refine @ofTokens_lined tokens program
      (fun line => 1 ≤ line ∧ line ≤ 1 + Text.countNewlines source.toList) ?_ program_eq
    exact fun token mem => (forall_mem_of_tokenize tokenized token mem).1

end Scriptlet.Grammar
