import Scriptlet.Operator
import Scriptlet.Proofs.Grammar.Refusal

/-! # Expressions and statements

The type of nodes does not separate expressions from statements.  The nodes of a program that is read
from tokens are separate all the same: expressions stand where expressions are evaluated, only names
are assigned to, and every operator is one that can be applied.

Main definitions:

* `Operator.binarySigns`, `Operator.unarySigns`: the signs of the operators.
* `Node.isExpression`, `Node.isStatement`: the nodes that have a meaning where an expression or a
  statement stands, down to their last parts.
* `Symbol.Sorts`: what a symbol denotes is of the right category.

Main statements:

* `Derivation.sorts`: what is derived without faults is of the right category.
* `exists_body_of_ofTokens`: tokens denote programs of statements. -/

namespace Scriptlet

/-! ## Operators -/

namespace Operator

/-- The signs of the operators between two values. -/
def binarySigns : List String :=
  ["+", "-", "*", "/", "%", "==", "!=", "<", ">", "<=", ">=", "&", "|", "^", "<<", ">>"]

/-- The signs of the operators whose second operand is not always evaluated. -/
def lazySigns : List String := ["&&", "||"]

/-- The signs of the operators in front of a value. -/
def unarySigns : List String := ["!", "~", "-", "+"]

end Operator

/-! ## Nodes -/

mutual

/-- Whether a node has a meaning as an expression. -/
def Node.isExpression : Node → Bool
  | .integer .. | .float .. | .text .. | .reference .. => true
  | .binary _ operator left right =>
    (if operator = "=" then (Grammar.nodeName? left).isSome
      else (Operator.lazySigns ++ Operator.binarySigns).contains operator && left.isExpression) &&
      right.isExpression
  | .unary _ operator operand => Operator.unarySigns.contains operator && operand.isExpression
  | .call _ _ arguments => Node.areExpressions arguments
  | _ => false

/-- Whether nodes have a meaning as expressions. -/
def Node.areExpressions : List Node → Bool
  | [] => true
  | node :: nodes => node.isExpression && Node.areExpressions nodes

end

mutual

/-- Whether a node has a meaning as a statement. -/
def Node.isStatement : Node → Bool
  | .function _ _ _ body | .block _ body => Node.areStatements body
  | .declaration _ _ value | .returning _ value => value.all Node.isExpression
  | .breaking _ | .continuing _ => true
  | .conditional _ condition thenBranch elseBranch =>
    condition.isExpression && Node.areStatements thenBranch && Node.branchIsStatements elseBranch
  | .whileLoop _ condition body | .doLoop _ condition body =>
    condition.isExpression && Node.areStatements body
  | .forLoop _ start condition step body =>
    Node.startIsStatement start && condition.all Node.isExpression &&
      step.all Node.isExpression && Node.areStatements body
  | node => node.isExpression

/-- Whether nodes have a meaning as statements. -/
def Node.areStatements : List Node → Bool
  | [] => true
  | node :: nodes => node.isStatement && Node.areStatements nodes

/-- Whether a branch, if there is one, has a meaning. -/
def Node.branchIsStatements : Option (List Node) → Bool
  | none => true
  | some nodes => Node.areStatements nodes

/-- Whether the start of a loop, if there is one, has a meaning. -/
def Node.startIsStatement : Option Node → Bool
  | none => true
  | some node => node.isStatement

end

namespace Node

/-- Nodes are expressions if each is one. -/
theorem areExpressions_iff {nodes : List Node} :
    areExpressions nodes = true ↔ ∀ node ∈ nodes, node.isExpression = true := by
  induction nodes with
  | nil => simp [areExpressions]
  | cons node nodes ih => simp [areExpressions, ih]

/-- Nodes are statements if each is one. -/
theorem areStatements_iff {nodes : List Node} :
    areStatements nodes = true ↔ ∀ node ∈ nodes, node.isStatement = true := by
  induction nodes with
  | nil => simp [areStatements]
  | cons node nodes ih => simp [areStatements, ih]

section Parts

variable {line : Int} {operator name : String} {parameters : List String}
  {left right operand condition : Node} {start value step : Option Node}
  {body thenBranch : List Node} {elseBranch : Option (List Node)}

/-- An assignment assigns an expression to a name. -/
theorem isExpression_assignment_iff : (binary line "=" left right).isExpression = true ↔
    (Grammar.nodeName? left).isSome = true ∧ right.isExpression = true :=
  Bool.and_eq_true_iff

/-- Any other operator between operands is one that can be applied, to expressions. -/
theorem isExpression_binary_iff (other : operator ≠ "=") :
    (binary line operator left right).isExpression = true ↔
      operator ∈ Operator.lazySigns ++ Operator.binarySigns ∧ left.isExpression = true ∧
        right.isExpression = true := by
  show ((if operator = "=" then _ else _) && _) = true ↔ _
  rw [if_neg other, Bool.and_eq_true, Bool.and_eq_true, List.contains_iff_mem, and_assoc]

/-- An operator in front is one that can be applied, to an expression. -/
theorem isExpression_unary_iff : (unary line operator operand).isExpression = true ↔
    operator ∈ Operator.unarySigns ∧ operand.isExpression = true :=
  Bool.and_eq_true_iff.trans (and_congr_left' List.contains_iff_mem)

/-- The arguments of a call are expressions. -/
theorem isExpression_call_iff : (call line name body).isExpression = true ↔
    ∀ argument ∈ body, argument.isExpression = true :=
  areExpressions_iff

/-- The body of a function is of statements. -/
theorem isStatement_function_iff : (function line name parameters body).isStatement = true ↔
    ∀ node ∈ body, node.isStatement = true :=
  areStatements_iff

/-- A block is of statements. -/
theorem isStatement_block_iff : (block line body).isStatement = true ↔
    ∀ node ∈ body, node.isStatement = true :=
  areStatements_iff

/-- The value of a declaration is an expression. -/
theorem isStatement_declaration_iff : (declaration line name value).isStatement = true ↔
    ∀ node ∈ value, node.isExpression = true :=
  Option.all_eq_true _ _

/-- The value of a `return` is an expression. -/
theorem isStatement_returning_iff : (returning line value).isStatement = true ↔
    ∀ node ∈ value, node.isExpression = true :=
  Option.all_eq_true _ _

/-- A choice is between statements, by an expression. -/
theorem isStatement_conditional_iff :
    (conditional line condition thenBranch elseBranch).isStatement = true ↔
      condition.isExpression = true ∧ (∀ node ∈ thenBranch, node.isStatement = true) ∧
        ∀ branch ∈ elseBranch, ∀ node ∈ branch, node.isStatement = true := by
  show (condition.isExpression && areStatements thenBranch && branchIsStatements elseBranch) = true ↔
    _
  rw [Bool.and_eq_true, Bool.and_eq_true, areStatements_iff, and_assoc]
  cases elseBranch with
  | none => simp [branchIsStatements]
  | some branch => simp [branchIsStatements, areStatements_iff]

/-- A loop with its test first repeats statements, by an expression. -/
theorem isStatement_whileLoop_iff : (whileLoop line condition body).isStatement = true ↔
    condition.isExpression = true ∧ ∀ node ∈ body, node.isStatement = true :=
  Bool.and_eq_true_iff.trans (and_congr_right' areStatements_iff)

/-- So does a loop with its test last. -/
theorem isStatement_doLoop_iff : (doLoop line condition body).isStatement = true ↔
    condition.isExpression = true ∧ ∀ node ∈ body, node.isStatement = true :=
  Bool.and_eq_true_iff.trans (and_congr_right' areStatements_iff)

/-- A heading starts with a statement and goes on with expressions. -/
theorem isStatement_forLoop_iff : (forLoop line start value step body).isStatement = true ↔
    (∀ node ∈ start, node.isStatement = true) ∧ (∀ node ∈ value, node.isExpression = true) ∧
      (∀ node ∈ step, node.isExpression = true) ∧ ∀ node ∈ body, node.isStatement = true := by
  show (startIsStatement start && value.all isExpression && step.all isExpression &&
    areStatements body) = true ↔ _
  rw [Bool.and_eq_true, Bool.and_eq_true, Bool.and_eq_true, areStatements_iff, Option.all_eq_true,
    Option.all_eq_true, and_assoc, and_assoc]
  cases start with
  | none => simp [startIsStatement]
  | some node => simp [startIsStatement]

end Parts

/-- An expression is a statement. -/
theorem isStatement_of_isExpression {node : Node} (expression : node.isExpression = true) :
    node.isStatement = true := by
  cases node with
  | integer | float | text | reference | binary | unary | call => exact expression
  | program | function | declaration | returning | breaking | continuing | conditional | whileLoop
  | doLoop | forLoop | block => cases expression

end Node

namespace Grammar

/-! ## Signs of tokens -/

/-- Whether a lexeme is a sign that a class of operators is for. -/
def Terminal.allows : Terminal → String → Bool
  | binary level, lexeme => (Operator.lazySigns ++ Operator.binarySigns).contains lexeme &&
      (level ≠ .additive || Operator.unarySigns.contains lexeme)
  | unary, lexeme => Operator.unarySigns.contains lexeme
  | compoundAssign, lexeme => Operator.binarySigns.contains (lexeme.dropEnd 1).toString
  | _, _ => true

/-- The class of a leaf allows what is written there. -/
theorem Leaf.allows {terminal : Terminal} (leaf : Leaf terminal) :
    terminal.allows leaf.token.lexeme = true := by
  obtain ⟨⟨kind, lexeme, line⟩, class_eq⟩ := leaf
  show terminal.allows lexeme = true
  cases kind with
  | operator =>
    replace class_eq : Terminal.ofOperator? lexeme = some terminal := class_eq
    unfold Terminal.ofOperator? at class_eq
    split at class_eq <;> cases class_eq <;> decide +kernel
  | punctuation =>
    replace class_eq : Terminal.ofPunctuation? lexeme = some terminal := class_eq
    unfold Terminal.ofPunctuation? at class_eq
    split at class_eq <;> cases class_eq <;> rfl
  | other name =>
    replace class_eq : some (Terminal.ofName name) = some terminal := class_eq
    unfold Terminal.ofName at class_eq
    split at class_eq <;> cases class_eq <;> rfl
  | identifier | integer | float | string | endOfInput | keyword =>
    cases class_eq
    rfl

/-! ## Derivations -/

/-- What a symbol denotes is of the right category. -/
def Symbol.Sorts : (symbol : Symbol) → symbol.Meaning → Prop
  | start, nodes | statements, nodes | body, nodes | elseBranch, nodes =>
    ∀ node ∈ nodes, node.isStatement = true
  | statement, node | empty, node | forStart, node => ∀ given ∈ node, given.isStatement = true
  | functionDeclaration, node | variableDeclaration, node | choice, node | whileLoop, node
  | doLoop, node | forLoop, node | returning, node | breaking, node | continuing, node =>
    node.isStatement = true
  | forTest, node | forStep, node => ∀ given ∈ node, given.isExpression = true
  | expression, node | assignment, node | operand _, node | primary, node =>
    node.isExpression = true
  | arguments, nodes => ∀ node ∈ nodes, node.isExpression = true
  | parameters, _ => True

/-- The sign of assignment is not one that is applied to two values. -/
theorem ne_of_mem_signs {operator : String}
    (sign : operator ∈ Operator.lazySigns ++ Operator.binarySigns) : operator ≠ "=" := by
  rintro rfl
  revert sign
  decide

/-- A target without a fault is a name. -/
theorem Derivation.isSome_name {rung : Rung} {target : Derivation (.operand rung)}
    (sound : targetFaults target = []) : (nodeName? target.meaning).isSome = true := by
  have name_eq : nodeName? target.meaning = target.name? := target.names
  rw [name_eq]
  by_contra absent
  rw [targetFaults, if_neg absent] at sound
  cases sound

/-- What is derived without faults is of the right category. -/
theorem Derivation.sorts {symbol : Symbol} (derivation : Derivation symbol)
    (sound : derivation.faults = []) : symbol.Sorts derivation.meaning := by
  induction derivation with
  | program _ ih => exact ih sound
  | noStatement => nofun
  | oneMore _ _ ih ih' =>
    obtain ⟨before, after⟩ := List.append_eq_nil_iff.mp sound
    intro node mem
    obtain earlier | last := List.mem_append.mp mem
    · exact ih before node earlier
    · exact ih' after node (Option.mem_toList.mp last)
  | functionStatement _ ih | variableStatement _ _ ih | choiceStatement _ ih | whileStatement _ ih
  | doStatement _ ih | forStatement _ ih | returnStatement _ ih | breakStatement _ ih
  | continueStatement _ ih | variableStart _ ih =>
    rintro node ⟨⟩
    exact ih sound
  | emptyStatement _ ih | elseBody _ ih | braces _ _ _ ih => exact ih sound
  | blockStatement _ ih =>
    rintro node ⟨⟩
    exact Node.isStatement_block_iff.mpr (ih sound)
  | expressionStatement _ _ ih | expressionStart _ ih =>
    rintro node ⟨⟩
    exact Node.isStatement_of_isExpression (ih sound)
  | function _ _ _ _ _ ih => exact Node.isStatement_function_iff.mpr (ih sound)
  | functionOf _ _ _ _ _ _ _ ih =>
    exact Node.isStatement_function_iff.mpr (ih (List.append_eq_nil_iff.mp sound).1)
  | oneParameter | nextParameter => trivial
  | uninitialized | returning | breaking | continuing => exact rfl
  | initialized _ _ _ _ ih =>
    refine Node.isStatement_declaration_iff.mpr ?_
    rintro node ⟨⟩
    exact ih sound
  | ifThen _ _ _ _ _ ih ih' =>
    obtain ⟨before, after⟩ := List.append_eq_nil_iff.mp sound
    exact Node.isStatement_conditional_iff.mpr ⟨ih before, ih' after, nofun⟩
  | ifElse _ _ _ _ _ _ _ ih ih' ih'' =>
    obtain ⟨parts, last⟩ := List.append_eq_nil_iff.mp sound
    obtain ⟨before, after⟩ := List.append_eq_nil_iff.mp parts
    refine Node.isStatement_conditional_iff.mpr ⟨ih before, ih' after, ?_⟩
    rintro branch ⟨⟩
    exact ih'' last
  | elseChoice choice ih =>
    rintro node (⟨⟩ | ⟨-, ⟨⟩⟩)
    exact ih sound
  | whileLoop _ _ _ _ _ ih ih' =>
    obtain ⟨before, after⟩ := List.append_eq_nil_iff.mp sound
    exact Node.isStatement_whileLoop_iff.mpr ⟨ih before, ih' after⟩
  | doLoop _ _ _ _ _ _ _ ih ih' =>
    obtain ⟨before, after⟩ := List.append_eq_nil_iff.mp sound
    exact Node.isStatement_doLoop_iff.mpr ⟨ih' after, ih before⟩
  | forLoop _ _ _ _ _ _ _ _ _ ih ih' ih'' ihBody =>
    obtain ⟨parts, last⟩ := List.append_eq_nil_iff.mp sound
    obtain ⟨heads, third⟩ := List.append_eq_nil_iff.mp parts
    obtain ⟨first, second⟩ := List.append_eq_nil_iff.mp heads
    exact Node.isStatement_forLoop_iff.mpr ⟨ih first, ih' second, ih'' third, ihBody last⟩
  | noStart | noTest | noStep | bare => nofun
  | testOf _ ih | stepOf _ ih =>
    rintro node ⟨⟩
    exact ih sound
  | returningOf _ _ _ ih =>
    refine Node.isStatement_returning_iff.mpr ?_
    rintro node ⟨⟩
    exact ih sound
  | whole _ ih | plain _ ih | single _ _ ih | atom _ ih | group _ _ _ ih => exact ih sound
  | assign _ _ _ _ ih =>
    obtain ⟨parts, named⟩ := List.append_eq_nil_iff.mp sound
    obtain ⟨-, after⟩ := List.append_eq_nil_iff.mp parts
    exact Node.isExpression_assignment_iff.mpr ⟨isSome_name named, ih after⟩
  | compoundAssign _ sign _ _ ih =>
    -- the operator in front of the sign is applied to the variable and the value
    obtain ⟨parts, named⟩ := List.append_eq_nil_iff.mp sound
    obtain ⟨-, after⟩ := List.append_eq_nil_iff.mp parts
    have operator := List.mem_append_right Operator.lazySigns
      (List.contains_iff_mem.mp sign.allows)
    refine Node.isExpression_assignment_iff.mpr ⟨isSome_name named, ?_⟩
    exact (Node.isExpression_binary_iff (ne_of_mem_signs operator)).mpr ⟨operator, rfl, ih after⟩
  | chain _ _ operator _ ih ih' =>
    obtain ⟨before, after⟩ := List.append_eq_nil_iff.mp sound
    have sign := List.contains_iff_mem.mp (Bool.and_eq_true_iff.mp operator.allows).1
    exact (Node.isExpression_binary_iff (ne_of_mem_signs sign)).mpr ⟨sign, ih before, ih' after⟩
  | prefixed operator _ ih =>
    exact Node.isExpression_unary_iff.mpr ⟨List.contains_iff_mem.mp operator.allows, ih sound⟩
  | signed operator _ ih =>
    have sign := List.contains_iff_mem.mp (Bool.and_eq_true_iff.mp operator.allows).2
    exact Node.isExpression_unary_iff.mpr ⟨sign, ih sound⟩
  | call | reference | string | integer | float => exact rfl
  | callOf _ _ _ _ ih => exact Node.isExpression_call_iff.mpr (ih sound)
  | oneArgument _ ih =>
    rintro node (⟨⟩ | ⟨-, ⟨⟩⟩)
    exact ih sound
  | nextArgument _ _ _ ih ih' =>
    obtain ⟨before, after⟩ := List.append_eq_nil_iff.mp sound
    intro node mem
    obtain earlier | last := List.mem_append.mp mem
    · exact ih before node earlier
    · obtain rfl := List.mem_singleton.mp last
      exact ih' after

/-- Tokens that denote a program denote what is derived from them without faults. -/
theorem exists_derivation_of_ofTokens {tokens : List Token} {program : Node}
    (program_eq : Program.ofTokens tokens = .ok program) :
    ∃ derivation : Derivation .start, derivation.tokens = sentence tokens ∧
      derivation.faults = [] ∧ program = .program 0 derivation.meaning := by
  have numerals : HaveNumerals (sentence tokens) := by
    have settled := ofTokens_settled tokens
    rw [program_eq] at settled
    exact settled
  cases read_eq : read tokens with
  | error failure =>
    rw [Program.ofTokens, read_eq] at program_eq
    cases program_eq
  | ok clauses =>
    obtain ⟨derivation, tokens_eq, -⟩ := read_eq_ok_iff.mp read_eq
    rw [ofTokens_of_derivation derivation tokens_eq numerals] at program_eq
    obtain ⟨faults_eq, rfl⟩ := outcome_eq_ok program_eq
    exact ⟨derivation, tokens_eq, faults_eq, rfl⟩

/-- Tokens that denote a program denote one that consists of statements. -/
theorem exists_body_of_ofTokens {tokens : List Token} {program : Node}
    (program_eq : Program.ofTokens tokens = .ok program) :
    ∃ body, program = .program 0 body ∧ ∀ node ∈ body, node.isStatement = true := by
  obtain ⟨derivation, -, faults_eq, rfl⟩ := exists_derivation_of_ofTokens program_eq
  exact ⟨_, rfl, derivation.sorts faults_eq⟩

end Grammar

end Scriptlet
