import Scriptlet.Proofs.Grammar.Completeness

/-! # The grammar is unambiguous

A derivation is determined by its tokens.  Two derivations with the same tokens are read to the same
end, so they have the same tree; and a tree leaves no choice among derivations but the brackets,
commas and semicolons, which the tokens settle.

Main definitions:

* `Derivation.Determined`: the tree and the tokens leave no choice, whatever follows.

Main results:

* `Derivation.determined`: no derivation leaves a choice.
* `Derivation.eq_of_tokens_eq`: derivations of programs with the same tokens are equal. -/

namespace Scriptlet.Grammar

/-- A leaf is its token. -/
@[ext] theorem Leaf.ext {terminal : Terminal} {leaf other : Leaf terminal}
    (h : leaf.token = other.token) : leaf = other := by
  cases leaf
  cases other
  cases h
  rfl

/-- Lists that start with leaves of one class are equal only if the leaves and the rests are. -/
theorem Leaf.cons_inj {terminal : Terminal} {leaf other : Leaf terminal} {rest rest' : List Token}
    (h : leaf.token :: rest = other.token :: rest') : leaf = other ∧ rest = rest' :=
  ⟨Leaf.ext (List.cons.inj h).1, (List.cons.inj h).2⟩

/-- A token has one class. -/
theorem Leaf.terminal_eq {terminal terminal' : Terminal} {leaf : Leaf terminal}
    {other : Leaf terminal'} (h : leaf.token = other.token) : terminal = terminal' := by
  have := leaf.ofToken?_eq
  rw [h, other.ofToken?_eq] at this
  exact (Option.some.inj this).symm

/-! ## What trees tell about derivations -/

/-- An expression is no chain of a level below a rank, and an assignment only at the lowest rank. -/
def Phrase.Fits (rank : Nat) : Phrase → Prop
  | .binary _ operator _ =>
    ∃ level, Terminal.ofToken? operator = some (.binary level) ∧ rank ≤ level.rank
  | .assign .. => rank = 0
  | _ => True

/-- What fits a rank fits every looser one. -/
theorem Phrase.Fits.mono {rank looser : Nat} {phrase : Phrase} (fits : phrase.Fits rank)
    (le : looser ≤ rank) : phrase.Fits looser := by
  cases phrase with
  | binary left operator right =>
    obtain ⟨level, operator_eq, le'⟩ := fits
    exact ⟨level, operator_eq, Nat.le_trans le le'⟩
  | assign target sign value =>
    obtain rfl : rank = 0 := fits
    exact Nat.le_zero.1 le
  | _ => trivial

/-- What the symbol of an expression says about its tree. -/
def Symbol.Fits : (symbol : Symbol) → symbol.Tree → Prop
  | operand rung, phrase => phrase.Fits rung.rank
  | primary, phrase => phrase.Fits 11
  | _, _ => True

/-- The tree of a derivation fits its symbol, by induction on the derivation. -/
theorem Derivation.fits {symbol : Symbol} (derivation : Derivation symbol) :
    symbol.Fits derivation.tree := by
  induction derivation with
  | single level operand ih => exact ih.mono (level.rank_next ▸ Nat.le_succ level.rank)
  | chain level left operator right => exact ⟨level, operator.ofToken?_eq, Nat.le_refl _⟩
  | atom operand ih => exact ih
  | _ => trivial

/-- An assignment is no operand unless it is in parentheses. -/
theorem Derivation.operand_ne_assign {rung : Rung} (operand : Derivation (.operand rung))
    (target : Phrase) (sign : Token) (value : Phrase) :
    operand.tree ≠ .assign target sign value := by
  intro tree_eq
  have fits : Phrase.Fits rung.rank operand.tree := operand.fits
  rw [tree_eq] at fits
  exact Nat.ne_of_gt rung.rank_pos fits

/-- The operand of a level is no chain of the same level. -/
theorem Derivation.operand_ne_binary {level : Level} (operand : Derivation (.operand level.next))
    (left : Phrase) (operator : Leaf (.binary level)) (right : Phrase) :
    operand.tree ≠ .binary left operator.token right := by
  intro tree_eq
  -- the operator would be of a tighter level than its own
  have fits : Phrase.Fits level.next.rank operand.tree := operand.fits
  rw [tree_eq, level.rank_next] at fits
  obtain ⟨level', operator_eq, le⟩ := fits
  rw [operator.ofToken?_eq] at operator_eq
  cases operator_eq
  exact Nat.not_succ_le_self _ le

/-- An operator in front is no primary expression unless it is in parentheses. -/
theorem Derivation.primary_ne_unary (operand : Derivation .primary) (operator : Token)
    (phrase : Phrase) : operand.tree ≠ .unary operator phrase := by
  intro tree_eq
  cases operand <;> cases tree_eq

/-- A list of arguments that the grammar derives has one. -/
theorem Derivation.arguments_ne_nil (arguments : Derivation .arguments) : arguments.tree ≠ [] := by
  cases arguments with
  | oneArgument value => exact List.cons_ne_nil _ _
  | nextArgument arguments comma value => exact List.append_ne_nil_of_right_ne_nil _ (by simp)

/-- A list of parameters that the grammar derives has one. -/
theorem Derivation.parameters_ne_nil (parameters : Derivation .parameters) :
    parameters.tree ≠ [] := by
  cases parameters with
  | oneParameter name => exact List.cons_ne_nil _ _
  | nextParameter parameters comma name => exact List.append_ne_nil_of_right_ne_nil _ (by simp)

/-- A choice with `else` tells its first arm and its branch. -/
theorem Arm.orElse_inj {arm other : Arm} {branch branch' : List Clause ⊕ Clause}
    (h : arm.orElse branch = other.orElse branch') : arm = other ∧ branch = branch' := by
  cases arm
  cases other
  cases branch <;> cases branch' <;> cases h <;> exact ⟨rfl, rfl⟩

/-- The symbol that a statement is written as. -/
def Clause.symbol : Clause → Symbol
  | .function .. => .functionDeclaration
  | .declaration .. => .variableDeclaration
  | .ifThen .. | .ifElse .. | .ifElseIf .. => .choice
  | .whileLoop .. => .whileLoop
  | .doLoop .. => .doLoop
  | .forLoop .. => .forLoop
  | .returning .. => .returning
  | .breaking _ => .breaking
  | .continuing _ => .continuing
  | .block .. => .body
  | .expression _ => .expression
  | .empty => .empty

/-- The symbol that a statement is derived from. -/
def Derivation.origin : Derivation .statement → Symbol
  | .functionStatement _ => .functionDeclaration
  | .variableStatement .. => .variableDeclaration
  | .choiceStatement _ => .choice
  | .whileStatement _ => .whileLoop
  | .doStatement _ => .doLoop
  | .forStatement _ => .forLoop
  | .returnStatement _ => .returning
  | .breakStatement _ => .breaking
  | .continueStatement _ => .continuing
  | .blockStatement _ => .body
  | .expressionStatement .. => .expression
  | .emptyStatement _ => .empty

/-- A statement is of the kind that its tree shows. -/
theorem Derivation.symbol_tree (statement : Derivation .statement) :
    statement.tree.symbol = statement.origin := by
  cases statement with
  | functionStatement declaration => cases declaration <;> rfl
  | variableStatement declaration semicolon => cases declaration <;> rfl
  | choiceStatement choice =>
    cases choice with
    | ifThen => rfl
    | ifElse keyword opening condition closing body otherwise alternative =>
      cases alternative <;> rfl
  | whileStatement loop => cases loop; rfl
  | doStatement loop => cases loop; rfl
  | forStatement loop => cases loop; rfl
  | returnStatement jump => cases jump <;> rfl
  | breakStatement jump => cases jump; rfl
  | continueStatement jump => cases jump; rfl
  | blockStatement body => rfl
  | expressionStatement expression semicolon => rfl
  | emptyStatement empty => cases empty; rfl

/-- Statements with one tree are of one kind. -/
theorem Derivation.origin_eq {statement other : Derivation .statement}
    (h : statement.tree = other.tree) : statement.origin = other.origin := by
  rw [← statement.symbol_tree, ← other.symbol_tree, h]

/-! ## Unambiguity -/

namespace Derivation

/-- The tree and the tokens leave no choice, whatever follows. -/
def Determined {symbol : Symbol} (derivation : Derivation symbol) : Prop :=
  ∀ ⦃other : Derivation symbol⦄ ⦃rest rest' : List Token⦄, derivation.tree = other.tree →
    derivation.tokens ++ rest = other.tokens ++ rest' → derivation = other ∧ rest = rest'

/-- Two parts of a list, the first of which leaves no choice. -/
theorem Determined.append {symbol : Symbol} {derivation other : Derivation symbol}
    (determined : derivation.Determined) {before before' rest rest' : List Token}
    (tree_eq : derivation.tree = other.tree)
    (tokens_eq : derivation.tokens ++ before ++ rest = other.tokens ++ before' ++ rest') :
    derivation = other ∧ before ++ rest = before' ++ rest' := by
  rw [List.append_assoc, List.append_assoc] at tokens_eq
  exact determined tree_eq tokens_eq

namespace Determined

/-! ### Expressions -/

section Expressions

variable {target : Derivation (.operand (.level .disjunction))} {value : Derivation .assignment}
  {expression : Derivation .expression} {arguments : Derivation .arguments}

/-- An expression is the assignment that it consists of. -/
theorem whole (determined : value.Determined) : (Derivation.whole value).Determined := by
  intro other rest rest' tree_eq tokens_eq
  cases other with
  | whole other =>
    obtain ⟨rfl, rfl⟩ := determined tree_eq tokens_eq
    exact ⟨rfl, rfl⟩

/-- An assignment without a sign is an operand: its tree is no assignment. -/
theorem plain (determined : target.Determined) : (Derivation.plain target).Determined := by
  intro other rest rest' tree_eq tokens_eq
  cases other with
  | plain other =>
    obtain ⟨rfl, rfl⟩ := determined tree_eq tokens_eq
    exact ⟨rfl, rfl⟩
  | assign => exact absurd tree_eq (target.operand_ne_assign _ _ _)
  | compoundAssign => exact absurd tree_eq (target.operand_ne_assign _ _ _)

/-- The tree of an assignment tells both of its sides, and its tokens tell the sign. -/
theorem assign (determined : target.Determined) (sign : Leaf .assign)
    (determined' : value.Determined) : (Derivation.assign target sign value).Determined := by
  intro other rest rest' tree_eq tokens_eq
  cases other with
  | plain operand => exact absurd tree_eq.symm (operand.operand_ne_assign _ _ _)
  | assign target' sign' value' =>
    obtain ⟨target_eq, -, value_eq⟩ := Phrase.assign.inj tree_eq
    obtain ⟨rfl, eq₁⟩ := determined.append target_eq tokens_eq
    obtain ⟨rfl, eq₂⟩ := Leaf.cons_inj eq₁
    obtain ⟨rfl, rfl⟩ := determined' value_eq eq₂
    exact ⟨rfl, rfl⟩
  | compoundAssign target' sign' value' => cases Leaf.terminal_eq (Phrase.assign.inj tree_eq).2.1

/-- So it is with a sign that has an operator: a sign of the one class is none of the other. -/
theorem compoundAssign (determined : target.Determined) (sign : Leaf .compoundAssign)
    (determined' : value.Determined) :
    (Derivation.compoundAssign target sign value).Determined := by
  intro other rest rest' tree_eq tokens_eq
  cases other with
  | plain operand => exact absurd tree_eq.symm (operand.operand_ne_assign _ _ _)
  | assign target' sign' value' => cases Leaf.terminal_eq (Phrase.assign.inj tree_eq).2.1
  | compoundAssign target' sign' value' =>
    obtain ⟨target_eq, -, value_eq⟩ := Phrase.assign.inj tree_eq
    obtain ⟨rfl, eq₁⟩ := determined.append target_eq tokens_eq
    obtain ⟨rfl, eq₂⟩ := Leaf.cons_inj eq₁
    obtain ⟨rfl, rfl⟩ := determined' value_eq eq₂
    exact ⟨rfl, rfl⟩

/-- An operand of the next level is no chain of this one. -/
theorem single (level : Level) {operand : Derivation (.operand level.next)}
    (determined : operand.Determined) : (Derivation.single level operand).Determined := by
  intro other rest rest' tree_eq tokens_eq
  cases other with
  | single _ other =>
    obtain ⟨rfl, rfl⟩ := determined tree_eq tokens_eq
    exact ⟨rfl, rfl⟩
  | chain _ left operator right =>
    exact absurd tree_eq (operand.operand_ne_binary left.tree operator right.tree)

/-- A chain is cut at its last operator, whose level is that of its token. -/
theorem chain (level : Level) {left : Derivation (.operand (.level level))}
    (determined : left.Determined) (operator : Leaf (.binary level))
    {right : Derivation (.operand level.next)} (determined' : right.Determined) :
    (Derivation.chain level left operator right).Determined := by
  intro other rest rest' tree_eq tokens_eq
  cases other with
  | single _ operand =>
    exact absurd tree_eq.symm (operand.operand_ne_binary left.tree operator right.tree)
  | chain _ left' operator' right' =>
    -- the left operand ends at the same token in both, so the operators are in the same place
    obtain ⟨left_eq, -, right_eq⟩ := Phrase.binary.inj tree_eq
    obtain ⟨rfl, eq₁⟩ := determined.append left_eq tokens_eq
    obtain ⟨rfl, eq₂⟩ := Leaf.cons_inj eq₁
    obtain ⟨rfl, rfl⟩ := determined' right_eq eq₂
    exact ⟨rfl, rfl⟩

/-- A sign that only stands in front is not one that also stands between operands. -/
theorem prefixed (operator : Leaf .unary) {operand : Derivation (.operand .unary)}
    (determined : operand.Determined) : (Derivation.prefixed operator operand).Determined := by
  intro other rest rest' tree_eq tokens_eq
  cases other with
  | prefixed operator' operand' =>
    obtain ⟨rfl, eq₁⟩ := Leaf.cons_inj tokens_eq
    obtain ⟨rfl, rfl⟩ := determined (Phrase.unary.inj tree_eq).2 eq₁
    exact ⟨rfl, rfl⟩
  | signed operator' operand' => cases Leaf.terminal_eq (Phrase.unary.inj tree_eq).1
  | atom operand' => exact absurd tree_eq.symm (operand'.primary_ne_unary _ _)

/-- A sign that also stands between operands is not one that only stands in front. -/
theorem signed (operator : Leaf (.binary .additive)) {operand : Derivation (.operand .unary)}
    (determined : operand.Determined) : (Derivation.signed operator operand).Determined := by
  intro other rest rest' tree_eq tokens_eq
  cases other with
  | prefixed operator' operand' => cases Leaf.terminal_eq (Phrase.unary.inj tree_eq).1
  | signed operator' operand' =>
    obtain ⟨rfl, eq₁⟩ := Leaf.cons_inj tokens_eq
    obtain ⟨rfl, rfl⟩ := determined (Phrase.unary.inj tree_eq).2 eq₁
    exact ⟨rfl, rfl⟩
  | atom operand' => exact absurd tree_eq.symm (operand'.primary_ne_unary _ _)

/-- An operand without an operator in front has none in its tree. -/
theorem atom {operand : Derivation .primary} (determined : operand.Determined) :
    (Derivation.atom operand).Determined := by
  intro other rest rest' tree_eq tokens_eq
  cases other with
  | prefixed => exact absurd tree_eq (operand.primary_ne_unary _ _)
  | signed => exact absurd tree_eq (operand.primary_ne_unary _ _)
  | atom other =>
    obtain ⟨rfl, rfl⟩ := determined tree_eq tokens_eq
    exact ⟨rfl, rfl⟩

/-- A call without arguments is no call with some. -/
theorem call (callee : Leaf .identifier) (opening : Leaf .leftParenthesis)
    (closing : Leaf .rightParenthesis) : (Derivation.call callee opening closing).Determined := by
  intro other rest rest' tree_eq tokens_eq
  cases other with
  | call =>
    obtain ⟨rfl, eq₁⟩ := Leaf.cons_inj tokens_eq
    obtain ⟨rfl, eq₂⟩ := Leaf.cons_inj eq₁
    obtain ⟨rfl, rfl⟩ := Leaf.cons_inj eq₂
    exact ⟨rfl, rfl⟩
  | callOf _ _ arguments =>
    exact absurd (Phrase.call.inj tree_eq).2.symm arguments.arguments_ne_nil
  | _ => cases tree_eq

/-- A call with arguments is no call without. -/
theorem callOf (callee : Leaf .identifier) (opening : Leaf .leftParenthesis)
    (determined : arguments.Determined) (closing : Leaf .rightParenthesis) :
    (Derivation.callOf callee opening arguments closing).Determined := by
  intro other rest rest' tree_eq tokens_eq
  cases other with
  | call => exact absurd (Phrase.call.inj tree_eq).2 arguments.arguments_ne_nil
  | callOf =>
    obtain ⟨rfl, eq₁⟩ := Leaf.cons_inj tokens_eq
    obtain ⟨rfl, eq₂⟩ := Leaf.cons_inj eq₁
    obtain ⟨rfl, eq₃⟩ := determined.append (Phrase.call.inj tree_eq).2 eq₂
    obtain ⟨rfl, rfl⟩ := Leaf.cons_inj eq₃
    exact ⟨rfl, rfl⟩
  | _ => cases tree_eq

/-- The tree of a group tells the expression, and its tokens tell the parentheses. -/
theorem group (opening : Leaf .leftParenthesis) (determined : expression.Determined)
    (closing : Leaf .rightParenthesis) :
    (Derivation.group opening expression closing).Determined := by
  intro other rest rest' tree_eq tokens_eq
  cases other with
  | group =>
    obtain ⟨rfl, eq₁⟩ := Leaf.cons_inj tokens_eq
    obtain ⟨rfl, eq₂⟩ := determined.append (Phrase.group.inj tree_eq).2 eq₁
    obtain ⟨rfl, rfl⟩ := Leaf.cons_inj eq₂
    exact ⟨rfl, rfl⟩
  | _ => cases tree_eq

/-- One argument is not several: no derivation has none. -/
theorem oneArgument (determined : expression.Determined) :
    (Derivation.oneArgument expression).Determined := by
  intro other rest rest' tree_eq tokens_eq
  cases other with
  | oneArgument =>
    obtain ⟨rfl, rfl⟩ := determined (List.cons.inj tree_eq).1 tokens_eq
    exact ⟨rfl, rfl⟩
  | nextArgument others comma value =>
    have concat_eq : [] ++ [expression.tree] = others.tree ++ [value.tree] := tree_eq
    exact absurd (List.append_inj' concat_eq rfl).1.symm others.arguments_ne_nil

/-- Several arguments end with the last, and those before it are not none. -/
theorem nextArgument (determined : arguments.Determined) (comma : Leaf .comma)
    (determined' : expression.Determined) :
    (Derivation.nextArgument arguments comma expression).Determined := by
  intro other rest rest' tree_eq tokens_eq
  cases other with
  | oneArgument value =>
    have concat_eq : arguments.tree ++ [expression.tree] = [] ++ [value.tree] := tree_eq
    exact absurd (List.append_inj' concat_eq rfl).1 arguments.arguments_ne_nil
  | nextArgument =>
    obtain ⟨arguments_eq, value_eq⟩ := List.append_inj' tree_eq rfl
    obtain ⟨rfl, eq₁⟩ := determined.append arguments_eq tokens_eq
    obtain ⟨rfl, eq₂⟩ := Leaf.cons_inj eq₁
    obtain ⟨rfl, rfl⟩ := determined' (List.cons.inj value_eq).1 eq₂
    exact ⟨rfl, rfl⟩

end Expressions

/-! ### Statements -/

section Statements

variable {statements : Derivation .statements} {statement : Derivation .statement}
  {body : Derivation .body} {condition value : Derivation .expression}
  {parameters : Derivation .parameters}

/-- Statements end with the last one. -/
theorem oneMore (determined : statements.Determined) (determined' : statement.Determined) :
    (Derivation.oneMore statements statement).Determined := by
  intro other rest rest' tree_eq tokens_eq
  cases other with
  | noStatement => exact absurd tree_eq (List.append_ne_nil_of_right_ne_nil _ (List.cons_ne_nil _ _))
  | oneMore =>
    obtain ⟨statements_eq, statement_eq⟩ := List.append_inj' tree_eq rfl
    obtain ⟨rfl, eq₁⟩ := determined.append statements_eq tokens_eq
    obtain ⟨rfl, rfl⟩ := determined' (List.cons.inj statement_eq).1 eq₁
    exact ⟨rfl, rfl⟩

/-- No statements are derived in one way. -/
theorem noStatement : Derivation.noStatement.Determined := by
  intro other rest rest' tree_eq tokens_eq
  cases other with
  | noStatement => exact ⟨rfl, tokens_eq⟩
  | oneMore =>
    exact absurd tree_eq.symm (List.append_ne_nil_of_right_ne_nil _ (List.cons_ne_nil _ _))

/-- A block is a statement of its own kind. -/
theorem blockStatement (determined : body.Determined) :
    (Derivation.blockStatement body).Determined := by
  intro other rest rest' tree_eq tokens_eq
  have origin_eq := origin_eq tree_eq
  cases other with
  | blockStatement other =>
    obtain ⟨rfl, rfl⟩ := determined (Clause.block.inj tree_eq).2 tokens_eq
    exact ⟨rfl, rfl⟩
  | _ => cases origin_eq

/-- A declaration is a statement of its own kind. -/
theorem variableStatement {declaration : Derivation .variableDeclaration}
    (determined : declaration.Determined) (semicolon : Leaf .semicolon) :
    (Derivation.variableStatement declaration semicolon).Determined := by
  intro other rest rest' tree_eq tokens_eq
  have origin_eq := origin_eq tree_eq
  cases other with
  | variableStatement =>
    obtain ⟨rfl, eq₁⟩ := determined.append tree_eq tokens_eq
    obtain ⟨rfl, rfl⟩ := Leaf.cons_inj eq₁
    exact ⟨rfl, rfl⟩
  | _ => cases origin_eq

/-- An expression is a statement of its own kind. -/
theorem expressionStatement (determined : value.Determined) (semicolon : Leaf .semicolon) :
    (Derivation.expressionStatement value semicolon).Determined := by
  intro other rest rest' tree_eq tokens_eq
  have origin_eq := origin_eq tree_eq
  cases other with
  | expressionStatement =>
    obtain ⟨rfl, eq₁⟩ := determined.append (Clause.expression.inj tree_eq) tokens_eq
    obtain ⟨rfl, rfl⟩ := Leaf.cons_inj eq₁
    exact ⟨rfl, rfl⟩
  | _ => cases origin_eq

/-- A function without parameters is none with some. -/
theorem function (keyword : Leaf (.keyword .function)) (name : Leaf .identifier)
    (opening : Leaf .leftParenthesis) (closing : Leaf .rightParenthesis)
    (determined : body.Determined) :
    (Derivation.function keyword name opening closing body).Determined := by
  intro other rest rest' tree_eq tokens_eq
  cases other with
  | function =>
    obtain ⟨rfl, eq₁⟩ := Leaf.cons_inj tokens_eq
    obtain ⟨rfl, eq₂⟩ := Leaf.cons_inj eq₁
    obtain ⟨rfl, eq₃⟩ := Leaf.cons_inj eq₂
    obtain ⟨rfl, eq₄⟩ := Leaf.cons_inj eq₃
    obtain ⟨rfl, rfl⟩ := determined (Clause.function.inj tree_eq).2.2.2 eq₄
    exact ⟨rfl, rfl⟩
  | functionOf _ _ _ parameters =>
    exact absurd (Clause.function.inj tree_eq).2.2.1.symm parameters.parameters_ne_nil

/-- A function with parameters is none without. -/
theorem functionOf (keyword : Leaf (.keyword .function)) (name : Leaf .identifier)
    (opening : Leaf .leftParenthesis) (determined : parameters.Determined)
    (closing : Leaf .rightParenthesis) (determined' : body.Determined) :
    (Derivation.functionOf keyword name opening parameters closing body).Determined := by
  intro other rest rest' tree_eq tokens_eq
  cases other with
  | function => exact absurd (Clause.function.inj tree_eq).2.2.1 parameters.parameters_ne_nil
  | functionOf =>
    obtain ⟨-, -, parameters_eq, body_eq⟩ := Clause.function.inj tree_eq
    obtain ⟨rfl, eq₁⟩ := Leaf.cons_inj tokens_eq
    obtain ⟨rfl, eq₂⟩ := Leaf.cons_inj eq₁
    obtain ⟨rfl, eq₃⟩ := Leaf.cons_inj eq₂
    obtain ⟨rfl, eq₄⟩ := determined.append parameters_eq eq₃
    obtain ⟨rfl, eq₅⟩ := Leaf.cons_inj eq₄
    obtain ⟨rfl, rfl⟩ := determined' body_eq eq₅
    exact ⟨rfl, rfl⟩

/-- One parameter is not several. -/
theorem oneParameter (name : Leaf .identifier) : (Derivation.oneParameter name).Determined := by
  intro other rest rest' tree_eq tokens_eq
  cases other with
  | oneParameter =>
    obtain ⟨rfl, rfl⟩ := Leaf.cons_inj tokens_eq
    exact ⟨rfl, rfl⟩
  | nextParameter others comma name' =>
    have concat_eq : [] ++ [name.token] = others.tree ++ [name'.token] := tree_eq
    exact absurd (List.append_inj' concat_eq rfl).1.symm others.parameters_ne_nil

/-- Several parameters end with the last, and those before it are not none. -/
theorem nextParameter (determined : parameters.Determined) (comma : Leaf .comma)
    (name : Leaf .identifier) : (Derivation.nextParameter parameters comma name).Determined := by
  intro other rest rest' tree_eq tokens_eq
  cases other with
  | oneParameter name' =>
    have concat_eq : parameters.tree ++ [name.token] = [] ++ [name'.token] := tree_eq
    exact absurd (List.append_inj' concat_eq rfl).1 parameters.parameters_ne_nil
  | nextParameter =>
    obtain ⟨rfl, eq₁⟩ := determined.append (List.append_inj' tree_eq rfl).1 tokens_eq
    obtain ⟨rfl, eq₂⟩ := Leaf.cons_inj eq₁
    obtain ⟨rfl, rfl⟩ := Leaf.cons_inj eq₂
    exact ⟨rfl, rfl⟩

/-- A declaration without a value is none with one. -/
theorem uninitialized (keyword : Leaf (.keyword .varWord)) (name : Leaf .identifier) :
    (Derivation.uninitialized keyword name).Determined := by
  intro other rest rest' tree_eq tokens_eq
  cases other with
  | uninitialized =>
    obtain ⟨rfl, eq₁⟩ := Leaf.cons_inj tokens_eq
    obtain ⟨rfl, rfl⟩ := Leaf.cons_inj eq₁
    exact ⟨rfl, rfl⟩
  | initialized => cases (Clause.declaration.inj tree_eq).2.2

/-- A declaration with a value is none without one. -/
theorem initialized (keyword : Leaf (.keyword .varWord)) (name : Leaf .identifier)
    (sign : Leaf .assign) (determined : value.Determined) :
    (Derivation.initialized keyword name sign value).Determined := by
  intro other rest rest' tree_eq tokens_eq
  cases other with
  | uninitialized => cases (Clause.declaration.inj tree_eq).2.2
  | initialized =>
    obtain ⟨rfl, eq₁⟩ := Leaf.cons_inj tokens_eq
    obtain ⟨rfl, eq₂⟩ := Leaf.cons_inj eq₁
    obtain ⟨rfl, eq₃⟩ := Leaf.cons_inj eq₂
    obtain ⟨rfl, rfl⟩ := determined (Option.some.inj (Clause.declaration.inj tree_eq).2.2) eq₃
    exact ⟨rfl, rfl⟩

/-- A choice without `else` is none with it. -/
theorem ifThen (keyword : Leaf (.keyword .ifWord)) (opening : Leaf .leftParenthesis)
    (determined : condition.Determined) (closing : Leaf .rightParenthesis)
    (determined' : body.Determined) :
    (Derivation.ifThen keyword opening condition closing body).Determined := by
  intro other rest rest' tree_eq tokens_eq
  cases other with
  | ifThen =>
    obtain ⟨-, condition_eq, body_eq⟩ := Clause.ifThen.inj tree_eq
    obtain ⟨rfl, eq₁⟩ := Leaf.cons_inj tokens_eq
    obtain ⟨rfl, eq₂⟩ := Leaf.cons_inj eq₁
    obtain ⟨rfl, eq₃⟩ := determined.append condition_eq eq₂
    obtain ⟨rfl, eq₄⟩ := Leaf.cons_inj eq₃
    obtain ⟨rfl, rfl⟩ := determined' body_eq eq₄
    exact ⟨rfl, rfl⟩
  -- both forms of an `else` branch are told apart from none
  | ifElse _ _ _ _ _ _ alternative => cases alternative <;> cases tree_eq

/-- A choice with `else` is none without it. -/
theorem ifElse (keyword : Leaf (.keyword .ifWord)) (opening : Leaf .leftParenthesis)
    (determined : condition.Determined) (closing : Leaf .rightParenthesis)
    (determined' : body.Determined) (otherwise : Leaf (.keyword .elseWord))
    {alternative : Derivation .elseBranch} (determined'' : alternative.Determined) :
    (Derivation.ifElse keyword opening condition closing body otherwise alternative).Determined := by
  intro other rest rest' tree_eq tokens_eq
  cases other with
  | ifThen => cases alternative <;> cases tree_eq
  | ifElse =>
    obtain ⟨arm_eq, branch_eq⟩ := Arm.orElse_inj tree_eq
    obtain ⟨-, condition_eq, body_eq⟩ := Arm.mk.inj arm_eq
    obtain ⟨rfl, eq₁⟩ := Leaf.cons_inj tokens_eq
    obtain ⟨rfl, eq₂⟩ := Leaf.cons_inj eq₁
    obtain ⟨rfl, eq₃⟩ := determined.append condition_eq eq₂
    obtain ⟨rfl, eq₄⟩ := Leaf.cons_inj eq₃
    obtain ⟨rfl, eq₅⟩ := determined'.append body_eq eq₄
    obtain ⟨rfl, eq₆⟩ := Leaf.cons_inj eq₅
    obtain ⟨rfl, rfl⟩ := determined'' branch_eq eq₆
    exact ⟨rfl, rfl⟩

/-- A body after `else` is no choice. -/
theorem elseBody (determined : body.Determined) : (Derivation.elseBody body).Determined := by
  intro other rest rest' tree_eq tokens_eq
  cases other with
  | elseBody =>
    obtain ⟨rfl, rfl⟩ := determined (Sum.inl.inj tree_eq) tokens_eq
    exact ⟨rfl, rfl⟩
  | elseChoice => cases tree_eq

/-- A choice after `else` is no body. -/
theorem elseChoice {choice : Derivation .choice} (determined : choice.Determined) :
    (Derivation.elseChoice choice).Determined := by
  intro other rest rest' tree_eq tokens_eq
  cases other with
  | elseBody => cases tree_eq
  | elseChoice =>
    obtain ⟨rfl, rfl⟩ := determined (Sum.inr.inj tree_eq) tokens_eq
    exact ⟨rfl, rfl⟩

/-- The tree of a loop with its test first tells its test and its body. -/
theorem whileLoop (keyword : Leaf (.keyword .whileWord)) (opening : Leaf .leftParenthesis)
    (determined : condition.Determined) (closing : Leaf .rightParenthesis)
    (determined' : body.Determined) :
    (Derivation.whileLoop keyword opening condition closing body).Determined := by
  intro other rest rest' tree_eq tokens_eq
  cases other with
  | whileLoop =>
    obtain ⟨-, condition_eq, body_eq⟩ := Clause.whileLoop.inj tree_eq
    obtain ⟨rfl, eq₁⟩ := Leaf.cons_inj tokens_eq
    obtain ⟨rfl, eq₂⟩ := Leaf.cons_inj eq₁
    obtain ⟨rfl, eq₃⟩ := determined.append condition_eq eq₂
    obtain ⟨rfl, eq₄⟩ := Leaf.cons_inj eq₃
    obtain ⟨rfl, rfl⟩ := determined' body_eq eq₄
    exact ⟨rfl, rfl⟩

/-- The tree of a loop with its test last tells its body and its test. -/
theorem doLoop (keyword : Leaf (.keyword .doWord)) (determined : body.Determined)
    (test : Leaf (.keyword .whileWord)) (opening : Leaf .leftParenthesis)
    (determined' : condition.Determined) (closing : Leaf .rightParenthesis)
    (semicolon : Leaf .semicolon) :
    (Derivation.doLoop keyword body test opening condition closing semicolon).Determined := by
  intro other rest rest' tree_eq tokens_eq
  cases other with
  | doLoop =>
    obtain ⟨-, body_eq, condition_eq⟩ := Clause.doLoop.inj tree_eq
    obtain ⟨rfl, eq₁⟩ := Leaf.cons_inj tokens_eq
    obtain ⟨rfl, eq₂⟩ := determined.append body_eq eq₁
    obtain ⟨rfl, eq₃⟩ := Leaf.cons_inj eq₂
    obtain ⟨rfl, eq₄⟩ := Leaf.cons_inj eq₃
    obtain ⟨rfl, eq₅⟩ := determined'.append condition_eq eq₄
    obtain ⟨rfl, eq₆⟩ := Leaf.cons_inj eq₅
    obtain ⟨rfl, rfl⟩ := Leaf.cons_inj eq₆
    exact ⟨rfl, rfl⟩

/-- The tree of a loop with a heading tells the three parts of its heading and its body. -/
theorem forLoop (keyword : Leaf (.keyword .forWord)) (opening : Leaf .leftParenthesis)
    {first : Derivation .forStart} (determined : first.Determined) (afterStart : Leaf .semicolon)
    {test : Derivation .forTest} (determined' : test.Determined) (afterTest : Leaf .semicolon)
    {step : Derivation .forStep} (determined'' : step.Determined)
    (closing : Leaf .rightParenthesis) (determinedBody : body.Determined) :
    (Derivation.forLoop keyword opening first afterStart test afterTest step closing
      body).Determined := by
  intro other rest rest' tree_eq tokens_eq
  cases other with
  | forLoop =>
    obtain ⟨-, start_eq, test_eq, step_eq, body_eq⟩ := Clause.forLoop.inj tree_eq
    obtain ⟨rfl, eq₁⟩ := Leaf.cons_inj tokens_eq
    obtain ⟨rfl, eq₂⟩ := Leaf.cons_inj eq₁
    obtain ⟨rfl, eq₃⟩ := determined.append start_eq eq₂
    obtain ⟨rfl, eq₄⟩ := Leaf.cons_inj eq₃
    obtain ⟨rfl, eq₅⟩ := determined'.append test_eq eq₄
    obtain ⟨rfl, eq₆⟩ := Leaf.cons_inj eq₅
    obtain ⟨rfl, eq₇⟩ := determined''.append step_eq eq₆
    obtain ⟨rfl, eq₈⟩ := Leaf.cons_inj eq₇
    obtain ⟨rfl, rfl⟩ := determinedBody body_eq eq₈
    exact ⟨rfl, rfl⟩

/-- A heading that declares a variable starts with no expression. -/
theorem variableStart {declaration : Derivation .variableDeclaration}
    (determined : declaration.Determined) : (Derivation.variableStart declaration).Determined := by
  intro other rest rest' tree_eq tokens_eq
  cases other with
  | noStart => cases tree_eq
  | variableStart =>
    obtain ⟨rfl, rfl⟩ := determined (Option.some.inj tree_eq) tokens_eq
    exact ⟨rfl, rfl⟩
  | expressionStart => cases declaration <;> cases tree_eq

/-- A heading that starts with an expression declares no variable. -/
theorem expressionStart (determined : value.Determined) :
    (Derivation.expressionStart value).Determined := by
  intro other rest rest' tree_eq tokens_eq
  cases other with
  | noStart => cases tree_eq
  | variableStart declaration => cases declaration <;> cases tree_eq
  | expressionStart =>
    have value_eq := Clause.expression.inj (Option.some.inj tree_eq)
    obtain ⟨rfl, rfl⟩ := determined value_eq tokens_eq
    exact ⟨rfl, rfl⟩

/-- A test that is there is not left out. -/
theorem testOf (determined : value.Determined) : (Derivation.testOf value).Determined := by
  intro other rest rest' tree_eq tokens_eq
  cases other with
  | noTest => cases tree_eq
  | testOf =>
    obtain ⟨rfl, rfl⟩ := determined (Option.some.inj tree_eq) tokens_eq
    exact ⟨rfl, rfl⟩

/-- A step that is there is not left out. -/
theorem stepOf (determined : value.Determined) : (Derivation.stepOf value).Determined := by
  intro other rest rest' tree_eq tokens_eq
  cases other with
  | noStep => cases tree_eq
  | stepOf =>
    obtain ⟨rfl, rfl⟩ := determined (Option.some.inj tree_eq) tokens_eq
    exact ⟨rfl, rfl⟩

/-- A `return` without a value is none with one. -/
theorem returning (keyword : Leaf (.keyword .returnWord)) (semicolon : Leaf .semicolon) :
    (Derivation.returning keyword semicolon).Determined := by
  intro other rest rest' tree_eq tokens_eq
  cases other with
  | returning =>
    obtain ⟨rfl, eq₁⟩ := Leaf.cons_inj tokens_eq
    obtain ⟨rfl, rfl⟩ := Leaf.cons_inj eq₁
    exact ⟨rfl, rfl⟩
  | returningOf => cases (Clause.returning.inj tree_eq).2

/-- A `return` with a value is none without one. -/
theorem returningOf (keyword : Leaf (.keyword .returnWord)) (determined : value.Determined)
    (semicolon : Leaf .semicolon) :
    (Derivation.returningOf keyword value semicolon).Determined := by
  intro other rest rest' tree_eq tokens_eq
  cases other with
  | returning => cases (Clause.returning.inj tree_eq).2
  | returningOf =>
    have value_eq := Option.some.inj (Clause.returning.inj tree_eq).2
    obtain ⟨rfl, eq₁⟩ := Leaf.cons_inj tokens_eq
    obtain ⟨rfl, eq₂⟩ := determined.append value_eq eq₁
    obtain ⟨rfl, rfl⟩ := Leaf.cons_inj eq₂
    exact ⟨rfl, rfl⟩

/-- A body is the statements between its braces. -/
theorem braces (opening : Leaf .leftBrace) (determined : statements.Determined)
    (closing : Leaf .rightBrace) : (Derivation.braces opening statements closing).Determined := by
  intro other rest rest' tree_eq tokens_eq
  cases other with
  | braces =>
    obtain ⟨rfl, eq₁⟩ := Leaf.cons_inj tokens_eq
    obtain ⟨rfl, eq₂⟩ := determined.append tree_eq eq₁
    obtain ⟨rfl, rfl⟩ := Leaf.cons_inj eq₂
    exact ⟨rfl, rfl⟩

end Statements

end Determined

/-- No derivation leaves a choice. -/
theorem determined {symbol : Symbol} (derivation : Derivation symbol) : derivation.Determined := by
  induction derivation with
  | program _ ih =>
    intro other rest rest' tree_eq tokens_eq
    cases other with
    | program =>
      obtain ⟨rfl, rfl⟩ := ih tree_eq tokens_eq
      exact ⟨rfl, rfl⟩
  | noStatement => exact .noStatement
  | oneMore _ _ ih ih' => exact .oneMore ih ih'
  | functionStatement _ ih | choiceStatement _ ih | whileStatement _ ih | doStatement _ ih
  | forStatement _ ih | returnStatement _ ih | breakStatement _ ih | continueStatement _ ih
  | emptyStatement _ ih =>
    -- the other derivation starts from the same symbol, since the trees say which one it is
    intro other rest rest' tree_eq tokens_eq
    have origin_eq := origin_eq tree_eq
    cases other <;> cases origin_eq
    obtain ⟨rfl, rfl⟩ := ih tree_eq tokens_eq
    exact ⟨rfl, rfl⟩
  | variableStatement _ semicolon ih => exact .variableStatement ih semicolon
  | blockStatement _ ih => exact .blockStatement ih
  | expressionStatement _ semicolon ih => exact .expressionStatement ih semicolon
  | function keyword name opening closing _ ih => exact .function keyword name opening closing ih
  | functionOf keyword name opening _ closing _ ih ih' =>
    exact .functionOf keyword name opening ih closing ih'
  | oneParameter name => exact .oneParameter name
  | nextParameter _ comma name ih => exact .nextParameter ih comma name
  | uninitialized keyword name => exact .uninitialized keyword name
  | initialized keyword name sign _ ih => exact .initialized keyword name sign ih
  | ifThen keyword opening _ closing _ ih ih' => exact .ifThen keyword opening ih closing ih'
  | ifElse keyword opening _ closing _ otherwise _ ih ih' ih'' =>
    exact .ifElse keyword opening ih closing ih' otherwise ih''
  | elseBody _ ih => exact .elseBody ih
  | elseChoice _ ih => exact .elseChoice ih
  | whileLoop keyword opening _ closing _ ih ih' => exact .whileLoop keyword opening ih closing ih'
  | doLoop keyword _ test opening _ closing semicolon ih ih' =>
    exact .doLoop keyword ih test opening ih' closing semicolon
  | forLoop keyword opening _ afterStart _ afterTest _ closing _ ih ih' ih'' ihBody =>
    exact .forLoop keyword opening ih afterStart ih' afterTest ih'' closing ihBody
  | noStart | noTest | noStep =>
    intro other rest rest' tree_eq tokens_eq
    cases other <;> cases tree_eq
    exact ⟨rfl, tokens_eq⟩
  | variableStart _ ih => exact .variableStart ih
  | expressionStart _ ih => exact .expressionStart ih
  | testOf _ ih => exact .testOf ih
  | stepOf _ ih => exact .stepOf ih
  | returning keyword semicolon => exact .returning keyword semicolon
  | returningOf keyword _ semicolon ih => exact .returningOf keyword ih semicolon
  | breaking keyword semicolon | continuing keyword semicolon =>
    intro other rest rest' tree_eq tokens_eq
    cases other
    obtain ⟨rfl, eq₁⟩ := Leaf.cons_inj tokens_eq
    obtain ⟨rfl, rfl⟩ := Leaf.cons_inj eq₁
    exact ⟨rfl, rfl⟩
  | bare semicolon =>
    intro other rest rest' tree_eq tokens_eq
    cases other
    obtain ⟨rfl, rfl⟩ := Leaf.cons_inj tokens_eq
    exact ⟨rfl, rfl⟩
  | braces opening _ closing ih => exact .braces opening ih closing
  | whole _ ih => exact .whole ih
  | plain _ ih => exact .plain ih
  | assign _ sign _ ih ih' => exact .assign ih sign ih'
  | compoundAssign _ sign _ ih ih' => exact .compoundAssign ih sign ih'
  | single level _ ih => exact .single level ih
  | chain level _ operator _ ih ih' => exact .chain level ih operator ih'
  | prefixed operator _ ih => exact .prefixed operator ih
  | signed operator _ ih => exact .signed operator ih
  | atom _ ih => exact .atom ih
  | call callee opening closing => exact .call callee opening closing
  | callOf callee opening _ closing ih => exact .callOf callee opening ih closing
  | reference =>
    intro other rest rest' tree_eq tokens_eq
    cases other with
    | reference =>
      obtain ⟨rfl, rfl⟩ := Leaf.cons_inj tokens_eq
      exact ⟨rfl, rfl⟩
    | _ => cases tree_eq
  | integer =>
    intro other rest rest' tree_eq tokens_eq
    cases other with
    | integer =>
      obtain ⟨rfl, rfl⟩ := Leaf.cons_inj tokens_eq
      exact ⟨rfl, rfl⟩
    | _ => cases tree_eq
  | float =>
    intro other rest rest' tree_eq tokens_eq
    cases other with
    | float =>
      obtain ⟨rfl, rfl⟩ := Leaf.cons_inj tokens_eq
      exact ⟨rfl, rfl⟩
    | _ => cases tree_eq
  | string =>
    intro other rest rest' tree_eq tokens_eq
    cases other with
    | string =>
      obtain ⟨rfl, rfl⟩ := Leaf.cons_inj tokens_eq
      exact ⟨rfl, rfl⟩
    | _ => cases tree_eq
  | group opening _ closing ih => exact .group opening ih closing
  | oneArgument _ ih => exact .oneArgument ih
  | nextArgument _ comma _ ih ih' => exact .nextArgument ih comma ih'

/-- Derivations of programs with the same tokens are equal. -/
theorem eq_of_tokens_eq {derivation other : Derivation .start}
    (tokens_eq : derivation.tokens = other.tokens) : derivation = other := by
  -- a reader gets to one end only, so the trees agree
  obtain ⟨after, feeds, clauses_eq⟩ := derivation.exists_feeds
  obtain ⟨after', feeds', clauses_eq'⟩ := other.exists_feeds
  rw [← tokens_eq] at feeds'
  obtain rfl := feeds.eq feeds'
  have tree_eq : derivation.tree = other.tree := Option.some.inj (clauses_eq.symm.trans clauses_eq')
  exact (derivation.determined tree_eq (congrArg (· ++ []) tokens_eq)).1

end Derivation

end Scriptlet.Grammar
