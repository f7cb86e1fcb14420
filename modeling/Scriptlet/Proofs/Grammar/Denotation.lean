import Scriptlet.Proofs.Grammar.Derivation

/-! # What a derivation denotes

The nodes that a derivation denotes, said of the derivation itself: chains associate to the left and
assignments to the right, an operator in an assignment sign is applied to the variable, a choice
after `else` is the only statement of its branch, and empty statements leave nothing.  A node is
blamed on the line of the first token of its construct, but an operator between operands on its own
line, and parentheses leave the line of what they enclose.  Some derivations denote nothing: those
with an assignment to something else than a name, and those with a function that repeats a
parameter.

Main definitions:

* `Symbol.Meaning`, `Derivation.meaning`: what a symbol denotes.
* `Derivation.faults`: the constructs that have no meaning, inner before outer and left before
  right.

Main results:

* `Derivation.denotes`: turning the tree of a derivation into nodes gives what the derivation
  denotes, or else its first fault. -/

namespace Scriptlet.Grammar

/-- What a symbol denotes. -/
abbrev Symbol.Meaning : Symbol → Type
  | start | statements | body | elseBranch | arguments => List Node
  | statement | empty | forStart | forTest | forStep => Option Node
  | functionDeclaration | variableDeclaration | choice | whileLoop | doLoop | forLoop | returning
  | breaking | continuing | expression | assignment | operand _ | primary => Node
  | parameters => List String

namespace Derivation

/-- The name that an expression is, in any number of parentheses. -/
def name? {symbol : Symbol} : Derivation symbol → Option String
  | .whole assignment => assignment.name?
  | .plain operand => operand.name?
  | .single _ operand => operand.name?
  | .atom operand => operand.name?
  | .reference name => some name.token.lexeme
  | .group _ expression _ => expression.name?
  | _ => none

/-- What a derivation denotes.  Where a number token is no numeral or a target is no name, there is
nothing to denote, and what is written here does not matter. -/
def meaning {symbol : Symbol} : Derivation symbol → symbol.Meaning
  | .program statements => statements.meaning
  | .noStatement => []
  | .oneMore statements statement => statements.meaning ++ statement.meaning.toList
  | .functionStatement declaration => some declaration.meaning
  | .variableStatement declaration _ => some declaration.meaning
  | .choiceStatement choice => some choice.meaning
  | .whileStatement loop => some loop.meaning
  | .doStatement loop => some loop.meaning
  | .forStatement loop => some loop.meaning
  | .returnStatement jump => some jump.meaning
  | .breakStatement jump => some jump.meaning
  | .continueStatement jump => some jump.meaning
  | .blockStatement body => some (.block body.line body.meaning)
  | .expressionStatement expression _ => some expression.meaning
  | .emptyStatement empty => empty.meaning
  | .function keyword name _ _ body => .function keyword.token.line name.token.lexeme [] body.meaning
  | .functionOf keyword name _ parameters _ body =>
    .function keyword.token.line name.token.lexeme parameters.meaning body.meaning
  | .oneParameter name => [name.token.lexeme]
  | .nextParameter parameters _ name => parameters.meaning ++ [name.token.lexeme]
  | .uninitialized keyword name => .declaration keyword.token.line name.token.lexeme none
  | .initialized keyword name _ value =>
    .declaration keyword.token.line name.token.lexeme (some value.meaning)
  | .ifThen keyword _ condition _ body =>
    .conditional keyword.token.line condition.meaning body.meaning none
  | .ifElse keyword _ condition _ body _ alternative =>
    .conditional keyword.token.line condition.meaning body.meaning (some alternative.meaning)
  | .elseBody body => body.meaning
  | .elseChoice choice => [choice.meaning]
  | .whileLoop keyword _ condition _ body =>
    .whileLoop keyword.token.line condition.meaning body.meaning
  | .doLoop keyword body _ _ condition _ _ =>
    .doLoop keyword.token.line condition.meaning body.meaning
  | .forLoop keyword _ first _ condition _ step _ body =>
    .forLoop keyword.token.line first.meaning condition.meaning step.meaning body.meaning
  | .noStart => none
  | .variableStart declaration => some declaration.meaning
  | .expressionStart expression => some expression.meaning
  | .noTest => none
  | .testOf expression => some expression.meaning
  | .noStep => none
  | .stepOf expression => some expression.meaning
  | .returning keyword _ => .returning keyword.token.line none
  | .returningOf keyword value _ => .returning keyword.token.line (some value.meaning)
  | .breaking keyword _ => .breaking keyword.token.line
  | .continuing keyword _ => .continuing keyword.token.line
  | .bare _ => none
  | .braces _ statements _ => statements.meaning
  | .whole assignment => assignment.meaning
  | .plain operand => operand.meaning
  | .assign target _ value => .binary target.line "=" target.meaning value.meaning
  | .compoundAssign target sign value =>
    .binary target.line "=" target.meaning
      (.binary target.line (sign.token.lexeme.dropEnd 1).toString
        (.reference target.line (target.name?.getD "")) value.meaning)
  | .single _ operand => operand.meaning
  | .chain _ left operator right =>
    .binary (if operator.token.line = 0 then left.line else operator.token.line)
      operator.token.lexeme left.meaning right.meaning
  | .prefixed operator operand =>
    .unary operator.token.line operator.token.lexeme operand.meaning
  | .signed operator operand => .unary operator.token.line operator.token.lexeme operand.meaning
  | .atom operand => operand.meaning
  | .call callee _ _ => .call callee.token.line callee.token.lexeme []
  | .callOf callee _ arguments _ => .call callee.token.line callee.token.lexeme arguments.meaning
  | .reference name => .reference name.token.line name.token.lexeme
  | .integer numeral =>
    .integer numeral.token.line ((Decimal.integer? numeral.token.lexeme).getD 0)
  | .float numeral => .float numeral.token.line ((Decimal.double? numeral.token.lexeme).getD 0)
  | .string literal => .text literal.token.line literal.token.lexeme
  | .group _ expression _ => expression.meaning
  | .oneArgument expression => [expression.meaning]
  | .nextArgument arguments _ expression => arguments.meaning ++ [expression.meaning]

/-- The fault of an assignment to a target, if the target is not a name. -/
def targetFaults {symbol : Symbol} (target : Derivation symbol) : List Error :=
  if target.name?.isSome then [] else [⟨.unassignable, target.line⟩]

/-- The fault of a function with given parameters, if one of them is repeated. -/
def parameterFaults (line : Int) (name : String) (parameters : List String) : List Error :=
  if parameters.Nodup then [] else [⟨.repeatedParameter name, line⟩]

/-- The constructs that have no meaning, inner before outer and left before right. -/
def faults {symbol : Symbol} : Derivation symbol → List Error
  | .program statements => statements.faults
  | .oneMore statements statement => statements.faults ++ statement.faults
  | .functionStatement declaration => declaration.faults
  | .variableStatement declaration _ => declaration.faults
  | .choiceStatement choice => choice.faults
  | .whileStatement loop | .doStatement loop | .forStatement loop => loop.faults
  | .returnStatement jump | .breakStatement jump | .continueStatement jump => jump.faults
  | .blockStatement body => body.faults
  | .expressionStatement expression _ => expression.faults
  | .emptyStatement empty => empty.faults
  | .function _ _ _ _ body => body.faults
  | .functionOf keyword name _ parameters _ body =>
    body.faults ++ parameterFaults keyword.token.line name.token.lexeme parameters.meaning
  | .initialized _ _ _ value => value.faults
  | .ifThen _ _ condition _ body => condition.faults ++ body.faults
  | .ifElse _ _ condition _ body _ alternative =>
    condition.faults ++ body.faults ++ alternative.faults
  | .elseBody body => body.faults
  | .elseChoice choice => choice.faults
  | .whileLoop _ _ condition _ body => condition.faults ++ body.faults
  | .doLoop _ body _ _ condition _ _ => body.faults ++ condition.faults
  | .forLoop _ _ first _ condition _ step _ body =>
    first.faults ++ condition.faults ++ step.faults ++ body.faults
  | .variableStart declaration => declaration.faults
  | .expressionStart expression | .testOf expression | .stepOf expression => expression.faults
  | .returningOf _ value _ => value.faults
  | .braces _ statements _ => statements.faults
  | .whole assignment => assignment.faults
  | .plain operand => operand.faults
  | .assign target _ value => target.faults ++ value.faults ++ targetFaults target
  | .compoundAssign target _ value => target.faults ++ value.faults ++ targetFaults target
  | .single _ operand => operand.faults
  | .chain _ left _ right => left.faults ++ right.faults
  | .prefixed _ operand | .signed _ operand => operand.faults
  | .atom operand => operand.faults
  | .callOf _ _ arguments _ => arguments.faults
  | .group _ expression _ => expression.faults
  | .oneArgument expression => expression.faults
  | .nextArgument arguments _ expression => arguments.faults ++ expression.faults
  | .noStatement | .oneParameter _ | .nextParameter .. | .uninitialized .. | .noStart | .noTest
  | .noStep | .returning .. | .breaking .. | .continuing .. | .bare _ | .call .. | .reference _
  | .integer _ | .float _ | .string _ => []

end Derivation

/-! ## Outcomes -/

/-- A value, or the first of the faults that there are. -/
def outcome {α : Type} (faults : List Error) (value : α) : Except Failure α :=
  match faults with
  | [] => .ok value
  | fault :: _ => .error (.error fault)

section Outcome

variable {α β : Type} {faults more : List Error} {value : α} {result : β}

/-- Where there is no fault, there is a value. -/
@[simp] theorem outcome_nil (value : α) : outcome [] value = .ok value := rfl

/-- A value is only given where there is no fault. -/
theorem outcome_eq_ok {other : α} (h : outcome faults value = .ok other) :
    faults = [] ∧ value = other := by
  cases faults with
  | nil => exact ⟨rfl, Except.ok.inj h⟩
  | cons fault faults => cases h

/-- Of two outcomes after each other, the first fault is that of the first. -/
theorem outcome_bind {next : α → Except Failure β} (h : next value = outcome more result) :
    (outcome faults value >>= next) = outcome (faults ++ more) result := by
  cases faults with
  | nil => exact h
  | cons fault faults => rfl

/-- A value that is only changed leaves the faults. -/
theorem outcome_pure (f : α → β) :
    (outcome faults value >>= fun result => pure (f result)) = outcome faults (f value) := by
  cases faults <;> rfl

/-- Mapping a value leaves the faults. -/
theorem outcome_map (f : α → β) : (f <$> outcome faults value) = outcome faults (f value) := by
  cases faults <;> rfl

end Outcome

/-! ## Lines and names -/

/-- An expression starts on the line of its first token. -/
def Symbol.Starts : (symbol : Symbol) → symbol.Tree → List Token → Prop
  | expression, phrase, tokens | assignment, phrase, tokens | operand _, phrase, tokens
  | primary, phrase, tokens => ∃ first rest, tokens = first :: rest ∧ phrase.start = first.line
  | _, _, _ => True

/-- A derivation starts where its tree says, by induction on the derivation. -/
theorem Derivation.starts {symbol : Symbol} (derivation : Derivation symbol) :
    symbol.Starts derivation.tree derivation.tokens := by
  induction derivation with
  | whole _ ih | plain _ ih | single _ _ ih | atom _ ih => exact ih
  | assign _ sign value ih | compoundAssign _ sign value ih =>
    obtain ⟨first, rest, tokens_eq, start_eq⟩ := ih
    exact ⟨first, rest ++ sign.token :: value.tokens, congrArg (· ++ _) tokens_eq, start_eq⟩
  | chain _ _ operator right ih =>
    obtain ⟨first, rest, tokens_eq, start_eq⟩ := ih
    exact ⟨first, rest ++ operator.token :: right.tokens, congrArg (· ++ _) tokens_eq, start_eq⟩
  | prefixed operator | signed operator => exact ⟨operator.token, _, rfl, rfl⟩
  | call callee | callOf callee => exact ⟨callee.token, _, rfl, rfl⟩
  | reference token | integer token | float token | string token =>
    exact ⟨token.token, [], rfl, rfl⟩
  | group opening => exact ⟨opening.token, _, rfl, rfl⟩
  | _ => trivial

/-- The tree of an operand starts on the line of its first token. -/
theorem Derivation.start_tree {rung : Rung} (operand : Derivation (.operand rung)) :
    operand.tree.start = operand.line := by
  obtain ⟨first, rest, tokens_eq, start_eq⟩ := operand.starts
  rw [Derivation.line, tokens_eq, start_eq]
  rfl

/-- The name that a node is. -/
def nodeName? : Node → Option String
  | .reference _ name => some name
  | _ => none

/-- An expression denotes a name if it is one. -/
def Symbol.Names : (symbol : Symbol) → symbol.Meaning → Option String → Prop
  | expression, node, name | assignment, node, name | operand _, node, name
  | primary, node, name => nodeName? node = name
  | _, _, _ => True

/-- What a derivation denotes is a name only where the derivation is one. -/
theorem Derivation.names {symbol : Symbol} (derivation : Derivation symbol) :
    symbol.Names derivation.meaning derivation.name? := by
  induction derivation with
  | whole _ ih | plain _ ih | single _ _ ih | atom _ ih | group _ _ _ ih => exact ih
  | assign | compoundAssign | chain | prefixed | signed | call | callOf | reference | integer | float
  | string => exact rfl
  | _ => trivial

/-! ## Numerals -/

/-- Whether a token, if it is a number, is written as a numeral. -/
def hasNumeral (token : Token) : Bool :=
  match token.kind with
  | .integer => (Decimal.integer? token.lexeme).isSome
  | .float => (Decimal.double? token.lexeme).isSome
  | _ => true

/-- All number tokens are written as numerals. -/
def HaveNumerals (tokens : List Token) : Prop :=
  ∀ token ∈ tokens, hasNumeral token

instance (tokens : List Token) : Decidable (HaveNumerals tokens) :=
  inferInstanceAs (Decidable (∀ token ∈ tokens, hasNumeral token))

namespace HaveNumerals

variable {token : Token} {tokens more : List Token}

/-- If all numbers among tokens are numerals, the first token is one or no number. -/
theorem head (numerals : HaveNumerals (token :: tokens)) : hasNumeral token :=
  numerals token List.mem_cons_self

/-- If all numbers among tokens are numerals, so are those after the first. -/
theorem tail (numerals : HaveNumerals (token :: tokens)) : HaveNumerals tokens :=
  fun token mem => numerals token (List.mem_cons_of_mem _ mem)

/-- If all numbers among tokens are numerals, so are those in front. -/
theorem left (numerals : HaveNumerals (tokens ++ more)) : HaveNumerals tokens :=
  fun token mem => numerals token (List.mem_append_left _ mem)

/-- If all numbers among tokens are numerals, so are those behind. -/
theorem right (numerals : HaveNumerals (tokens ++ more)) : HaveNumerals more :=
  fun token mem => numerals token (List.mem_append_right _ mem)

end HaveNumerals

/-- Whether the tokens of a class are numbers. -/
def Terminal.isNumber : Terminal → Bool
  | integer | float => true
  | _ => false

/-- No operator is a number. -/
theorem Terminal.isNumber_ofOperator? {lexeme : String} {terminal : Terminal}
    (h : ofOperator? lexeme = some terminal) : terminal.isNumber = false := by
  unfold ofOperator? at h
  split at h <;> cases h <;> rfl

/-- No punctuation is a number. -/
theorem Terminal.isNumber_ofPunctuation? {lexeme : String} {terminal : Terminal}
    (h : ofPunctuation? lexeme = some terminal) : terminal.isNumber = false := by
  unfold ofPunctuation? at h
  split at h <;> cases h <;> rfl

/-- No name is a number. -/
theorem Terminal.isNumber_ofName (name : String) : (ofName name).isNumber = false := by
  unfold ofName
  split <;> rfl

/-- Only number tokens are in the classes of numbers. -/
theorem Leaf.kind_eq {terminal : Terminal} (leaf : Leaf terminal) (h : terminal.isNumber) :
    (terminal = .integer ∧ leaf.token.kind = .integer) ∨
      (terminal = .float ∧ leaf.token.kind = .float) := by
  have class_eq := leaf.ofToken?_eq
  unfold Terminal.ofToken? at class_eq
  split at class_eq
  case h_2 kind_eq => exact .inl ⟨(Option.some.inj class_eq).symm, kind_eq⟩
  case h_3 kind_eq => exact .inr ⟨(Option.some.inj class_eq).symm, kind_eq⟩
  case h_5 => exact absurd h (by simp [Terminal.isNumber_ofOperator? class_eq])
  case h_6 => exact absurd h (by simp [Terminal.isNumber_ofPunctuation? class_eq])
  case h_9 name _ => exact absurd h (by simp [← Option.some.inj class_eq, Terminal.isNumber_ofName])
  all_goals
    cases class_eq
    cases h

/-- The token of an integer is written as a numeral if its lexeme denotes an integer. -/
theorem Leaf.hasNumeral_integer (leaf : Leaf .integer) :
    hasNumeral leaf.token = (Decimal.integer? leaf.token.lexeme).isSome := by
  obtain ⟨-, kind_eq⟩ | ⟨terminal_eq, -⟩ := leaf.kind_eq rfl
  · simp only [hasNumeral, kind_eq]
  · cases terminal_eq

/-- The token of a float is written as a numeral if its lexeme denotes a double. -/
theorem Leaf.hasNumeral_float (leaf : Leaf .float) :
    hasNumeral leaf.token = (Decimal.double? leaf.token.lexeme).isSome := by
  obtain ⟨terminal_eq, -⟩ | ⟨-, kind_eq⟩ := leaf.kind_eq rfl
  · cases terminal_eq
  · simp only [hasNumeral, kind_eq]

/-! ## Expressions -/

section Expressions

attribute [local simp] Phrase.node Phrase.nodes

variable {phrase left right target value : Phrase} {phrases : List Phrase}
  {node leftNode rightNode targetNode valueNode : Node} {nodes : List Node}
  {faults more : List Error}

/-- An integer that is a numeral denotes its value. -/
theorem node_integer (leaf : Leaf .integer) (h : hasNumeral leaf.token) :
    (Phrase.integer leaf.token).node = .ok
      (.integer leaf.token.line ((Decimal.integer? leaf.token.lexeme).getD 0)) := by
  obtain ⟨value, value_eq⟩ := Option.isSome_iff_exists.mp (leaf.hasNumeral_integer.symm.trans h)
  simp only [Phrase.node, value_eq, Option.getD_some]

/-- A float that is a numeral denotes its value. -/
theorem node_float (leaf : Leaf .float) (h : hasNumeral leaf.token) :
    (Phrase.float leaf.token).node = .ok
      (.float leaf.token.line ((Decimal.double? leaf.token.lexeme).getD 0)) := by
  obtain ⟨value, value_eq⟩ := Option.isSome_iff_exists.mp (leaf.hasNumeral_float.symm.trans h)
  simp only [Phrase.node, value_eq, Option.getD_some]

/-- An operator in front adds no fault. -/
theorem node_unary (operator : Token) (h : phrase.node = outcome faults node) :
    (Phrase.unary operator phrase).node
      = outcome faults (.unary operator.line operator.lexeme node) := by
  rw [Phrase.node, h]
  exact outcome_pure _

/-- The faults of two operands come in the order of the operands. -/
theorem node_binary (operator : Token) (h : left.node = outcome faults leftNode)
    (h' : right.node = outcome more rightNode) :
    (Phrase.binary left operator right).node
      = outcome (faults ++ more) (.binary (if operator.line = 0 then left.start else operator.line)
        operator.lexeme leftNode rightNode) := by
  rw [Phrase.node, h]
  apply outcome_bind
  rw [h']
  exact outcome_pure _

/-- A call has the faults of its arguments. -/
theorem node_call (callee : Token) (h : Phrase.nodes phrases = outcome faults nodes) :
    (Phrase.call callee phrases).node
      = outcome faults (.call callee.line callee.lexeme nodes) := by
  rw [Phrase.node, h]
  exact outcome_pure _

/-- The plain sign of an assignment has no operator. -/
theorem Leaf.compoundOperator?_eq_none (sign : Leaf .assign) :
    compoundOperator? sign.token = none := by
  simp only [compoundOperator?, sign.ofToken?_eq]

/-- Every other sign of an assignment has one. -/
theorem Leaf.compoundOperator?_eq_some (sign : Leaf .compoundAssign) :
    compoundOperator? sign.token = some (sign.token.lexeme.dropEnd 1).toString := by
  simp only [compoundOperator?, sign.ofToken?_eq]

/-- An assignment has the faults of its two sides, then its own if it assigns to no name. -/
theorem node_assign (sign : Token) (h : target.node = outcome faults targetNode)
    (h' : value.node = outcome more valueNode) :
    (Phrase.assign target sign value).node
      = outcome (faults ++ more ++
          if (nodeName? targetNode).isSome then [] else [⟨.unassignable, target.start⟩])
        (.binary target.start "=" targetNode (match compoundOperator? sign with
          | none => valueNode
          | some operator => .binary target.start operator
              (.reference target.start ((nodeName? targetNode).getD "")) valueNode)) := by
  rw [Phrase.node, h, List.append_assoc]
  apply outcome_bind
  rw [h']
  apply outcome_bind
  -- only a name can be assigned to, with or without an operator
  cases targetNode <;> cases compoundOperator? sign <;> rfl

/-- Arguments are turned into nodes from left to right. -/
theorem nodes_concat (phrases : List Phrase) (phrase : Phrase) :
    Phrase.nodes (phrases ++ [phrase]) = (do
      let nodes ← Phrase.nodes phrases
      let node ← phrase.node
      return nodes ++ [node]) := by
  induction phrases with
  | nil =>
    simp only [List.nil_append, Phrase.nodes]
    cases phrase.node <;> rfl
  | cons first phrases ih =>
    simp only [List.cons_append, Phrase.nodes, ih]
    cases first.node with
    | error failure => rfl
    | ok node => cases Phrase.nodes phrases <;> cases phrase.node <;> rfl

/-- The faults of a further expression come last. -/
theorem nodes_append (h : Phrase.nodes phrases = outcome faults nodes)
    (h' : phrase.node = outcome more node) :
    Phrase.nodes (phrases ++ [phrase]) = outcome (faults ++ more) (nodes ++ [node]) := by
  rw [nodes_concat, h]
  apply outcome_bind
  rw [h']
  exact outcome_pure _

end Expressions

/-! ## Statements -/

section Statements

attribute [local simp] Clause.node Clause.nodes Phrase.node?

variable {clause : Clause} {clauses others : List Clause} {condition step : Option Phrase}
  {phrase : Phrase} {node : Node} {nodes : List Node} {faults more rest : List Error}

/-- The nodes of what follows `else`. -/
def branchNodes : List Clause ⊕ Clause → Except Failure (List Node)
  | .inl body => Clause.nodes body
  | .inr choice => Option.toList <$> choice.node

/-- Statements are turned into nodes in order. -/
theorem clauseNodes_concat (clauses : List Clause) (clause : Clause) :
    Clause.nodes (clauses ++ [clause]) = (do
      let nodes ← Clause.nodes clauses
      let node ← clause.node
      return nodes ++ node.toList) := by
  induction clauses with
  | nil =>
    simp only [List.nil_append, Clause.nodes]
    cases clause.node with
    | error failure => rfl
    | ok node => exact congrArg Except.ok (List.append_nil _)
  | cons first clauses ih =>
    simp only [List.cons_append, Clause.nodes, ih]
    cases first.node with
    | error failure => rfl
    | ok node =>
      cases Clause.nodes clauses with
      | error failure => rfl
      | ok nodes =>
        cases clause.node with
        | error failure => rfl
        | ok last => exact congrArg Except.ok (List.append_assoc ..).symm

/-- The faults of a further statement come last. -/
theorem clauseNodes_append {last : Option Node} (h : Clause.nodes clauses = outcome faults nodes)
    (h' : clause.node = outcome more last) :
    Clause.nodes (clauses ++ [clause]) = outcome (faults ++ more) (nodes ++ last.toList) := by
  rw [clauseNodes_concat, h]
  apply outcome_bind
  rw [h']
  exact outcome_pure _

/-- A function has the faults of its body, then its own if it repeats a parameter. -/
theorem node_function (line : Int) (name : Token) (parameters : List Token)
    (h : Clause.nodes clauses = outcome faults nodes) :
    (Clause.function line name parameters clauses).node
      = outcome (faults ++ Derivation.parameterFaults line name.lexeme (parameters.map (·.lexeme)))
        (some (.function line name.lexeme (parameters.map (·.lexeme)) nodes)) := by
  rw [Clause.node, h]
  apply outcome_bind
  by_cases distinct : (parameters.map (·.lexeme)).Nodup
  · simp only [Derivation.parameterFaults, if_pos distinct]
    rfl
  · simp only [Derivation.parameterFaults, if_neg distinct]
    rfl

/-- A block has the faults of its statements. -/
theorem node_block (line : Int) (h : Clause.nodes clauses = outcome faults nodes) :
    (Clause.block line clauses).node = outcome faults (some (.block line nodes)) := by
  rw [Clause.node, h]
  exact outcome_pure _

/-- A statement that is an expression has the faults of the expression. -/
theorem node_expression (h : phrase.node = outcome faults node) :
    (Clause.expression phrase).node = outcome faults (some node) := by
  rw [Clause.node, h]
  exact outcome_map some

/-- An expression that may be absent and is there has its faults. -/
theorem phraseNode?_some (h : phrase.node = outcome faults node) :
    Phrase.node? (some phrase) = outcome faults (some node) := by
  rw [Phrase.node?, h]
  exact outcome_map some

/-- A declaration has the faults of its value. -/
theorem node_declaration (line : Int) (name : Token) (h : phrase.node = outcome faults node) :
    (Clause.declaration line name (some phrase)).node
      = outcome faults (some (.declaration line name.lexeme (some node))) := by
  rw [Clause.node, phraseNode?_some h]
  exact outcome_pure _

/-- A `return` has the faults of its value. -/
theorem node_returning (line : Int) (h : phrase.node = outcome faults node) :
    (Clause.returning line (some phrase)).node
      = outcome faults (some (.returning line (some node))) := by
  rw [Clause.node, phraseNode?_some h]
  exact outcome_pure _

/-- A choice has the faults of its condition, then those of its body. -/
theorem node_ifThen (line : Int) (h : phrase.node = outcome faults node)
    (h' : Clause.nodes clauses = outcome more nodes) :
    (Clause.ifThen line phrase clauses).node
      = outcome (faults ++ more) (some (.conditional line node nodes none)) := by
  rw [Clause.node, h]
  apply outcome_bind
  rw [h']
  exact outcome_pure _

/-- The faults of the branch after `else` come last. -/
theorem node_orElse (line : Int) {branch : List Clause ⊕ Clause} {otherNodes : List Node}
    (h : phrase.node = outcome faults node) (h' : Clause.nodes clauses = outcome more nodes)
    (h'' : branchNodes branch = outcome rest otherNodes) :
    (Arm.orElse ⟨line, phrase, clauses⟩ branch).node
      = outcome (faults ++ more ++ rest) (some (.conditional line node nodes (some otherNodes))) := by
  rw [List.append_assoc]
  cases branch with
  | inl others =>
    rw [Arm.orElse, Clause.node, h]
    apply outcome_bind
    rw [h']
    apply outcome_bind
    rw [show Clause.nodes others = outcome rest otherNodes from h'']
    exact outcome_pure _
  | inr choice =>
    rw [Arm.orElse, Clause.node, h]
    apply outcome_bind
    rw [h']
    apply outcome_bind
    -- a choice is a statement that leaves one node, so its branch is a list of one
    have bind_eq : (choice.node >>= fun other =>
        pure (some (Node.conditional line node nodes (some other.toList))))
          = (branchNodes (.inr choice) >>= fun other =>
            pure (some (Node.conditional line node nodes (some other)))) := by
      rw [branchNodes]
      cases choice.node <;> rfl
    rw [bind_eq, h'']
    exact outcome_pure _

/-- A loop with its test first has the faults of the test, then those of the body. -/
theorem node_whileLoop (line : Int) (h : phrase.node = outcome faults node)
    (h' : Clause.nodes clauses = outcome more nodes) :
    (Clause.whileLoop line phrase clauses).node
      = outcome (faults ++ more) (some (.whileLoop line node nodes)) := by
  rw [Clause.node, h]
  apply outcome_bind
  rw [h']
  exact outcome_pure _

/-- A loop with its test last has the faults of the body, then those of the test. -/
theorem node_doLoop (line : Int) (h : Clause.nodes clauses = outcome faults nodes)
    (h' : phrase.node = outcome more node) :
    (Clause.doLoop line clauses phrase).node
      = outcome (faults ++ more) (some (.doLoop line node nodes)) := by
  rw [Clause.node, h]
  apply outcome_bind
  rw [h']
  exact outcome_pure _

/-- A loop with a heading has the faults of start, test, step and body, in this order. -/
theorem node_forLoop (line : Int) {start : Option Clause} {startNode testNode stepNode : Option Node}
    {bodyFaults : List Error} (h : Clause.node? start = outcome faults startNode)
    (h' : Phrase.node? condition = outcome more testNode)
    (h'' : Phrase.node? step = outcome rest stepNode)
    (hBody : Clause.nodes clauses = outcome bodyFaults nodes) :
    (Clause.forLoop line start condition step clauses).node
      = outcome (faults ++ more ++ rest ++ bodyFaults)
        (some (.forLoop line startNode testNode stepNode nodes)) := by
  rw [Clause.node, h, List.append_assoc, List.append_assoc]
  apply outcome_bind
  rw [h']
  apply outcome_bind
  rw [h'']
  apply outcome_bind
  rw [hBody]
  exact outcome_pure _

end Statements

/-! ## Derivations -/

/-- A tree is turned into what a symbol denotes, or into the first of the faults that there are. -/
def Symbol.Denotes : (symbol : Symbol) → symbol.Tree → symbol.Meaning → List Error → Prop
  | start, clauses, nodes, faults | statements, clauses, nodes, faults
  | body, clauses, nodes, faults => Clause.nodes clauses = outcome faults nodes
  | statement, clause, node, faults | empty, clause, node, faults =>
    clause.node = outcome faults node
  | functionDeclaration, clause, node, faults | variableDeclaration, clause, node, faults
  | choice, clause, node, faults | whileLoop, clause, node, faults | doLoop, clause, node, faults
  | forLoop, clause, node, faults | returning, clause, node, faults
  | breaking, clause, node, faults | continuing, clause, node, faults =>
    clause.node = outcome faults (some node)
  | elseBranch, branch, nodes, faults => branchNodes branch = outcome faults nodes
  | parameters, tokens, names, _ => tokens.map (·.lexeme) = names
  | forStart, clause, node, faults => Clause.node? clause = outcome faults node
  | forTest, phrase, node, faults | forStep, phrase, node, faults =>
    Phrase.node? phrase = outcome faults node
  | expression, phrase, node, faults | assignment, phrase, node, faults
  | operand _, phrase, node, faults | primary, phrase, node, faults =>
    phrase.node = outcome faults node
  | arguments, phrases, nodes, faults => Phrase.nodes phrases = outcome faults nodes

/-- Turning the tree of a derivation into nodes gives what the derivation denotes, or else its first
fault. -/
theorem Derivation.denotes {symbol : Symbol} (derivation : Derivation symbol)
    (numerals : HaveNumerals derivation.tokens) :
    symbol.Denotes derivation.tree derivation.meaning derivation.faults := by
  induction derivation with
  | program _ ih => exact ih numerals
  | noStatement => exact rfl
  | oneMore _ _ ih ih' => exact clauseNodes_append (ih numerals.left) (ih' numerals.right)
  | functionStatement _ ih | choiceStatement _ ih | whileStatement _ ih | doStatement _ ih
  | forStatement _ ih | returnStatement _ ih | breakStatement _ ih | continueStatement _ ih
  | emptyStatement _ ih => exact ih numerals
  | variableStatement _ semicolon ih => exact ih numerals.left
  | blockStatement body ih => exact node_block body.line (ih numerals)
  | expressionStatement _ _ ih => exact node_expression (ih numerals.left)
  | function keyword name _ _ _ ih =>
    -- no parameters, so none is repeated
    have h := node_function keyword.token.line name.token [] (ih numerals.tail.tail.tail.tail)
    rwa [List.map_nil, parameterFaults, if_pos List.nodup_nil, List.append_nil] at h
  | functionOf keyword name _ parameters _ _ ih ih' =>
    have names_eq : parameters.tree.map (·.lexeme) = parameters.meaning :=
      ih numerals.tail.tail.tail.left
    have h := node_function keyword.token.line name.token parameters.tree
      (ih' numerals.tail.tail.tail.right.tail)
    rwa [names_eq] at h
  | oneParameter name => exact rfl
  | nextParameter parameters _ name ih =>
    have names_eq : parameters.tree.map (·.lexeme) = parameters.meaning := ih numerals.left
    exact (List.map_append ..).trans (congrArg (· ++ [name.token.lexeme]) names_eq)
  | uninitialized => exact rfl
  | initialized keyword name _ _ ih =>
    exact node_declaration keyword.token.line name.token (ih numerals.tail.tail.tail)
  | ifThen keyword _ _ _ _ ih ih' =>
    exact node_ifThen keyword.token.line (ih numerals.tail.tail.left)
      (ih' numerals.tail.tail.right.tail)
  | ifElse keyword _ _ _ _ _ _ ih ih' ih'' =>
    exact node_orElse keyword.token.line (ih numerals.tail.tail.left)
      (ih' numerals.tail.tail.right.tail.left) (ih'' numerals.tail.tail.right.tail.right.tail)
  | elseBody _ ih => exact ih numerals
  | elseChoice choice ih =>
    have h : choice.tree.node = outcome choice.faults (some choice.meaning) := ih numerals
    exact (congrArg _ h).trans (outcome_map Option.toList)
  | whileLoop keyword _ _ _ _ ih ih' =>
    exact node_whileLoop keyword.token.line (ih numerals.tail.tail.left)
      (ih' numerals.tail.tail.right.tail)
  | doLoop keyword _ _ _ _ _ _ ih ih' =>
    exact node_doLoop keyword.token.line (ih numerals.tail.left)
      (ih' numerals.tail.right.tail.tail.left)
  | forLoop keyword _ _ _ _ _ _ _ _ ih ih' ih'' ihBody =>
    have rest := numerals.tail.tail
    exact node_forLoop keyword.token.line (ih rest.left) (ih' rest.right.tail.left)
      (ih'' rest.right.tail.right.tail.left) (ihBody rest.right.tail.right.tail.right.tail)
  | noStart | noTest | noStep => exact rfl
  | variableStart _ ih => exact ih numerals
  | expressionStart _ ih => exact node_expression (ih numerals)
  | testOf _ ih | stepOf _ ih => exact phraseNode?_some (ih numerals)
  | returning | breaking | continuing | bare => exact rfl
  | returningOf keyword _ _ ih => exact node_returning keyword.token.line (ih numerals.tail.left)
  | braces _ _ _ ih => exact ih numerals.tail.left
  | whole _ ih | plain _ ih | single _ _ ih | atom _ ih => exact ih numerals
  | assign target sign _ ih ih' =>
    -- what the target denotes is a name exactly if the target is one
    have h := node_assign sign.token (ih numerals.left) (ih' numerals.right.tail)
    have name_eq : nodeName? target.meaning = target.name? := target.names
    rwa [sign.compoundOperator?_eq_none, target.start_tree, name_eq] at h
  | compoundAssign target sign _ ih ih' =>
    have h := node_assign sign.token (ih numerals.left) (ih' numerals.right.tail)
    have name_eq : nodeName? target.meaning = target.name? := target.names
    rwa [sign.compoundOperator?_eq_some, target.start_tree, name_eq] at h
  | chain _ left operator _ ih ih' =>
    -- an operator without a line of its own takes that of the first token
    have h := node_binary operator.token (ih numerals.left) (ih' numerals.right.tail)
    rwa [left.start_tree] at h
  | prefixed operator _ ih | signed operator _ ih =>
    exact node_unary operator.token (ih numerals.tail)
  | call => exact rfl
  | callOf callee _ _ _ ih => exact node_call callee.token (ih numerals.tail.tail.left)
  | reference | string => exact rfl
  | integer numeral => exact node_integer numeral numerals.head
  | float numeral => exact node_float numeral numerals.head
  | group _ _ _ ih => exact ih numerals.tail.left
  | oneArgument _ ih => exact @nodes_append _ [] _ [] [] _ rfl (ih numerals)
  | nextArgument _ _ _ ih ih' => exact nodes_append (ih numerals.left) (ih' numerals.right.tail)

end Scriptlet.Grammar
