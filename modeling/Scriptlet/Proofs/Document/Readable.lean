import Scriptlet.Document.Item
import Scriptlet.Proofs.Grammar.Program
import Scriptlet.Proofs.Json.RoundTrip

/-! # Programs that documents can hold

The numbers in the document of a program are lines and integer literals.  Those of a program that is
read from a source text are short enough to be read back: a numeral that is too long is refused, and
lines are counted.

Main definitions:

* `Symbol.Storable`: what a tree of the grammar is turned into can be held by a document.

Main statements:

* `Derivation.storable`: all that is derived from tokens on short lines is storable.
* `isReadable_ofSource`: a document can hold the program that a source text denotes. -/

namespace Scriptlet

open Json

/-- An integer that is short enough to be read. -/
def IsShort (number : ℤ) : Prop :=
  number.natAbs < 10 ^ Decimal.digitLimit

/-! ## Integer literals -/

namespace Decimal

/-- The value of a digit is below ten. -/
theorem digitValue?_lt {character : Char} {value : ℕ}
    (value_eq : Text.digitValue? character = some value) : value < 10 := by
  rw [Text.digitValue?] at value_eq
  split_ifs at value_eq with isDigit
  · obtain rfl := Option.some.inj value_eq
    have := Char.isDigit_iff_toNat.mp isDigit
    simp at this
    omega
  · obtain ⟨first, found, rfl⟩ := Option.map_eq_some_iff.mp value_eq
    have := List.find?_some found
    simp only [Bool.and_eq_true, decide_eq_true_eq] at this
    omega

/-- The values of digits are below ten. -/
theorem takeDigits_lt (text : List Char) : ∀ value ∈ (takeDigits text).1, value < 10 := by
  fun_induction takeDigits text with
  | case1 | case2 | case5 => nofun
  | case3 first rest value _ _ value_eq => simpa using digitValue?_lt value_eq
  | case4 first rest value values _ _ taken value_eq ih =>
    rw [taken] at ih
    exact List.forall_mem_cons.mpr ⟨digitValue?_lt value_eq, ih⟩
  | case6 first rest _ value value_eq values _ taken ih =>
    rw [taken] at ih
    exact List.forall_mem_cons.mpr ⟨digitValue?_lt value_eq, ih⟩

/-- A natural is below the power of ten that counts its digits. -/
theorem ofDigits_lt {digits : List ℕ} (all : ∀ digit ∈ digits, digit < 10) :
    ofDigits digits < 10 ^ digits.length := by
  have general (start : ℕ) : digits.foldl (fun number digit => 10 * number + digit) start <
      10 ^ digits.length * (start + 1) := by
    induction digits generalizing start with
    | nil => simp
    | cons digit digits ih =>
      have small := all digit List.mem_cons_self
      refine (ih (fun digit mem => all digit (List.mem_cons_of_mem _ mem)) _).trans_le ?_
      rw [List.length_cons, pow_succ, mul_assoc]
      gcongr
      dsimp only
      omega
  simpa [ofDigits] using general 0

/-- An integer that is read from a numeral is short. -/
theorem isShort_integer? {text : String} {number : ℤ} (number_eq : integer? text = some number) :
    IsShort number := by
  simp only [integer?] at number_eq
  split at number_eq
  · rename_i digits taken
    split_ifs at number_eq with refused
    obtain rfl := Option.some.inj number_eq
    have all := takeDigits_lt (takeSign (Text.trimMargin text.toList)).2
    rw [taken] at all
    simp only [Bool.or_eq_true, decide_eq_true_eq, not_or, not_lt] at refused
    have small := (ofDigits_lt all).trans_le (Nat.pow_le_pow_right (by norm_num) refused.2)
    rw [IsShort, signed]
    split_ifs
    · simpa using small
    · simpa using small
  · cases number_eq

end Decimal

/-! ## Documents of nodes -/

namespace Node

/-- Names are readable. -/
theorem areReadable_strings (texts : List String) : AreReadable (texts.map .string) := by
  induction texts with
  | nil => trivial
  | cons text texts ih => exact ⟨trivial, ih⟩

/-- Nodes and further ones are readable if both are. -/
theorem areReadable_append {nodes others : List Node} (readable : AreReadable (toJsons nodes))
    (readable' : AreReadable (toJsons others)) : AreReadable (toJsons (nodes ++ others)) := by
  induction nodes with
  | nil => exact readable'
  | cons node nodes ih => exact ⟨readable.1, ih readable.2⟩

/-- A node that may be missing is readable as a list. -/
theorem areReadable_toList {node : Option Node} (readable : (toJson? node).IsReadable) :
    AreReadable (toJsons node.toList) := by
  cases node with
  | none => trivial
  | some node => exact ⟨readable, trivial⟩

/-- The object of a node is readable if its line and its parts are. -/
theorem isReadable_nodeObject {name : String} {line : ℤ} {parts : List (String × Json)}
    (short : IsShort line) (readable : HaveReadable parts)
    (distinct : ("type" :: "line" :: parts.map Prod.fst).Nodup) :
    (nodeObject name line parts).IsReadable :=
  ⟨distinct, trivial, short, readable⟩

/-- An operator between operands is readable if its line is short and they are readable. -/
theorem isReadable_binary {line : ℤ} {operator : String} {left right : Node} (short : IsShort line)
    (readable : left.toJson.IsReadable) (readable' : right.toJson.IsReadable) :
    (binary line operator left right).toJson.IsReadable :=
  isReadable_nodeObject short ⟨trivial, readable, readable', trivial⟩ (by simp)

end Node

/-! ## Programs of a grammar -/

namespace Grammar

open Node

section Results

variable {ε α β : Type}

/-- Steps succeed if and only if the first does and then the next. -/
theorem bind_eq_ok {result : Except ε α} {next : α → Except ε β} {value : β} :
    (result >>= next) = .ok value ↔ ∃ given, result = .ok given ∧ next given = .ok value := by
  cases result with
  | error failure => exact ⟨nofun, nofun⟩
  | ok given => exact ⟨fun next_eq => ⟨given, rfl, next_eq⟩, fun ⟨_, rfl, next_eq⟩ => next_eq⟩

/-- Success gives its value. -/
theorem pure_eq_ok {value other : α} : (pure value : Except ε α) = .ok other ↔ value = other := by
  simp [pure, Except.pure]

/-- A changed result is that of a success. -/
theorem map_eq_ok {result : Except ε α} {change : α → β} {value : β} :
    (change <$> result) = .ok value ↔ ∃ given, result = .ok given ∧ change given = value := by
  cases result with
  | error failure => exact ⟨nofun, nofun⟩
  | ok given =>
    exact ⟨fun value_eq => ⟨given, rfl, Except.ok.inj value_eq⟩,
      fun ⟨_, rfl, value_eq⟩ => congrArg Except.ok value_eq⟩

end Results

/-- All tokens stand on short lines. -/
def OnShortLines (tokens : List Token) : Prop :=
  ∀ token ∈ tokens, IsShort token.line

namespace OnShortLines

variable {token : Token} {tokens more : List Token}

/-- The first of tokens on short lines is on one. -/
theorem head (short : OnShortLines (token :: tokens)) : IsShort token.line :=
  short token List.mem_cons_self

/-- The tokens after the first of tokens on short lines are on such. -/
theorem tail (short : OnShortLines (token :: tokens)) : OnShortLines tokens :=
  fun token mem => short token (List.mem_cons_of_mem _ mem)

/-- Tokens in front of others on short lines are on such. -/
theorem left (short : OnShortLines (tokens ++ more)) : OnShortLines tokens :=
  fun token mem => short token (List.mem_append_left _ mem)

/-- Tokens behind others on short lines are on such. -/
theorem right (short : OnShortLines (tokens ++ more)) : OnShortLines more :=
  fun token mem => short token (List.mem_append_right _ mem)

end OnShortLines

/-- Zero is short. -/
theorem isShort_zero : IsShort 0 := by
  simp [IsShort]

/-- What is derived from tokens on short lines is on one of them, or on line zero. -/
theorem Derivation.isShort_line {symbol : Symbol} {derivation : Derivation symbol}
    (short : OnShortLines derivation.tokens) : IsShort derivation.line := by
  rw [Derivation.line]
  cases tokens_eq : derivation.tokens with
  | nil => exact isShort_zero
  | cons first rest => exact (tokens_eq ▸ short).head

section Expressions

variable {phrase left right : Phrase} {phrases : List Phrase}

/-- Whatever an expression is turned into, a document can hold it. -/
def Phrase.Storable (phrase : Phrase) : Prop :=
  ∀ node, phrase.node = .ok node → node.toJson.IsReadable

/-- Whatever expressions are turned into, a document can hold it. -/
def Phrase.AllStorable (phrases : List Phrase) : Prop :=
  ∀ nodes, Phrase.nodes phrases = .ok nodes → AreReadable (toJsons nodes)

/-- An integer that is read is short, since a long one is refused. -/
theorem storable_integer {token : Token} (short : IsShort token.line) :
    (Phrase.integer token).Storable := by
  intro node node_eq
  rw [Phrase.node] at node_eq
  split at node_eq
  · rename_i value value_eq
    obtain rfl := Except.ok.inj node_eq
    exact isReadable_nodeObject short ⟨Decimal.isShort_integer? value_eq, trivial⟩ (by simp)
  · cases node_eq

/-- A float is storable, however it is written. -/
theorem storable_float {token : Token} (short : IsShort token.line) :
    (Phrase.float token).Storable := by
  intro node node_eq
  rw [Phrase.node] at node_eq
  split at node_eq
  · obtain rfl := Except.ok.inj node_eq
    exact isReadable_nodeObject short ⟨trivial, trivial⟩ (by simp)
  · cases node_eq

/-- A call is storable if its arguments are. -/
theorem storable_call {callee : Token} (short : IsShort callee.line)
    (storable : Phrase.AllStorable phrases) : (Phrase.call callee phrases).Storable := by
  intro node node_eq
  simp only [Phrase.node, bind_eq_ok, pure_eq_ok] at node_eq
  obtain ⟨nodes, nodes_eq, rfl⟩ := node_eq
  exact isReadable_nodeObject short ⟨trivial, storable nodes nodes_eq, trivial⟩ (by simp)

/-- An operator in front is storable if its operand is. -/
theorem storable_unary {operator : Token} (short : IsShort operator.line)
    (storable : phrase.Storable) : (Phrase.unary operator phrase).Storable := by
  intro node node_eq
  simp only [Phrase.node, bind_eq_ok, pure_eq_ok] at node_eq
  obtain ⟨operand, operand_eq, rfl⟩ := node_eq
  exact isReadable_nodeObject short ⟨trivial, storable operand operand_eq, trivial⟩ (by simp)

/-- An operator between operands is storable if they are, for its line is its own or theirs. -/
theorem storable_binary {operator : Token} (short : IsShort operator.line)
    (start : IsShort left.start) (storable : left.Storable) (storable' : right.Storable) :
    (Phrase.binary left operator right).Storable := by
  intro node node_eq
  simp only [Phrase.node, bind_eq_ok, pure_eq_ok] at node_eq
  obtain ⟨leftNode, left_eq, rightNode, right_eq, rfl⟩ := node_eq
  refine isReadable_binary ?_ (storable leftNode left_eq) (storable' rightNode right_eq)
  split_ifs
  · exact start
  · exact short

/-- An assignment is storable if both sides are. -/
theorem storable_assign {sign : Token} (start : IsShort left.start) (storable : left.Storable)
    (storable' : right.Storable) : (Phrase.assign left sign right).Storable := by
  intro node node_eq
  simp only [Phrase.node, bind_eq_ok] at node_eq
  obtain ⟨target, target_eq, value, value_eq, node_eq⟩ := node_eq
  have readable := storable target target_eq
  have readable' := storable' value value_eq
  unfold Grammar.assignment at node_eq
  split at node_eq
  · obtain rfl := Except.ok.inj node_eq
    exact isReadable_binary start readable readable'
  · -- The variable is read again, on the line of the assignment.
    obtain rfl := Except.ok.inj node_eq
    exact isReadable_binary start readable (isReadable_binary start
      (isReadable_nodeObject start ⟨trivial, trivial⟩ (by simp)) readable')
  · cases node_eq

/-- Arguments with a further one are storable if all of them are. -/
theorem storable_argument (storable : Phrase.AllStorable phrases) (storable' : phrase.Storable) :
    Phrase.AllStorable (phrases ++ [phrase]) := by
  intro nodes nodes_eq
  simp only [nodes_concat, bind_eq_ok, pure_eq_ok] at nodes_eq
  obtain ⟨front, front_eq, last, last_eq, rfl⟩ := nodes_eq
  exact areReadable_append (storable front front_eq) ⟨storable' last last_eq, trivial⟩

end Expressions

section Statements

variable {condition : Phrase} {clause : Clause} {clauses others : List Clause} {line : ℤ}

/-- Whatever an expression that may be absent is turned into, a document can hold it. -/
def Phrase.StorableIfAny (phrase : Option Phrase) : Prop :=
  ∀ node, Phrase.node? phrase = .ok node → (toJson? node).IsReadable

/-- Whatever a statement is turned into, a document can hold it. -/
def Clause.Storable (clause : Clause) : Prop :=
  ∀ node, clause.node = .ok node → (toJson? node).IsReadable

/-- Whatever a statement that may be absent is turned into, a document can hold it. -/
def Clause.StorableIfAny (clause : Option Clause) : Prop :=
  ∀ node, Clause.node? clause = .ok node → (toJson? node).IsReadable

/-- Whatever statements are turned into, a document can hold it. -/
def Clause.AllStorable (clauses : List Clause) : Prop :=
  ∀ nodes, Clause.nodes clauses = .ok nodes → AreReadable (toJsons nodes)

/-- Statements with a further one are storable if all of them are. -/
theorem storable_next (storable : Clause.AllStorable clauses) (storable' : clause.Storable) :
    Clause.AllStorable (clauses ++ [clause]) := by
  intro nodes nodes_eq
  simp only [clauseNodes_concat, bind_eq_ok, pure_eq_ok] at nodes_eq
  obtain ⟨front, front_eq, last, last_eq, rfl⟩ := nodes_eq
  exact areReadable_append (storable front front_eq) (areReadable_toList (storable' last last_eq))

/-- An expression that may be absent and is there is storable if it is. -/
theorem storableIfAny_some {phrase : Phrase} (storable : phrase.Storable) :
    Phrase.StorableIfAny (some phrase) := by
  intro node node_eq
  simp only [Phrase.node?, map_eq_ok] at node_eq
  obtain ⟨node, node_eq, rfl⟩ := node_eq
  exact storable node node_eq

/-- A statement that is an expression is storable if the expression is. -/
theorem storable_expression {phrase : Phrase} (storable : phrase.Storable) :
    (Clause.expression phrase).Storable := by
  intro node node_eq
  simp only [Clause.node, map_eq_ok] at node_eq
  obtain ⟨node, node_eq, rfl⟩ := node_eq
  exact storable node node_eq

/-- A block is storable if its statements are. -/
theorem storable_block (short : IsShort line) (storable : Clause.AllStorable clauses) :
    (Clause.block line clauses).Storable := by
  intro node node_eq
  simp only [Clause.node, bind_eq_ok, pure_eq_ok] at node_eq
  obtain ⟨nodes, nodes_eq, rfl⟩ := node_eq
  exact isReadable_nodeObject short ⟨storable nodes nodes_eq, trivial⟩ (by simp)

/-- A function is storable if its body is. -/
theorem storable_function {name : Token} {parameters : List Token} (short : IsShort line)
    (storable : Clause.AllStorable clauses) :
    (Clause.function line name parameters clauses).Storable := by
  intro node node_eq
  simp only [Clause.node, bind_eq_ok] at node_eq
  obtain ⟨nodes, nodes_eq, node_eq⟩ := node_eq
  split_ifs at node_eq
  obtain rfl := pure_eq_ok.mp node_eq
  exact isReadable_nodeObject short
    ⟨trivial, areReadable_strings _, storable nodes nodes_eq, trivial⟩ (by simp)

/-- A declaration is storable if its value is. -/
theorem storable_declaration {name : Token} {initializer : Option Phrase} (short : IsShort line)
    (storable : Phrase.StorableIfAny initializer) :
    (Clause.declaration line name initializer).Storable := by
  intro node node_eq
  simp only [Clause.node, bind_eq_ok, pure_eq_ok] at node_eq
  obtain ⟨value, value_eq, rfl⟩ := node_eq
  exact isReadable_nodeObject short ⟨trivial, storable value value_eq, trivial⟩ (by simp)

/-- A choice is storable if its condition and its body are. -/
theorem storable_ifThen (short : IsShort line) (storable : condition.Storable)
    (storable' : Clause.AllStorable clauses) :
    (Clause.ifThen line condition clauses).Storable := by
  intro node node_eq
  simp only [Clause.node, bind_eq_ok, pure_eq_ok] at node_eq
  obtain ⟨test, test_eq, nodes, nodes_eq, rfl⟩ := node_eq
  exact isReadable_nodeObject short
    ⟨storable test test_eq, storable' nodes nodes_eq, trivial, trivial⟩ (by simp)

/-- Whatever follows `else`, what it is turned into can be held by a document. -/
def StorableBranch (branch : List Clause ⊕ Clause) : Prop :=
  ∀ nodes, branchNodes branch = .ok nodes → AreReadable (toJsons nodes)

/-- A choice with `else` is storable if its condition and both branches are. -/
theorem storable_orElse {branch : List Clause ⊕ Clause} (short : IsShort line)
    (storable : condition.Storable) (storable' : Clause.AllStorable clauses)
    (alternative : StorableBranch branch) :
    (Arm.orElse ⟨line, condition, clauses⟩ branch).Storable := by
  intro node node_eq
  cases branch with
  | inl others =>
    simp only [Arm.orElse, Clause.node, bind_eq_ok, pure_eq_ok] at node_eq
    obtain ⟨test, test_eq, nodes, nodes_eq, others, others_eq, rfl⟩ := node_eq
    exact isReadable_nodeObject short ⟨storable test test_eq, storable' nodes nodes_eq,
      alternative others others_eq, trivial⟩ (by simp)
  | inr choice =>
    simp only [Arm.orElse, Clause.node, bind_eq_ok, pure_eq_ok] at node_eq
    obtain ⟨test, test_eq, nodes, nodes_eq, other, other_eq, rfl⟩ := node_eq
    exact isReadable_nodeObject short ⟨storable test test_eq, storable' nodes nodes_eq,
      alternative _ (map_eq_ok.mpr ⟨other, other_eq, rfl⟩), trivial⟩ (by simp)

/-- A loop with its test first is storable if its parts are. -/
theorem storable_whileLoop (short : IsShort line) (storable : condition.Storable)
    (storable' : Clause.AllStorable clauses) :
    (Clause.whileLoop line condition clauses).Storable := by
  intro node node_eq
  simp only [Clause.node, bind_eq_ok, pure_eq_ok] at node_eq
  obtain ⟨test, test_eq, nodes, nodes_eq, rfl⟩ := node_eq
  exact isReadable_nodeObject short
    ⟨storable test test_eq, storable' nodes nodes_eq, trivial⟩ (by simp)

/-- A loop with its test last is storable if its parts are. -/
theorem storable_doLoop (short : IsShort line) (storable : condition.Storable)
    (storable' : Clause.AllStorable clauses) :
    (Clause.doLoop line clauses condition).Storable := by
  intro node node_eq
  simp only [Clause.node, bind_eq_ok, pure_eq_ok] at node_eq
  obtain ⟨nodes, nodes_eq, test, test_eq, rfl⟩ := node_eq
  exact isReadable_nodeObject short
    ⟨storable test test_eq, storable' nodes nodes_eq, trivial⟩ (by simp)

/-- A loop with a heading is storable if the parts of the heading and its body are. -/
theorem storable_forLoop {start : Option Clause} {test step : Option Phrase} (short : IsShort line)
    (first : Clause.StorableIfAny start) (second : Phrase.StorableIfAny test)
    (third : Phrase.StorableIfAny step) (storable : Clause.AllStorable clauses) :
    (Clause.forLoop line start test step clauses).Storable := by
  intro node node_eq
  simp only [Clause.node, bind_eq_ok, pure_eq_ok] at node_eq
  obtain ⟨startNode, start_eq, testNode, test_eq, stepNode, step_eq, nodes, nodes_eq, rfl⟩ :=
    node_eq
  exact isReadable_nodeObject short ⟨first startNode start_eq, second testNode test_eq,
    third stepNode step_eq, storable nodes nodes_eq, trivial⟩ (by simp)

/-- A `return` is storable if its value is. -/
theorem storable_returning {value : Option Phrase} (short : IsShort line)
    (storable : Phrase.StorableIfAny value) : (Clause.returning line value).Storable := by
  intro node node_eq
  simp only [Clause.node, bind_eq_ok, pure_eq_ok] at node_eq
  obtain ⟨result, result_eq, rfl⟩ := node_eq
  exact isReadable_nodeObject short ⟨storable result result_eq, trivial⟩ (by simp)

end Statements

/-! ## What is derived -/

/-- Whatever a tree is turned into, a document can hold it. -/
def Symbol.Storable : (symbol : Symbol) → symbol.Tree → Prop
  | start, clauses | statements, clauses | body, clauses => Clause.AllStorable clauses
  | statement, clause | functionDeclaration, clause | variableDeclaration, clause | choice, clause
  | whileLoop, clause | doLoop, clause | forLoop, clause | returning, clause | breaking, clause
  | continuing, clause | empty, clause => clause.Storable
  | parameters, _ => True
  | elseBranch, branch => StorableBranch branch
  | forStart, clause => Clause.StorableIfAny clause
  | forTest, phrase | forStep, phrase => Phrase.StorableIfAny phrase
  | expression, phrase | assignment, phrase | operand _, phrase | primary, phrase =>
    phrase.Storable
  | arguments, phrases => Phrase.AllStorable phrases

/-- All that is derived from tokens on short lines can be held by a document. -/
theorem Derivation.storable {symbol : Symbol} (derivation : Derivation symbol)
    (short : OnShortLines derivation.tokens) : symbol.Storable derivation.tree := by
  -- The line of a construct is that of one of its tokens, and all of these are on short lines.
  induction derivation with
  | program _ ih => exact ih short
  | noStatement =>
    rintro nodes ⟨⟩
    trivial
  | oneMore _ _ ih ih' => exact storable_next (ih short.left) (ih' short.right)
  | functionStatement _ ih | choiceStatement _ ih | whileStatement _ ih | doStatement _ ih
  | forStatement _ ih | returnStatement _ ih | breakStatement _ ih | continueStatement _ ih
  | emptyStatement _ ih => exact ih short
  | variableStatement _ _ ih => exact ih short.left
  | blockStatement body ih => exact storable_block (isShort_line short) (ih short)
  | expressionStatement _ _ ih => exact storable_expression (ih short.left)
  | function _ _ _ _ _ ih => exact storable_function short.head (ih short.tail.tail.tail.tail)
  | functionOf _ _ _ _ _ _ _ ih =>
    exact storable_function short.head (ih short.tail.tail.tail.right.tail)
  | oneParameter | nextParameter => trivial
  | uninitialized => exact storable_declaration short.head (by rintro node ⟨⟩; trivial)
  | initialized _ _ _ _ ih =>
    exact storable_declaration short.head (storableIfAny_some (ih short.tail.tail.tail))
  | ifThen _ _ _ _ _ ih ih' =>
    exact storable_ifThen short.head (ih short.tail.tail.left) (ih' short.tail.tail.right.tail)
  | ifElse _ _ _ _ _ _ _ ih ih' ih'' =>
    exact storable_orElse short.head (ih short.tail.tail.left)
      (ih' short.tail.tail.right.tail.left) (ih'' short.tail.tail.right.tail.right.tail)
  | elseBody _ ih => exact ih short
  | elseChoice choice ih =>
    intro nodes nodes_eq
    obtain ⟨node, node_eq, rfl⟩ := map_eq_ok.mp nodes_eq
    exact areReadable_toList (ih short node node_eq)
  | whileLoop _ _ _ _ _ ih ih' =>
    exact storable_whileLoop short.head (ih short.tail.tail.left)
      (ih' short.tail.tail.right.tail)
  | doLoop _ _ _ _ _ _ _ ih ih' =>
    exact storable_doLoop short.head (ih' short.tail.right.tail.tail.left) (ih short.tail.left)
  | forLoop _ _ _ _ _ _ _ _ _ ih ih' ih'' ihBody =>
    have rest := short.tail.tail
    exact storable_forLoop short.head (ih rest.left) (ih' rest.right.tail.left)
      (ih'' rest.right.tail.right.tail.left) (ihBody rest.right.tail.right.tail.right.tail)
  | noStart | noTest | noStep =>
    rintro node ⟨⟩
    trivial
  | variableStart _ ih => exact ih short
  | expressionStart _ ih => exact storable_expression (ih short)
  | testOf _ ih | stepOf _ ih => exact storableIfAny_some (ih short)
  | returning => exact storable_returning short.head (by rintro node ⟨⟩; trivial)
  | returningOf _ _ _ ih =>
    exact storable_returning short.head (storableIfAny_some (ih short.tail.left))
  | breaking | continuing =>
    rintro node ⟨⟩
    exact isReadable_nodeObject short.head trivial (by simp)
  | bare =>
    rintro node ⟨⟩
    trivial
  | braces _ _ _ ih => exact ih short.tail.left
  | whole _ ih | plain _ ih | single _ _ ih | atom _ ih => exact ih short
  | assign target _ _ ih ih' | compoundAssign target _ _ ih ih' =>
    have start : IsShort target.tree.start := by
      rw [target.start_tree]
      exact isShort_line short.left
    exact storable_assign start (ih short.left) (ih' short.right.tail)
  | chain _ left _ _ ih ih' =>
    have start : IsShort left.tree.start := by
      rw [left.start_tree]
      exact isShort_line short.left
    exact storable_binary short.right.head start (ih short.left) (ih' short.right.tail)
  | prefixed _ _ ih | signed _ _ ih => exact storable_unary short.head (ih short.tail)
  | call => exact storable_call short.head (by rintro nodes ⟨⟩; trivial)
  | callOf _ _ _ _ ih => exact storable_call short.head (ih short.tail.tail.left)
  | reference | string =>
    rintro node ⟨⟩
    exact isReadable_nodeObject short.head ⟨trivial, trivial⟩ (by simp)
  | integer => exact storable_integer short.head
  | float => exact storable_float short.head
  | group _ _ _ ih => exact ih short.tail.left
  | oneArgument _ ih =>
    exact @storable_argument _ [] (by rintro nodes ⟨⟩; trivial) (ih short)
  | nextArgument _ _ _ ih ih' =>
    exact storable_argument (ih short.left) (ih' short.right.tail)

/-- A document can hold the program that tokens on short lines denote. -/
theorem isReadable_ofTokens {tokens : List Token} {program : Node} (short : OnShortLines tokens)
    (program_eq : Program.ofTokens tokens = .ok program) : program.toJson.IsReadable := by
  simp only [Program.ofTokens, bind_eq_ok, pure_eq_ok] at program_eq
  obtain ⟨clauses, clauses_eq, body, body_eq, rfl⟩ := program_eq
  obtain ⟨derivation, tokens_eq, rfl⟩ := read_eq_ok_iff.mp clauses_eq
  have short' : OnShortLines derivation.tokens := fun token mem =>
    short token (List.takeWhile_subset _ (tokens_eq ▸ mem))
  exact isReadable_nodeObject isShort_zero ⟨derivation.storable short' body body_eq, trivial⟩
    (by simp)

end Grammar

/-! ## Lines of a source text -/

/-- No line break is lost where a text is cut. -/
theorem Token.countNewlines_cut {first : Char} {rest : List Char} {found : Cut}
    (cuts : cut first rest = .ok found) :
    Text.countNewlines found.raw + Text.countNewlines found.rest =
      Text.countNewlines (first :: rest) := by
  rw [Text.countNewlines, Text.countNewlines, ← List.count_append, append_cut cuts]
  rfl

/-- The tokens of a text stand on its lines. -/
theorem Token.line_le_of_scan {line : ℕ} {text : List Char} {tokens : List Token}
    (scanned : scan line text = .ok tokens) :
    ∀ token ∈ tokens, ∃ number : ℕ, token.line = number ∧
      number ≤ line + Text.countNewlines text := by
  fun_induction scan line text generalizing tokens with
  | case1 line =>
    obtain rfl := Except.ok.inj scanned
    simp
  | case2 | case3 => cases scanned
  | case4 line first rest found cuts _ tokens scanned' _ ih =>
    obtain rfl := Except.ok.inj scanned
    have count := countNewlines_cut cuts
    rw [add_assoc, count] at ih
    exact ih scanned'
  | case5 line first rest found cuts _ kind lexeme tokens scanned' _ ih =>
    obtain rfl := Except.ok.inj scanned
    have count := countNewlines_cut cuts
    rw [add_assoc, count] at ih
    exact List.forall_mem_cons.mpr ⟨⟨line, rfl, Nat.le_add_right _ _⟩, ih scanned'⟩

open Grammar in
/-- A document can hold the program that a source text denotes, if the number of its last line is
short enough to be read. -/
theorem isReadable_ofSource {source : String} {program : Node}
    (short : Text.countNewlines source.toList + 1 < 10 ^ Decimal.digitLimit)
    (program_eq : Program.ofSource source = .ok program) : program.toJson.IsReadable := by
  unfold Program.ofSource at program_eq
  split at program_eq
  · cases program_eq
  · rename_i tokens tokens_eq
    refine isReadable_ofTokens (fun token mem => ?_) program_eq
    obtain ⟨number, line_eq, number_le⟩ := Token.line_le_of_scan tokens_eq token mem
    rw [IsShort, line_eq, Int.natAbs_natCast]
    omega

end Scriptlet
