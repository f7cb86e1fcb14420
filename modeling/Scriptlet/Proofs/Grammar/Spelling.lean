import Scriptlet.Proofs.Grammar.Reading

/-! # What a reader holds is spelled by tokens

The statements that a reader holds have derivations, and so have the parts of the statement that is
being read: the tokens of these derivations, in order, are the tokens that the reader has taken in.

Main definitions:

* `Symbol.Written`: a tree has a derivation with given tokens.
* `SpelledLayers`, `SpelledPurpose`, `SpelledOwner`, `SpelledPosition`: the tokens of what is being
  read.
* `Reader.Spelled`: the tokens that a reader has taken in.

Main results:

* `SpelledLayers.settle`: closing layers leaves layers and an operand that the same tokens spell. -/

namespace Scriptlet.Grammar

/-- A tree has a derivation with given tokens. -/
def Symbol.Written (symbol : Symbol) (tree : symbol.Tree) (tokens : List Token) : Prop :=
  ∃ derivation : Derivation symbol, derivation.tree = tree ∧ derivation.tokens = tokens

/-- What is derived is written. -/
theorem Derivation.written {symbol : Symbol} (derivation : Derivation symbol) :
    symbol.Written derivation.tree derivation.tokens :=
  ⟨derivation, rfl, rfl⟩

/-! ## Expressions -/

/-- Levels of one rank are one level. -/
theorem Level.rank_injective {level other : Level} (h : level.rank = other.rank) : level = other := by
  cases level <;> cases other <;> first | rfl | exact absurd h (by decide)

/-- Rungs of one rank are one rung. -/
theorem Rung.rank_injective {rung other : Rung} (h : rung.rank = other.rank) : rung = other := by
  cases rung with
  | level level =>
    cases other with
    | level other => exact congrArg Rung.level (Level.rank_injective h)
    | unary => exact absurd level.rank_le (by rw [show level.rank = 11 from h]; decide)
  | unary =>
    cases other with
    | level other => exact absurd other.rank_le (by rw [← show 11 = other.rank from h]; decide)
    | unary => rfl

/-- A tighter operand may stand for a looser one. -/
theorem Symbol.Written.lower {rung tighter : Rung} {phrase : Phrase} {tokens : List Token}
    (written : Written (.operand tighter) phrase tokens) (le : rung.rank ≤ tighter.rank) :
    Written (.operand rung) phrase tokens := by
  -- by induction on the number of levels in between, each of which adds a chain of one operand
  obtain ⟨gap, eq⟩ := Nat.exists_eq_add_of_le le
  induction gap generalizing rung with
  | zero => exact Rung.rank_injective eq ▸ written
  | succ gap ih =>
    cases rung with
    | unary =>
      have := tighter.rank_le
      simp only [Rung.rank] at eq this
      omega
    | level level =>
      have eq' : tighter.rank = level.next.rank + gap := by
        rw [Level.rank_next, eq, Rung.rank]
        omega
      obtain ⟨derivation, rfl, rfl⟩ := ih (by omega) eq'
      exact (Derivation.single level derivation).written

/-- An expression that binds at least as tightly as a rank has a derivation. -/
def WrittenAt (rank : Nat) (phrase : Phrase) (tokens : List Token) : Prop :=
  (rank = 0 ∧ Symbol.Written .assignment phrase tokens) ∨
    ∃ rung, rank ≤ rung.rank ∧ Symbol.Written (.operand rung) phrase tokens

namespace WrittenAt

variable {rank looser : Nat} {phrase : Phrase} {tokens : List Token}

/-- What is written at a rank is written at every looser one. -/
theorem mono (written : WrittenAt rank phrase tokens) (le : looser ≤ rank) :
    WrittenAt looser phrase tokens := by
  rcases written with ⟨rfl, written⟩ | ⟨rung, le', written⟩
  · exact .inl ⟨Nat.le_zero.1 le, written⟩
  · exact .inr ⟨rung, Nat.le_trans le le', written⟩

/-- Nothing is written at a rank above that of primary expressions. -/
theorem rank_le (written : WrittenAt rank phrase tokens) : rank ≤ 11 := by
  rcases written with ⟨rfl, -⟩ | ⟨rung, le, -⟩
  · exact Nat.zero_le 11
  · exact Nat.le_trans le rung.rank_le

/-- An operand is written at the rank of its rung. -/
theorem of_operand {rung : Rung} (derivation : Derivation (.operand rung)) :
    WrittenAt rung.rank derivation.tree derivation.tokens :=
  .inr ⟨rung, Nat.le_refl _, derivation.written⟩

/-- A primary expression is written at the highest rank. -/
theorem of_primary (derivation : Derivation .primary) :
    WrittenAt 11 derivation.tree derivation.tokens :=
  of_operand (.atom derivation)

/-- What is written at a rank is an operand of every rung up to it. -/
theorem operand (rung : Rung) (written : WrittenAt rank phrase tokens) (le : rung.rank ≤ rank) :
    Symbol.Written (.operand rung) phrase tokens := by
  rcases written with ⟨rfl, written⟩ | ⟨rung', le', written⟩
  · exact absurd rung.rank_pos (by omega)
  · exact written.lower (Nat.le_trans le le')

/-- What is written at a rank is an assignment, maybe without a sign. -/
theorem assignment (written : WrittenAt rank phrase tokens) :
    Symbol.Written .assignment phrase tokens := by
  rcases written with ⟨-, written⟩ | ⟨rung, -, written⟩
  · exact written
  · have lowest : Rung.rank (.level .disjunction) ≤ rung.rank := rung.rank_pos
    obtain ⟨derivation, rfl, rfl⟩ := written.lower lowest
    exact (Derivation.plain derivation).written

/-- What is written at a rank is an expression. -/
theorem expression (written : WrittenAt rank phrase tokens) :
    ∃ derivation : Derivation .expression, derivation.tree = phrase ∧ derivation.tokens = tokens := by
  obtain ⟨derivation, rfl, rfl⟩ := written.assignment
  exact (Derivation.whole derivation).written

end WrittenAt

/-- The tokens of the arguments in front of another one. -/
inductive SpelledArguments : List Phrase → List Token → Prop
  | nil : SpelledArguments [] []
  | cons (arguments : Derivation .arguments) (comma : Leaf .comma) :
      SpelledArguments arguments.tree.reverse (arguments.tokens ++ [comma.token])

/-- Arguments with a further one are written. -/
theorem SpelledArguments.next {finished : List Phrase} {before : List Token}
    (spelled : SpelledArguments finished before) (value : Derivation .expression) :
    Symbol.Written .arguments (value.tree :: finished).reverse (before ++ value.tokens) := by
  cases spelled with
  | nil => exact (Derivation.oneArgument value).written
  | cons arguments comma =>
    rw [List.reverse_cons, List.reverse_reverse, List.append_assoc]
    exact (Derivation.nextArgument arguments comma value).written

/-- No arguments are spelled by no tokens. -/
theorem SpelledArguments.eq_nil {before : List Token} (spelled : SpelledArguments [] before) :
    before = [] := by
  generalize finished_eq : ([] : List Phrase) = finished at spelled
  cases spelled with
  | nil => rfl
  | cons arguments comma =>
    cases arguments with
    | oneArgument value => cases finished_eq
    | nextArgument arguments comma value =>
      have : (arguments.tree ++ [value.tree]).reverse = [] := finished_eq.symm
      simp at this

/-- The layers around an operand are spelled by tokens: each layer was opened where none of the
layers around it had to be closed first. -/
inductive SpelledLayers : List Layer → List Token → Prop
  | nil : SpelledLayers [] []
  | unary {layers : List Layer} {tokens : List Token} (around : SpelledLayers layers tokens)
      (operator : Token)
      (writes : ∀ operand : Derivation (.operand .unary), Symbol.Written (.operand .unary)
        (.unary operator operand.tree) (operator :: operand.tokens)) :
      SpelledLayers (.unary operator :: layers) (tokens ++ [operator])
  | binary {layers : List Layer} {tokens : List Token} (around : SpelledLayers layers tokens)
      (level : Level) (floor_le : floor layers ≤ level.rank)
      (left : Derivation (.operand (.level level))) (operator : Leaf (.binary level)) :
      SpelledLayers (.binary level left.tree operator.token :: layers)
        (tokens ++ left.tokens ++ [operator.token])
  | assign {layers : List Layer} {tokens : List Token} (around : SpelledLayers layers tokens)
      (floor_eq : floor layers = 0) (target : Derivation (.operand (.level .disjunction)))
      (sign : Token)
      (writes : ∀ value : Derivation .assignment, Symbol.Written .assignment
        (.assign target.tree sign value.tree) (target.tokens ++ sign :: value.tokens)) :
      SpelledLayers (.assign target.tree sign :: layers) (tokens ++ target.tokens ++ [sign])
  | group {layers : List Layer} {tokens : List Token} (around : SpelledLayers layers tokens)
      (opening : Leaf .leftParenthesis) :
      SpelledLayers (.group opening.token.line :: layers) (tokens ++ [opening.token])
  | argument {layers : List Layer} {tokens : List Token} (around : SpelledLayers layers tokens)
      (callee : Leaf .identifier) (opening : Leaf .leftParenthesis) {finished : List Phrase}
      {before : List Token} (inside : SpelledArguments finished before) :
      SpelledLayers (.argument callee.token finished :: layers)
        (tokens ++ callee.token :: opening.token :: before)

/-- Layers and an operand inside them are spelled by tokens, and the operand is in its place at a
rank. -/
def SpelledOperand (rank : Nat) (layers : List Layer) (phrase : Phrase) (tokens : List Token) :
    Prop :=
  ∃ around inside, SpelledLayers layers around ∧ floor layers ≤ rank ∧
    WrittenAt rank phrase inside ∧ tokens = around ++ inside

/-- Closing layers around an operand leaves layers and an operand that the same tokens spell. -/
theorem SpelledLayers.settle {layers : List Layer} {tokens : List Token}
    (spelled : SpelledLayers layers tokens) {rank tightness : Nat} {phrase : Phrase}
    {inside : List Token} (written : WrittenAt tightness phrase inside)
    (le : rank ≤ tightness) (floor_le : floor layers ≤ tightness) :
    SpelledOperand rank (settle rank layers phrase).1 (settle rank layers phrase).2
      (tokens ++ inside) := by
  -- what is closed is an operand of the layer's own rank, which is not below the floor of the
  -- layers around
  induction spelled generalizing tightness phrase inside with
  | nil => exact ⟨[], inside, .nil, Nat.zero_le rank, written.mono le, rfl⟩
  | @unary layers tokens around operator writes ih =>
    obtain ⟨operand, rfl, rfl⟩ := written.operand .unary floor_le
    rw [settle_unary, List.append_assoc]
    exact ih (.inr ⟨.unary, Nat.le_refl 11, writes operand⟩) (Nat.le_trans le written.rank_le)
      (Grammar.floor_le layers)
  | @binary layers tokens around level floor_le' left operator ih =>
    by_cases closes : rank ≤ level.rank
    · obtain ⟨right, rfl, rfl⟩ := written.operand level.next (level.rank_next ▸ floor_le)
      rw [settle_binary_of_le _ _ _ closes, List.append_assoc, List.append_assoc]
      exact ih (WrittenAt.of_operand (.chain level left operator right)) closes floor_le'
    · rw [settle_binary_of_lt _ _ _ (Nat.lt_of_not_le closes)]
      exact ⟨_, inside, .binary around level floor_le' left operator, Nat.lt_of_not_le closes,
        written.mono le, rfl⟩
  | @assign layers tokens around floor_eq target sign writes ih =>
    rcases Nat.eq_zero_or_pos rank with rfl | pos
    · obtain ⟨value, rfl, rfl⟩ := written.assignment
      rw [settle_zero_assign, List.append_assoc, List.append_assoc]
      exact ih (.inl ⟨rfl, writes value⟩) (Nat.le_refl 0) (Nat.le_of_eq floor_eq)
    · rw [settle_assign_of_pos _ _ _ pos]
      exact ⟨_, inside, .assign around floor_eq target sign writes, Nat.zero_le rank,
        written.mono le, rfl⟩
  | group around opening ih =>
    exact ⟨_, inside, .group around opening, Nat.zero_le rank, written.mono le, rfl⟩
  | argument around callee opening finished ih =>
    exact ⟨_, inside, .argument around callee opening finished, Nat.zero_le rank, written.mono le,
      rfl⟩

/-- An operator of a level closes layers around an operand of that level. -/
theorem SpelledLayers.settle_level {layers : List Layer} {tokens : List Token}
    (spelled : SpelledLayers layers tokens) (last : Derivation .primary) (level : Level) :
    ∃ around, ∃ operand : Derivation (.operand (.level level)),
      SpelledLayers (Grammar.settle level.rank layers last.tree).1 around ∧
      floor (Grammar.settle level.rank layers last.tree).1 ≤ level.rank ∧
      (Grammar.settle level.rank layers last.tree).2 = operand.tree ∧
      tokens ++ last.tokens = around ++ operand.tokens := by
  obtain ⟨around, inside, spelled', floor_le, written, eq⟩ := spelled.settle
    (.of_primary last) (Nat.le_succ_of_le level.rank_le) (Grammar.floor_le layers)
  obtain ⟨operand, tree_eq, rfl⟩ := written.operand (.level level) (Nat.le_refl _)
  exact ⟨around, operand, spelled', floor_le, tree_eq.symm, eq⟩

/-- An assignment sign closes the layers around its target, and all layers that then stay open can
hold an assignment. -/
theorem SpelledLayers.settle_target {layers : List Layer} {tokens : List Token}
    (spelled : SpelledLayers layers tokens) (last : Derivation .primary) :
    ∃ around, ∃ target : Derivation (.operand (.level .disjunction)),
      SpelledLayers (Grammar.settle 1 layers last.tree).1 around ∧
      floor (Grammar.settle 1 layers last.tree).1 = 0 ∧
      (Grammar.settle 1 layers last.tree).2 = target.tree ∧
      tokens ++ last.tokens = around ++ target.tokens := by
  obtain ⟨around, target, spelled', floor_le, tree_eq, eq⟩ := spelled.settle_level last .disjunction
  exact ⟨around, target, spelled', floor_eq_zero _ floor_le, tree_eq, eq⟩

/-- What ends an expression closes all layers inside it. -/
theorem SpelledLayers.settle_zero {layers outside : List Layer} {tokens : List Token}
    (spelled : SpelledLayers layers tokens) (last : Derivation .primary) {phrase : Phrase}
    (settle_eq : Grammar.settle 0 layers last.tree = (outside, phrase)) :
    ∃ around, ∃ value : Derivation .expression, SpelledLayers outside around ∧
      phrase = value.tree ∧ tokens ++ last.tokens = around ++ value.tokens := by
  obtain ⟨around, inside, spelled', -, written, eq⟩ := spelled.settle
    (.of_primary last) (Nat.zero_le 11) (Grammar.floor_le layers)
  rw [settle_eq] at spelled' written
  obtain ⟨value, tree_eq, rfl⟩ := written.expression
  exact ⟨around, value, spelled', tree_eq.symm, eq⟩

/-! ## Statements being read -/

/-- The tokens of an expression that may be absent. -/
inductive SpelledOption : Option Phrase → List Token → Prop
  | none : SpelledOption none []
  | some (value : Derivation .expression) : SpelledOption (some value.tree) value.tokens

/-- The tokens of the parameters in front of another one. -/
inductive SpelledParameters : List Token → List Token → Prop
  | nil : SpelledParameters [] []
  | cons (parameters : Derivation .parameters) (comma : Leaf .comma) :
      SpelledParameters parameters.tree.reverse (parameters.tokens ++ [comma.token])

/-- Parameters with a further one are written. -/
theorem SpelledParameters.next {finished before : List Token}
    (spelled : SpelledParameters finished before) (name : Leaf .identifier) :
    Symbol.Written .parameters (name.token :: finished).reverse (before ++ [name.token]) := by
  cases spelled with
  | nil => exact (Derivation.oneParameter name).written
  | cons parameters comma =>
    rw [List.reverse_cons, List.reverse_reverse, List.append_assoc]
    exact (Derivation.nextParameter parameters comma name).written

/-- No parameters are spelled by no tokens. -/
theorem SpelledParameters.eq_nil {before : List Token} (spelled : SpelledParameters [] before) :
    before = [] := by
  generalize finished_eq : ([] : List Token) = finished at spelled
  cases spelled with
  | nil => rfl
  | cons parameters comma =>
    cases parameters with
    | oneParameter name => cases finished_eq
    | nextParameter parameters comma name =>
      have : (parameters.tree ++ [name.token]).reverse = [] := finished_eq.symm
      simp at this

/-- The tokens of the arms around a choice, up to the last `else`. -/
inductive SpelledArms : List Arm → List Token → Prop
  | nil : SpelledArms [] []
  | cons {arms : List Arm} {tokens : List Token} (around : SpelledArms arms tokens)
      (keyword : Leaf (.keyword .ifWord)) (opening : Leaf .leftParenthesis)
      (condition : Derivation .expression) (closing : Leaf .rightParenthesis)
      (body : Derivation .body) (otherwise : Leaf (.keyword .elseWord)) :
      SpelledArms (⟨keyword.token.line, condition.tree, body.tree⟩ :: arms)
        (tokens ++ keyword.token :: opening.token :: (condition.tokens ++ closing.token ::
          (body.tokens ++ [otherwise.token])))

/-- A choice in the `else` branches of the arms around it. -/
theorem SpelledArms.written_nest {arms : List Arm} {tokens : List Token}
    (spelled : SpelledArms arms tokens) (choice : Derivation .choice) :
    Symbol.Written .choice (nest choice.tree arms) (tokens ++ choice.tokens) := by
  induction spelled generalizing choice with
  | nil => exact choice.written
  | cons around keyword opening condition closing body otherwise ih =>
    have nested := ih (.ifElse keyword opening condition closing body otherwise (.elseChoice choice))
    simp only [List.append_assoc, List.cons_append, List.nil_append]
    exact nested

/-- A choice is a statement. -/
theorem Symbol.Written.choice {clause : Clause} {tokens : List Token}
    (written : Written .choice clause tokens) : Written .statement clause tokens := by
  obtain ⟨choice, rfl, rfl⟩ := written
  exact (Derivation.choiceStatement choice).written

/-- The tokens in front of a declaration in the heading of a loop, if it is in one. -/
inductive SpelledHeading : Option Int → List Token → Prop
  | none : SpelledHeading none []
  | some (keyword : Leaf (.keyword .forWord)) (opening : Leaf .leftParenthesis) :
      SpelledHeading (some keyword.token.line) [keyword.token, opening.token]

/-- The tokens of a statement in front of an expression in it. -/
inductive SpelledPurpose : Purpose → List Token → Prop
  | statement : SpelledPurpose .statement []
  | initializer {heading : Option Int} {tokens : List Token}
      (around : SpelledHeading heading tokens) (keyword : Leaf (.keyword .varWord))
      (name : Leaf .identifier) (sign : Leaf .assign) :
      SpelledPurpose (.initializer keyword.token.line name.token heading)
        (tokens ++ [keyword.token, name.token, sign.token])
  | ifTest {arms : List Arm} {tokens : List Token} (around : SpelledArms arms tokens)
      (keyword : Leaf (.keyword .ifWord)) (opening : Leaf .leftParenthesis) :
      SpelledPurpose (.ifTest arms keyword.token.line) (tokens ++ [keyword.token, opening.token])
  | whileTest (keyword : Leaf (.keyword .whileWord)) (opening : Leaf .leftParenthesis) :
      SpelledPurpose (.whileTest keyword.token.line) [keyword.token, opening.token]
  | doTest (keyword : Leaf (.keyword .doWord)) (body : Derivation .body)
      (test : Leaf (.keyword .whileWord)) (opening : Leaf .leftParenthesis) :
      SpelledPurpose (.doTest keyword.token.line body.tree)
        (keyword.token :: (body.tokens ++ [test.token, opening.token]))
  | forStart (keyword : Leaf (.keyword .forWord)) (opening : Leaf .leftParenthesis) :
      SpelledPurpose (.forStart keyword.token.line) [keyword.token, opening.token]
  | forTest (keyword : Leaf (.keyword .forWord)) (opening : Leaf .leftParenthesis)
      (first : Derivation .forStart) (afterStart : Leaf .semicolon) :
      SpelledPurpose (.forTest keyword.token.line first.tree)
        (keyword.token :: opening.token :: (first.tokens ++ [afterStart.token]))
  | forStep (keyword : Leaf (.keyword .forWord)) (opening : Leaf .leftParenthesis)
      (first : Derivation .forStart) (afterStart : Leaf .semicolon)
      (condition : Derivation .forTest) (afterTest : Leaf .semicolon) :
      SpelledPurpose (.forStep keyword.token.line first.tree condition.tree)
        (keyword.token :: opening.token :: (first.tokens ++ afterStart.token ::
          (condition.tokens ++ [afterTest.token])))
  | result (keyword : Leaf (.keyword .returnWord)) :
      SpelledPurpose (.result keyword.token.line) [keyword.token]

/-- The tokens of a statement in front of the brace that opens a body in it. -/
inductive SpelledOwner : Owner → Token → List Token → Prop
  | function {brace : Token} (keyword : Leaf (.keyword .function)) (name : Leaf .identifier)
      (opening : Leaf .leftParenthesis) (closing : Leaf .rightParenthesis) :
      SpelledOwner (.function keyword.token.line name.token []) brace
        [keyword.token, name.token, opening.token, closing.token]
  | functionOf {brace : Token} (keyword : Leaf (.keyword .function)) (name : Leaf .identifier)
      (opening : Leaf .leftParenthesis) (parameters : Derivation .parameters)
      (closing : Leaf .rightParenthesis) :
      SpelledOwner (.function keyword.token.line name.token parameters.tree) brace
        (keyword.token :: name.token :: opening.token :: (parameters.tokens ++ [closing.token]))
  | thenBranch {brace : Token} {arms : List Arm} {tokens : List Token}
      (around : SpelledArms arms tokens) (keyword : Leaf (.keyword .ifWord))
      (opening : Leaf .leftParenthesis) (condition : Derivation .expression)
      (closing : Leaf .rightParenthesis) :
      SpelledOwner (.thenBranch arms keyword.token.line condition.tree) brace
        (tokens ++ keyword.token :: opening.token :: (condition.tokens ++ [closing.token]))
  | elseBranch {brace : Token} {arm : Arm} {arms : List Arm} {tokens : List Token}
      (around : SpelledArms (arm :: arms) tokens) :
      SpelledOwner (.elseBranch arm arms) brace tokens
  | whileLoop {brace : Token} (keyword : Leaf (.keyword .whileWord))
      (opening : Leaf .leftParenthesis) (condition : Derivation .expression)
      (closing : Leaf .rightParenthesis) :
      SpelledOwner (.whileLoop keyword.token.line condition.tree) brace
        (keyword.token :: opening.token :: (condition.tokens ++ [closing.token]))
  | doLoop {brace : Token} (keyword : Leaf (.keyword .doWord)) :
      SpelledOwner (.doLoop keyword.token.line) brace [keyword.token]
  | forLoop {brace : Token} (keyword : Leaf (.keyword .forWord)) (opening : Leaf .leftParenthesis)
      (first : Derivation .forStart) (afterStart : Leaf .semicolon)
      (condition : Derivation .forTest) (afterTest : Leaf .semicolon) (step : Derivation .forStep)
      (closing : Leaf .rightParenthesis) :
      SpelledOwner (.forLoop keyword.token.line first.tree condition.tree step.tree) brace
        (keyword.token :: opening.token :: (first.tokens ++ afterStart.token ::
          (condition.tokens ++ afterTest.token :: (step.tokens ++ [closing.token]))))
  | block {brace : Token} : SpelledOwner (.block brace.line) brace []

/-- The tokens of the statement being read, up to a position in it. -/
inductive SpelledPosition : Position → List Token → Prop
  | ready : SpelledPosition .ready []
  | afterBranch {arms : List Arm} {tokens : List Token} (around : SpelledArms arms tokens)
      (keyword : Leaf (.keyword .ifWord)) (opening : Leaf .leftParenthesis)
      (condition : Derivation .expression) (closing : Leaf .rightParenthesis)
      (body : Derivation .body) :
      SpelledPosition (.afterBranch ⟨keyword.token.line, condition.tree, body.tree⟩ arms)
        (tokens ++ keyword.token :: opening.token :: (condition.tokens ++ closing.token ::
          body.tokens))
  | alternative {arm : Arm} {arms : List Arm} {tokens : List Token}
      (around : SpelledArms (arm :: arms) tokens) :
      SpelledPosition (.alternative arm arms) tokens
  | functionName (keyword : Leaf (.keyword .function)) :
      SpelledPosition (.functionName keyword.token.line) [keyword.token]
  | parametersOpen (keyword : Leaf (.keyword .function)) (name : Leaf .identifier) :
      SpelledPosition (.parametersOpen keyword.token.line name.token) [keyword.token, name.token]
  | parameter (keyword : Leaf (.keyword .function)) (name : Leaf .identifier)
      (opening : Leaf .leftParenthesis) {finished before : List Token}
      (inside : SpelledParameters finished before) :
      SpelledPosition (.parameter keyword.token.line name.token finished)
        (keyword.token :: name.token :: opening.token :: before)
  | afterParameter (keyword : Leaf (.keyword .function)) (name : Leaf .identifier)
      (opening : Leaf .leftParenthesis) (parameters : Derivation .parameters) :
      SpelledPosition (.afterParameter keyword.token.line name.token parameters.tree.reverse)
        (keyword.token :: name.token :: opening.token :: parameters.tokens)
  | bodyOpen {owner : Owner} {tokens : List Token}
      (spelled : ∀ brace, SpelledOwner owner brace tokens) :
      SpelledPosition (.bodyOpen owner) tokens
  | variableName {heading : Option Int} {tokens : List Token}
      (around : SpelledHeading heading tokens) (keyword : Leaf (.keyword .varWord)) :
      SpelledPosition (.variableName keyword.token.line heading) (tokens ++ [keyword.token])
  | afterName {heading : Option Int} {tokens : List Token}
      (around : SpelledHeading heading tokens) (keyword : Leaf (.keyword .varWord))
      (name : Leaf .identifier) :
      SpelledPosition (.afterName keyword.token.line name.token heading)
        (tokens ++ [keyword.token, name.token])
  | headingOpen {purpose : Purpose} {tokens : List Token}
      (spelled : ∀ opening : Leaf .leftParenthesis,
        SpelledPurpose purpose (tokens ++ [opening.token])) :
      SpelledPosition (.headingOpen purpose) tokens
  | afterBody (keyword : Leaf (.keyword .doWord)) (body : Derivation .body) :
      SpelledPosition (.afterBody keyword.token.line body.tree) (keyword.token :: body.tokens)
  | ending {clause : Clause} {tokens : List Token}
      (writes : ∀ semicolon : Leaf .semicolon,
        Symbol.Written .statement clause (tokens ++ [semicolon.token])) :
      SpelledPosition (.ending clause) tokens
  | operand {purpose : Purpose} {layers : List Layer} {before around : List Token}
      (spelled : SpelledPurpose purpose before) (spelled' : SpelledLayers layers around) :
      SpelledPosition (.operand purpose layers) (before ++ around)
  | operator {purpose : Purpose} {layers : List Layer} {before around : List Token}
      (spelled : SpelledPurpose purpose before) (spelled' : SpelledLayers layers around)
      (last : Derivation .primary) :
      SpelledPosition (.operator purpose layers last.tree) (before ++ (around ++ last.tokens))

/-! ## Readers -/

/-- The tokens up to the brace that opened the innermost body. -/
inductive SpelledOuter : List (Owner × List Clause) → List Token → Prop
  | nil : SpelledOuter [] []
  | cons {outer : List (Owner × List Clause)} {owner : Owner} {tokens before : List Token}
      (around : SpelledOuter outer tokens) (statements : Derivation .statements)
      (brace : Leaf .leftBrace) (spelled : SpelledOwner owner brace.token before) :
      SpelledOuter ((owner, statements.tree.reverse) :: outer)
        (tokens ++ statements.tokens ++ before ++ [brace.token])

namespace Reader

/-- The tokens up to the statement that is being read. -/
def SpelledAround (reader : Reader) (tokens : List Token) : Prop :=
  ∃ around, ∃ statements : Derivation .statements, SpelledOuter reader.outer around ∧
    reader.finished = statements.tree.reverse ∧ tokens = around ++ statements.tokens

/-- The tokens that a reader has taken in. -/
def Spelled (reader : Reader) (tokens : List Token) : Prop :=
  ∃ around inside, reader.SpelledAround around ∧ SpelledPosition reader.position inside ∧
    tokens = around ++ inside

end Reader

end Scriptlet.Grammar
