import Scriptlet.Proofs.Grammar.Spelling

/-! # The reader takes nothing else in

Each token that a reader takes in keeps up that what it holds is spelled by the tokens it was given,
so a program that may end where its tokens do is derived from them.

Main results:

* `Reader.Spelled.accept?`: taking one more token in.
* `Reader.Spelled.exists_derivation`: a program that may end here has a derivation. -/

namespace Scriptlet.Grammar.Reader

variable {reader next : Reader} {tokens before : List Token}

/-- A reader that has read nothing is spelled by nothing. -/
theorem spelled_initial : initial.Spelled [] :=
  ⟨[], [], ⟨[], .noStatement, .nil, rfl, rfl⟩, .ready, rfl⟩

/-- A reader in a statement is spelled by what is around and by the statement so far. -/
theorem SpelledAround.moveTo (spelled : reader.SpelledAround tokens) {position : Position}
    (inside : SpelledPosition position before) :
    (reader.moveTo position).Spelled (tokens ++ before) :=
  ⟨tokens, before, spelled, inside, rfl⟩

/-- Before an expression it is spelled by what the expression is for. -/
theorem SpelledAround.beforeExpression (spelled : reader.SpelledAround tokens) {purpose : Purpose}
    (inside : SpelledPurpose purpose before) :
    (reader.moveTo (.operand purpose [])).Spelled (tokens ++ before) :=
  ⟨tokens, before, spelled, List.append_nil before ▸ .operand inside .nil, rfl⟩

/-- A statement that has ended is added to what is around. -/
theorem SpelledAround.finish (spelled : reader.SpelledAround tokens) {clause : Clause}
    (written : Symbol.Written .statement clause before) :
    (reader.finish clause).SpelledAround (tokens ++ before) := by
  obtain ⟨around, statements, outer, finished, rfl⟩ := spelled
  obtain ⟨statement, rfl, rfl⟩ := written
  refine ⟨around, .oneMore statements statement, outer, ?_, List.append_assoc ..⟩
  rw [Reader.finish, finished]
  exact (@List.reverse_append _ statements.tree [statement.tree]).symm

/-- Between two statements there is only what is around. -/
theorem SpelledAround.ready (spelled : reader.SpelledAround tokens)
    (position_eq : reader.position = .ready) : reader.Spelled tokens :=
  ⟨tokens, [], spelled, position_eq ▸ .ready, by simp⟩

/-- A brace opens a body inside what is around. -/
theorem SpelledAround.openBody (spelled : reader.SpelledAround tokens) {owner : Owner}
    (brace : Leaf .leftBrace) (inside : SpelledOwner owner brace.token before) :
    (reader.openBody owner).Spelled (tokens ++ before ++ [brace.token]) := by
  obtain ⟨around, statements, outer, finished, rfl⟩ := spelled
  refine ⟨around ++ statements.tokens ++ before ++ [brace.token], [], ?_, .ready, by simp⟩
  refine ⟨_, .noStatement, ?_, rfl, (List.append_nil _).symm⟩
  rw [Reader.openBody, finished]
  exact .cons outer statements brace inside

/-- A body in the statement being read has ended. -/
theorem SpelledAround.endBody (spelled : reader.SpelledAround tokens) {owner : Owner} {brace : Token}
    (inside : SpelledOwner owner brace before) (body : Derivation .body)
    (head_eq : body.tokens.head? = some brace) :
    (reader.endBody owner body.tree).Spelled (tokens ++ before ++ body.tokens) := by
  simp only [List.append_assoc]
  -- A body ends its owner, but for a first branch, which may go on with `else`, and the body of a
  -- loop with its test last.
  cases inside with
  | function keyword name opening closing =>
    exact (spelled.finish (Derivation.functionStatement
      (.function keyword name opening closing body)).written).ready rfl
  | functionOf keyword name opening parameters closing =>
    simp only [List.append_assoc, List.cons_append, List.nil_append]
    exact (spelled.finish (Derivation.functionStatement
      (.functionOf keyword name opening parameters closing body)).written).ready rfl
  | thenBranch around keyword opening condition closing =>
    simp only [List.append_assoc, List.cons_append, List.nil_append]
    exact spelled.moveTo (.afterBranch around keyword opening condition closing body)
  | elseBranch around =>
    cases around with
    | cons around keyword opening condition closing branch otherwise =>
      have written := around.written_nest
        (.ifElse keyword opening condition closing branch otherwise (.elseBody body))
      simp only [List.append_assoc, List.cons_append, List.nil_append]
      exact (spelled.finish written.choice).ready rfl
  | whileLoop keyword opening condition closing =>
    simp only [List.append_assoc, List.cons_append, List.nil_append]
    exact (spelled.finish (Derivation.whileStatement
      (.whileLoop keyword opening condition closing body)).written).ready rfl
  | doLoop keyword => exact spelled.moveTo (.afterBody keyword body)
  | forLoop keyword opening first afterStart condition afterTest step closing =>
    simp only [List.append_assoc, List.cons_append, List.nil_append]
    exact (spelled.finish (Derivation.forStatement (.forLoop keyword opening first afterStart
      condition afterTest step closing body)).written).ready rfl
  | block =>
    have line_eq : brace.line = body.line := by simp [Derivation.line, head_eq]
    rw [line_eq]
    exact (spelled.finish (Derivation.blockStatement body).written).ready rfl

/-- A brace closes a body and ends what it is the body of. -/
theorem SpelledAround.closeBody? (spelled : reader.SpelledAround tokens)
    (closing : Leaf .rightBrace) (h : reader.closeBody? = some next) :
    next.Spelled (tokens ++ [closing.token]) := by
  obtain ⟨outer, finished, position⟩ := reader
  obtain ⟨around, statements, outer, rfl, rfl⟩ := spelled
  cases outer with
  | nil => exact absurd h (by simp [Reader.closeBody?])
  | @cons outer owner tokens before around others brace inside =>
    simp only [Reader.closeBody?, List.reverse_reverse, Option.some.injEq] at h
    have around' : SpelledAround ⟨outer, others.tree.reverse, .ready⟩ (tokens ++ others.tokens) :=
      ⟨tokens, others, around, rfl, rfl⟩
    have ended := around'.endBody inside (.braces brace statements closing) rfl
    rw [← h]
    simp only [List.append_assoc, List.cons_append, List.nil_append] at ended ⊢
    exact ended

/-- A semicolon ends an expression, or says that it is absent. -/
theorem SpelledAround.endBySemicolon? (spelled : reader.SpelledAround tokens) {purpose : Purpose}
    (inside : SpelledPurpose purpose before) {phrase : Option Phrase} {value : List Token}
    (option : SpelledOption phrase value) (semicolon : Leaf .semicolon)
    (h : reader.endBySemicolon? purpose phrase = some next) :
    next.Spelled (tokens ++ (before ++ value ++ [semicolon.token])) := by
  -- What the expression is for tells what the semicolon ends, if it may end it at all.
  cases inside with
  | statement =>
    cases option with
    | none => cases h
    | some value =>
      cases h
      exact (spelled.finish (Derivation.expressionStatement value semicolon).written).ready rfl
  | initializer around keyword name sign =>
    cases option with
    | none => cases around <;> cases h
    | some value =>
      cases around with
      | none =>
        cases h
        exact (spelled.finish (Derivation.variableStatement
          (.initialized keyword name sign value) semicolon).written).ready rfl
      | some forWord opening =>
        cases h
        simp only [List.cons_append, List.nil_append]
        exact spelled.beforeExpression (.forTest forWord opening
          (.variableStart (.initialized keyword name sign value)) semicolon)
  | forStart keyword opening =>
    cases option with
    | none =>
      cases h
      exact spelled.beforeExpression (.forTest keyword opening .noStart semicolon)
    | some value =>
      cases h
      exact spelled.beforeExpression (.forTest keyword opening (.expressionStart value) semicolon)
  | forTest keyword opening first afterStart =>
    simp only [List.append_assoc, List.cons_append, List.nil_append]
    cases option with
    | none =>
      cases h
      exact spelled.beforeExpression
        (.forStep keyword opening first afterStart .noTest semicolon)
    | some value =>
      cases h
      exact spelled.beforeExpression
        (.forStep keyword opening first afterStart (.testOf value) semicolon)
  | result keyword =>
    cases option with
    | none =>
      cases h
      exact (spelled.finish (Derivation.returnStatement
        (.returning keyword semicolon)).written).ready rfl
    | some value =>
      cases h
      exact (spelled.finish (Derivation.returnStatement
        (.returningOf keyword value semicolon)).written).ready rfl
  | _ => cases option <;> cases h

/-- A parenthesis ends an expression, or says that it is absent. -/
theorem SpelledAround.endByParenthesis? (spelled : reader.SpelledAround tokens) {purpose : Purpose}
    (inside : SpelledPurpose purpose before) {phrase : Option Phrase} {value : List Token}
    (option : SpelledOption phrase value) (closing : Leaf .rightParenthesis)
    (h : reader.endByParenthesis? purpose phrase = some next) :
    next.Spelled (tokens ++ (before ++ value ++ [closing.token])) := by
  simp only [List.append_assoc]
  -- Only tests, and the step of a heading, are ended by a parenthesis.
  cases inside with
  | ifTest around keyword opening =>
    simp only [List.append_assoc, List.cons_append, List.nil_append]
    cases option with
    | none => cases h
    | some value =>
      cases h
      exact spelled.moveTo (.bodyOpen fun _ => .thenBranch around keyword opening value closing)
  | whileTest keyword opening =>
    cases option with
    | none => cases h
    | some value =>
      cases h
      exact spelled.moveTo (.bodyOpen fun _ => .whileLoop keyword opening value closing)
  | doTest keyword body test opening =>
    cases option with
    | none => cases h
    | some value =>
      cases h
      refine spelled.moveTo (.ending fun semicolon => ?_)
      simp only [List.append_assoc, List.cons_append, List.nil_append]
      exact (Derivation.doStatement
        (.doLoop keyword body test opening value closing semicolon)).written
  | forStep keyword opening first afterStart condition afterTest =>
    simp only [List.append_assoc, List.cons_append, List.nil_append]
    cases option with
    | none =>
      cases h
      exact spelled.moveTo (.bodyOpen fun _ =>
        .forLoop keyword opening first afterStart condition afterTest .noStep closing)
    | some value =>
      cases h
      exact spelled.moveTo (.bodyOpen fun _ =>
        .forLoop keyword opening first afterStart condition afterTest (.stepOf value) closing)
  | _ => cases option <;> cases h

/-- A token where an operand may start. -/
theorem SpelledAround.acceptOperand? (spelled : reader.SpelledAround tokens) {purpose : Purpose}
    {layers : List Layer} {around : List Token} (inside : SpelledPurpose purpose before)
    (inside' : SpelledLayers layers around) {terminal : Terminal} (leaf : Leaf terminal)
    (h : reader.acceptOperand? purpose layers terminal leaf.token = some next) :
    next.Spelled (tokens ++ (before ++ (around ++ [leaf.token]))) := by
  unfold Reader.acceptOperand? at h
  split at h
  -- an operand of one token
  · cases h
    exact spelled.moveTo (.operator inside inside' (.reference leaf))
  · cases h
    exact spelled.moveTo (.operator inside inside' (.integer leaf))
  · cases h
    exact spelled.moveTo (.operator inside inside' (.float leaf))
  · cases h
    exact spelled.moveTo (.operator inside inside' (.string leaf))
  -- a parenthesis or an operator in front opens one more layer
  · cases h
    exact spelled.moveTo (.operand inside (.group inside' leaf))
  · cases h
    exact spelled.moveTo (.operand inside (.unary inside' leaf.token fun operand =>
      (Derivation.prefixed leaf operand).written))
  · cases h
    exact spelled.moveTo (.operand inside (.unary inside' leaf.token fun operand =>
      (Derivation.signed leaf operand).written))
  -- a call without arguments
  · cases h
    cases inside' with
    | argument around callee opening finished =>
      obtain rfl := finished.eq_nil
      rw [List.append_assoc]
      exact spelled.moveTo (.operator inside around (.call callee opening leaf))
  -- an expression that is left out
  · cases inside'
    simpa using spelled.endByParenthesis? inside .none leaf h
  · cases inside'
    simpa using spelled.endBySemicolon? inside .none leaf h
  -- a declaration in the heading of a loop
  · split at h
    · cases h
      cases inside'
      cases inside with
      | forStart keyword opening =>
        exact spelled.moveTo (.variableName (.some keyword opening) leaf)
    · cases h
  · cases h

section Brackets

variable {purpose : Purpose} {layers : List Layer} {around : List Token}

/-- A parenthesis closes its partner. -/
theorem SpelledAround.closeGroup (spelled : reader.SpelledAround tokens) {line : Int}
    (inside : SpelledPurpose purpose before) (outside : SpelledLayers (.group line :: layers) around)
    (value : Derivation .expression) (closing : Leaf .rightParenthesis) :
    (reader.moveTo (.operator purpose layers (.group line value.tree))).Spelled
      (tokens ++ (before ++ (around ++ value.tokens ++ [closing.token]))) := by
  cases outside with
  | group outside opening =>
    simp only [List.append_assoc, List.cons_append, List.nil_append]
    exact spelled.moveTo (.operator inside outside (.group opening value closing))

/-- A parenthesis ends a call after its last argument. -/
theorem SpelledAround.closeCall (spelled : reader.SpelledAround tokens) {callee : Token}
    {finished : List Phrase} (inside : SpelledPurpose purpose before)
    (outside : SpelledLayers (.argument callee finished :: layers) around)
    (value : Derivation .expression) (closing : Leaf .rightParenthesis) :
    (reader.moveTo (.operator purpose layers
      (.call callee (value.tree :: finished).reverse))).Spelled
      (tokens ++ (before ++ (around ++ value.tokens ++ [closing.token]))) := by
  cases outside with
  | argument outside callee opening finished =>
    obtain ⟨arguments, tree_eq, tokens_eq⟩ := finished.next value
    rw [← tree_eq]
    simp only [List.append_assoc, List.cons_append]
    rw [← List.append_assoc _ value.tokens, ← tokens_eq]
    exact spelled.moveTo (.operator inside outside (.callOf callee opening arguments closing))

/-- A comma goes on to the next argument. -/
theorem SpelledAround.nextArgument (spelled : reader.SpelledAround tokens) {callee : Token}
    {finished : List Phrase} (inside : SpelledPurpose purpose before)
    (outside : SpelledLayers (.argument callee finished :: layers) around)
    (value : Derivation .expression) (comma : Leaf .comma) :
    (reader.moveTo (.operand purpose
      (.argument callee (value.tree :: finished) :: layers))).Spelled
      (tokens ++ (before ++ (around ++ value.tokens ++ [comma.token]))) := by
  cases outside with
  | argument outside callee opening finished =>
    obtain ⟨arguments, tree_eq, tokens_eq⟩ := finished.next value
    have finished' := SpelledArguments.cons arguments comma
    rw [tree_eq, tokens_eq, List.reverse_reverse] at finished'
    simpa using spelled.moveTo (.operand inside (.argument outside callee opening finished'))

end Brackets

/-- A token where an operand has ended. -/
theorem SpelledAround.acceptOperator? (spelled : reader.SpelledAround tokens) {purpose : Purpose}
    {layers : List Layer} {around : List Token} (inside : SpelledPurpose purpose before)
    (inside' : SpelledLayers layers around) (last : Derivation .primary) {terminal : Terminal}
    (leaf : Leaf terminal)
    (h : reader.acceptOperator? purpose layers last.tree terminal leaf.token = some next) :
    next.Spelled (tokens ++ (before ++ (around ++ last.tokens ++ [leaf.token]))) := by
  unfold Reader.acceptOperator? at h
  split at h
  -- an operator: what it closes is its left operand
  · rename_i level
    obtain ⟨outside, left, outside', floor_le, tree_eq, eq⟩ := inside'.settle_level last level
    cases h
    rw [eq, tree_eq]
    exact spelled.moveTo (.operand inside (.binary outside' level floor_le left leaf))
  -- an assignment sign of either class: what it closes is the target
  · obtain ⟨outside, target, outside', floor_eq, tree_eq, eq⟩ := inside'.settle_target last
    cases h
    rw [eq, tree_eq]
    exact spelled.moveTo (.operand inside (.assign outside' floor_eq target leaf.token
      fun value => (Derivation.assign target leaf value).written))
  · obtain ⟨outside, target, outside', floor_eq, tree_eq, eq⟩ := inside'.settle_target last
    cases h
    rw [eq, tree_eq]
    exact spelled.moveTo (.operand inside (.assign outside' floor_eq target leaf.token
      fun value => (Derivation.compoundAssign target leaf value).written))
  -- a parenthesis after a name starts a call
  · rename_i callee name_eq
    cases h
    cases last with
    | reference name =>
      cases name_eq
      rw [List.append_assoc]
      exact spelled.moveTo (.operand inside (.argument inside' name leaf .nil))
    | _ => cases name_eq
  -- what ends an expression: the layer outside says what goes on
  · split at h
    · rename_i settle_eq
      obtain ⟨around, value, outside, rfl, eq⟩ := inside'.settle_zero last settle_eq
      cases h
      rw [eq]
      exact spelled.closeGroup inside outside value leaf
    · rename_i settle_eq
      obtain ⟨around, value, outside, rfl, eq⟩ := inside'.settle_zero last settle_eq
      cases h
      rw [eq]
      exact spelled.closeCall inside outside value leaf
    · rename_i settle_eq
      obtain ⟨around, value, outside, rfl, eq⟩ := inside'.settle_zero last settle_eq
      rw [eq]
      cases outside
      simpa using spelled.endByParenthesis? inside (.some value) leaf h
    · cases h
  · split at h
    · rename_i settle_eq
      obtain ⟨around, value, outside, rfl, eq⟩ := inside'.settle_zero last settle_eq
      cases h
      rw [eq]
      exact spelled.nextArgument inside outside value leaf
    · cases h
  · split at h
    · rename_i settle_eq
      obtain ⟨around, value, outside, rfl, eq⟩ := inside'.settle_zero last settle_eq
      rw [eq]
      cases outside
      simpa using spelled.endBySemicolon? inside (.some value) leaf h
    · cases h
  · cases h

/-- A token where a statement may start. -/
theorem SpelledAround.acceptStatement? (spelled : reader.SpelledAround tokens) {terminal : Terminal}
    (leaf : Leaf terminal) (h : reader.acceptStatement? terminal leaf.token = some next) :
    next.Spelled (tokens ++ [leaf.token]) := by
  unfold Reader.acceptStatement? at h
  split at h
  -- braces, and statements of one token
  · exact spelled.closeBody? leaf h
  · cases h
    simpa using spelled.openBody leaf .block
  · cases h
    exact (spelled.finish (Derivation.emptyStatement (.bare leaf)).written).ready rfl
  -- a keyword says what the statement is
  · cases h
    exact spelled.moveTo (.functionName leaf)
  · cases h
    exact spelled.moveTo (.variableName .none leaf)
  · cases h
    exact spelled.moveTo (.headingOpen fun opening => .ifTest .nil leaf opening)
  · cases h
    exact spelled.moveTo (.headingOpen fun opening => .whileTest leaf opening)
  · cases h
    exact spelled.moveTo (.bodyOpen fun _ => .doLoop leaf)
  · cases h
    exact spelled.moveTo (.headingOpen fun opening => .forStart leaf opening)
  · cases h
    exact spelled.beforeExpression (.result leaf)
  · cases h
    exact spelled.moveTo (.ending fun semicolon =>
      (Derivation.breakStatement (.breaking leaf semicolon)).written)
  · cases h
    exact spelled.moveTo (.ending fun semicolon =>
      (Derivation.continueStatement (.continuing leaf semicolon)).written)
  -- all other tokens can only start an expression
  · exact spelled.acceptOperand? .statement .nil leaf h

/-- Taking one more token in. -/
theorem Spelled.accept? (spelled : reader.Spelled tokens) {terminal : Terminal}
    (leaf : Leaf terminal) (h : reader.accept? terminal leaf.token = some next) :
    next.Spelled (tokens ++ [leaf.token]) := by
  obtain ⟨around, inside, spelled, position, rfl⟩ := spelled
  unfold Reader.accept? at h
  -- the position is named first, so that each case of the reader fixes it in the invariant too
  generalize reader.position = here at position h
  rw [List.append_assoc]
  split at h
  · cases position
    exact spelled.acceptStatement? leaf h
  -- a choice with a branch is one more arm if `else` follows, and a statement otherwise
  · cases h
    cases position with
    | afterBranch arms keyword opening condition closing body =>
      simp only [List.append_assoc, List.cons_append]
      exact spelled.moveTo (.alternative (.cons arms keyword opening condition closing body leaf))
  · cases position with
    | afterBranch arms keyword opening condition closing body =>
      have written := arms.written_nest (.ifThen keyword opening condition closing body)
      rw [← List.append_assoc]
      exact (spelled.finish written.choice).acceptStatement? leaf h
  · cases h
    cases position with
    | alternative arms =>
      rw [← List.append_assoc]
      exact spelled.openBody leaf (.elseBranch arms)
  · cases h
    cases position with
    | alternative arms =>
      refine spelled.moveTo (.headingOpen fun opening => ?_)
      rw [List.append_assoc]
      exact .ifTest arms leaf opening
  -- the heading of a function
  · cases h
    cases position with
    | functionName keyword => exact spelled.moveTo (.parametersOpen keyword leaf)
  · cases h
    cases position with
    | parametersOpen keyword name => exact spelled.moveTo (.parameter keyword name leaf .nil)
  · cases h
    cases position with
    | parameter keyword name opening finished =>
      obtain ⟨parameters, tree_eq, tokens_eq⟩ := finished.next leaf
      have := spelled.moveTo (.afterParameter keyword name opening parameters)
      rw [tree_eq, tokens_eq, List.reverse_reverse] at this
      exact this
  · cases h
    cases position with
    | parameter keyword name opening finished =>
      obtain rfl := finished.eq_nil
      exact spelled.moveTo (.bodyOpen fun _ => .function keyword name opening leaf)
  · cases h
    cases position with
    | afterParameter keyword name opening parameters =>
      exact spelled.moveTo (.parameter keyword name opening (.cons parameters leaf))
  · cases h
    cases position with
    | afterParameter keyword name opening parameters =>
      rw [List.reverse_reverse]
      exact spelled.moveTo (.bodyOpen fun _ => .functionOf keyword name opening parameters leaf)
  -- the brace of a body
  · cases h
    cases position with
    | bodyOpen owner =>
      rw [← List.append_assoc]
      exact spelled.openBody leaf (owner leaf.token)
  -- a declaration, on its own or in the heading of a loop
  · cases h
    cases position with
    | variableName heading keyword =>
      rw [List.append_assoc]
      exact spelled.moveTo (.afterName heading keyword leaf)
  · cases h
    cases position with
    | afterName heading keyword name =>
      rw [List.append_assoc]
      exact spelled.beforeExpression (.initializer heading keyword name leaf)
  · cases h
    cases position with
    | afterName heading keyword name =>
      cases heading
      exact (spelled.finish (Derivation.variableStatement
        (.uninitialized keyword name) leaf).written).ready rfl
  · cases h
    cases position with
    | afterName heading keyword name =>
      cases heading with
      | some forWord opening =>
        exact spelled.beforeExpression (.forTest forWord opening
          (.variableStart (.uninitialized keyword name)) leaf)
  -- the other parts of headings and the end of a statement
  · cases h
    cases position with
    | headingOpen purpose => exact spelled.beforeExpression (purpose leaf)
  · cases h
    cases position with
    | afterBody keyword body =>
      refine spelled.moveTo (.headingOpen fun opening => ?_)
      simp only [List.append_assoc, List.cons_append, List.nil_append]
      exact .doTest keyword body leaf opening
  · cases h
    cases position with
    | ending writes => exact (spelled.finish (writes leaf)).ready rfl
  -- inside an expression
  · cases position with
    | operand purpose layers =>
      rw [List.append_assoc]
      exact spelled.acceptOperand? purpose layers leaf h
  · cases position with
    | operator purpose layers last =>
      rw [List.append_assoc]
      exact spelled.acceptOperator? purpose layers last leaf h
  · cases h

/-- Taking tokens in. -/
theorem Spelled.feeds (spelled : reader.Spelled tokens) {more : List Token}
    (feeds : reader.Feeds more next) : next.Spelled (tokens ++ more) := by
  induction more generalizing reader tokens with
  | nil =>
    cases feeds
    rwa [List.append_nil]
  | cons token more ih =>
    obtain ⟨terminal, leaf, middle, rfl, accepts, feeds⟩ := feeds.of_cons
    have spelled' := ih (spelled.accept? leaf accepts) feeds
    rwa [List.append_assoc] at spelled'

/-- The finished statements, when no body is open. -/
theorem SpelledAround.exists_derivation (spelled : reader.SpelledAround tokens)
    (outer_eq : reader.outer = []) :
    ∃ derivation : Derivation .start,
      derivation.tree = reader.finished.reverse ∧ derivation.tokens = tokens := by
  obtain ⟨around, statements, outer, finished_eq, rfl⟩ := spelled
  rw [outer_eq] at outer
  cases outer
  refine ⟨.program statements, ?_, rfl⟩
  rw [finished_eq, List.reverse_reverse]
  exact rfl

/-- A program that may end here has a derivation. -/
theorem Spelled.exists_derivation (spelled : reader.Spelled tokens) {clauses : List Clause}
    (h : reader.clauses? = some clauses) :
    ∃ derivation : Derivation .start, derivation.tree = clauses ∧ derivation.tokens = tokens := by
  obtain ⟨around, inside, spelled, position, rfl⟩ := spelled
  unfold Reader.clauses? at h
  generalize reader.position = here at position h
  split at h
  · rename_i outer_eq
    cases h
    cases position
    rw [List.append_nil]
    exact spelled.exists_derivation outer_eq
  · rename_i outer_eq
    cases h
    cases position with
    | afterBranch arms keyword opening condition closing body =>
      have written := arms.written_nest (.ifThen keyword opening condition closing body)
      exact (spelled.finish written.choice).exists_derivation outer_eq
  · cases h

end Scriptlet.Grammar.Reader
