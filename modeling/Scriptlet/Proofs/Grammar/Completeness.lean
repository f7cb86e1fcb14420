import Scriptlet.Proofs.Grammar.Expression

/-! # The reader takes every derivation in

What a derivation derives is read without a refusal, and what the reader then holds is the tree of
the derivation.  For each symbol of the grammar, `Symbol.Reads` says where a reader that stands
before the symbol gets to by reading it; each production has a lemma that puts together what its
parts do.

Main definitions:

* `Reader.Between`: a reader goes on as one between two statements does.
* `Symbol.Reads`: what reading a symbol does.

Main results:

* `Derivation.reads`: every derivation is read.
* `Derivation.exists_feeds`: after a whole program, the reader holds its tree. -/

namespace Scriptlet.Grammar

/-! ## Between statements -/

/-- A reader goes on as one between two statements does: it stands there, or it stands after a
choice to which `else` could still be added. -/
inductive Reader.Between : Reader → Reader → Prop
  | ready {reader : Reader} (position_eq : reader.position = .ready) : Between reader reader
  | pending {reader : Reader} {arm : Arm} {outer : List Arm}
      (position_eq : reader.position = .afterBranch arm outer) :
      Between reader (reader.finish (nest (.ifThen arm.line arm.condition arm.body) outer))

namespace Reader

variable {reader base around : Reader}

/-- What goes on as between two statements takes in every token but `else` as it is taken in there.
-/
theorem Between.accept?_eq (between : reader.Between base) {terminal : Terminal}
    (h : terminal ≠ .keyword .elseWord) (token : Token) :
    reader.accept? terminal token = base.acceptStatement? terminal token := by
  cases between with
  | ready position_eq => simp [accept?, position_eq]
  | pending position_eq => simp [accept?, position_eq]

/-- What goes on as between two statements, with no body open, holds a program. -/
theorem Between.clauses?_eq (between : reader.Between base) (h : base.outer = []) :
    reader.clauses? = some base.finished.reverse := by
  cases between with
  | ready position_eq => simp [clauses?, position_eq, h]
  | pending position_eq =>
    have : reader.outer = [] := h
    simp [clauses?, position_eq, this, finish]

/-- After a choice without `else`, the choice counts as ended. -/
theorem between_afterBranch (around : Reader) (arm : Arm) (outer : List Arm) :
    (around.moveTo (.afterBranch arm outer)).Between
      (around.finish (nest (.ifThen arm.line arm.condition arm.body) outer)) :=
  @Between.pending (around.moveTo (.afterBranch arm outer)) arm outer rfl

/-- An expression may stand where a statement may. -/
theorem Between.expects (between : reader.Between base) : reader.Expects base .statement [] := by
  intro terminal token starts
  have ne : terminal ≠ .keyword .elseWord := by
    rintro rfl
    simp [Terminal.startsOperand] at starts
  rw [between.accept?_eq ne]
  match terminal, starts with
  | .identifier, _ | .integer, _ | .float, _ | .string, _ | .leftParenthesis, _ | .unary, _
  | .binary .additive, _ => rfl

/-- Where a reader stood in a body does not matter once the body has ended. -/
@[simp] theorem endBody_position (around : Reader) (position : Position) (owner : Owner)
    (body : List Clause) :
    (around.moveTo position).endBody owner body = around.endBody owner body := by
  cases owner <;> rfl

/-- Ending statements leaves the bodies around. -/
@[simp] theorem foldl_finish_outer (clauses : List Clause) (base : Reader) :
    (clauses.foldl finish base).outer = base.outer := by
  induction clauses generalizing base with
  | nil => rfl
  | cons clause clauses ih => exact ih (base.finish clause)

/-- Ended statements are held last first. -/
@[simp] theorem foldl_finish_finished (clauses : List Clause) (base : Reader) :
    (clauses.foldl finish base).finished = clauses.reverse ++ base.finished := by
  induction clauses generalizing base with
  | nil => rfl
  | cons clause clauses ih => simp [ih, finish]

end Reader

/-! ## Statements -/

/-- Reading a statement. -/
def ReadsStatement (clause : Clause) (tokens : List Token) : Prop :=
  ∀ ⦃reader base⦄, Reader.Between reader base →
    ∃ after, reader.Feeds tokens after ∧ after.Between (base.finish clause)

/-- Reading statements. -/
def ReadsStatements (clauses : List Clause) (tokens : List Token) : Prop :=
  ∀ ⦃reader base⦄, Reader.Between reader base →
    ∃ after, reader.Feeds tokens after ∧ after.Between (clauses.foldl Reader.finish base)

/-- Reading a body, where its brace opens one for an owner. -/
def ReadsBody (clauses : List Clause) (tokens : List Token) : Prop :=
  ∀ ⦃reader around : Reader⦄ ⦃owner : Owner⦄,
    (∀ brace, tokens.head? = some brace →
      reader.accept? .leftBrace brace = some (around.openBody owner)) →
    reader.Feeds tokens (around.endBody owner clauses)

/-- Reading a choice, in the `else` branch of the arms around it. -/
def ReadsChoice (clause : Clause) (tokens : List Token) : Prop :=
  ∀ ⦃reader around : Reader⦄ ⦃arms : List Arm⦄,
    (∀ keyword, reader.accept? (.keyword .ifWord) keyword
      = some (around.moveTo (.headingOpen (.ifTest arms keyword.line)))) →
    ∃ after, reader.Feeds tokens after ∧ after.Between (around.finish (nest clause arms))

/-- Reading what follows `else`. -/
def ReadsElse (branch : List Clause ⊕ Clause) (tokens : List Token) : Prop :=
  ∀ (around : Reader) arm outer, ∃ after,
    (around.moveTo (.alternative arm outer)).Feeds tokens after ∧
      after.Between (around.finish (nest (arm.orElse branch) outer))

/-- Reading a declaration of a variable, up to the semicolon that ends it, where the heading of a
loop or none is around it. -/
def ReadsDeclaration (clause : Clause) (tokens : List Token) : Prop :=
  ∀ ⦃reader around : Reader⦄ ⦃heading : Option Int⦄,
    (∀ keyword, reader.accept? (.keyword .varWord) keyword
      = some (around.moveTo (.variableName keyword.line heading))) →
    ∃ middle, reader.Feeds tokens middle ∧ ∀ semicolon, middle.accept? .semicolon semicolon
      = some (match heading with
        | none => around.finish clause
        | some line => around.moveTo (.operand (.forTest line (some clause)) []))

/-- Reading the parameters of a function. -/
def ReadsParameters (parameters tokens : List Token) : Prop :=
  ∀ (around : Reader) line name, ∃ finished,
    (around.moveTo (.parameter line name [])).Feeds tokens
      (around.moveTo (.afterParameter line name finished)) ∧ parameters = finished.reverse

/-- Reading a part of the heading of a loop, up to the token that ends it. -/
def ReadsPart (start : Position) (tokens : List Token) (ending : Terminal) (next : Position) : Prop :=
  ∀ around : Reader, ∃ middle, (around.moveTo start).Feeds tokens middle ∧
    ∀ token, middle.accept? ending token = some (around.moveTo next)

section Productions

variable {clause : Clause} {clauses other : List Clause} {phrase : Phrase}
  {tokens more rest : List Token}

/-- Nothing is read as no statements. -/
theorem ReadsStatements.noStatement : ReadsStatements [] [] := by
  intro reader base between
  exact ⟨reader, .nil reader, between⟩

/-- A statement after statements is read where those left off. -/
theorem ReadsStatements.oneMore (reads : ReadsStatements clauses tokens)
    (reads' : ReadsStatement clause more) :
    ReadsStatements (clauses ++ [clause]) (tokens ++ more) := by
  intro reader base between
  obtain ⟨middle, feeds, between'⟩ := reads between
  obtain ⟨after, feeds', between''⟩ := reads' between'
  refine ⟨after, feeds.append feeds', ?_⟩
  rw [List.foldl_append]
  exact between''

/-- Statements in braces are read as a body: the bodies around wait. -/
theorem ReadsBody.braces (opening : Leaf .leftBrace) (reads : ReadsStatements clauses tokens)
    (closing : Leaf .rightBrace) :
    ReadsBody clauses (opening.token :: (tokens ++ [closing.token])) := by
  intro reader around owner opens
  obtain ⟨after, feeds, between⟩ := reads (@Reader.Between.ready (around.openBody owner) rfl)
  refine .cons opening (opens opening.token rfl) (feeds.append (.single closing ?_))
  -- the last statement may be a choice that `else` could follow; the brace finishes it
  rw [between.accept?_eq (by decide)]
  simp only [Reader.acceptStatement?, Reader.closeBody?, Reader.foldl_finish_outer,
    Reader.foldl_finish_finished, Reader.openBody, List.append_nil, List.reverse_reverse]
  exact congrArg some (Reader.endBody_position around .ready owner clauses)

/-- A body in a position that only a brace moves on. -/
theorem ReadsBody.feeds (reads : ReadsBody clauses tokens) (around : Reader) (owner : Owner) :
    (around.moveTo (.bodyOpen owner)).Feeds tokens (around.endBody owner clauses) :=
  reads fun _ _ => rfl

/-- A body by itself is read as a statement. -/
theorem ReadsStatement.block (reads : ReadsBody clauses tokens) :
    ReadsStatement (.block ((tokens.head?.map (·.line)).getD 0) clauses) tokens := by
  intro reader base between
  refine ⟨base.finish (.block _ clauses), @reads reader base (.block _) fun brace h => ?_, .ready rfl⟩
  rw [between.accept?_eq (by decide), h]
  rfl

/-- An expression with its semicolon is read as a statement. -/
theorem ReadsStatement.expression (reads : ReadsAt 0 phrase tokens) (semicolon : Leaf .semicolon) :
    ReadsStatement (.expression phrase) (tokens ++ [semicolon.token]) := by
  intro reader base between
  obtain ⟨middle, feeds, ended, -⟩ := reads.ends between.expects
  exact ⟨_, feeds.append (.single semicolon (ended semicolon.token)), .ready rfl⟩

/-- A declaration with its semicolon is read as a statement. -/
theorem ReadsStatement.declaration (reads : ReadsDeclaration clause tokens)
    (semicolon : Leaf .semicolon) : ReadsStatement clause (tokens ++ [semicolon.token]) := by
  intro reader base between
  obtain ⟨middle, feeds, ended⟩ := reads fun keyword => between.accept?_eq (by decide) keyword
  exact ⟨_, feeds.append (.single semicolon (ended semicolon.token)), .ready rfl⟩

/-- A choice is read as a statement. -/
theorem ReadsStatement.choice (reads : ReadsChoice clause tokens) : ReadsStatement clause tokens := by
  intro reader base between
  exact reads fun keyword => between.accept?_eq (by decide) keyword

/-- A semicolon by itself is read as an empty statement. -/
theorem ReadsStatement.empty (semicolon : Leaf .semicolon) :
    ReadsStatement .empty [semicolon.token] := by
  intro reader base between
  exact ⟨_, .single semicolon (between.accept?_eq (by decide) semicolon.token), .ready rfl⟩

/-- A name is read as a parameter. -/
theorem ReadsParameters.one (name : Leaf .identifier) :
    ReadsParameters [name.token] [name.token] := by
  intro around line function
  exact ⟨[name.token], .single name rfl, rfl⟩

/-- A comma and a name are read as a further parameter. -/
theorem ReadsParameters.next {parameters : List Token} (reads : ReadsParameters parameters tokens)
    (comma : Leaf .comma) (name : Leaf .identifier) :
    ReadsParameters (parameters ++ [name.token]) (tokens ++ [comma.token, name.token]) := by
  intro around line function
  obtain ⟨finished, feeds, rfl⟩ := reads around line function
  exact ⟨name.token :: finished, feeds.append (.cons comma rfl (.single name rfl)), by simp⟩

/-- A function without parameters is read as a statement. -/
theorem ReadsStatement.function (keyword : Leaf (.keyword .function)) (name : Leaf .identifier)
    (opening : Leaf .leftParenthesis) (closing : Leaf .rightParenthesis)
    (reads : ReadsBody clauses tokens) :
    ReadsStatement (.function keyword.token.line name.token [] clauses)
      (keyword.token :: name.token :: opening.token :: closing.token :: tokens) := by
  intro reader base between
  refine ⟨_, .cons keyword (between.accept?_eq (by decide) keyword.token) ?_, .ready rfl⟩
  exact .cons name rfl (.cons opening rfl (.cons closing rfl (reads.feeds base _)))

/-- A function with parameters is read as a statement. -/
theorem ReadsStatement.functionOf {parameters : List Token} (keyword : Leaf (.keyword .function))
    (name : Leaf .identifier) (opening : Leaf .leftParenthesis)
    (reads : ReadsParameters parameters tokens) (closing : Leaf .rightParenthesis)
    (reads' : ReadsBody clauses more) :
    ReadsStatement (.function keyword.token.line name.token parameters clauses)
      (keyword.token :: name.token :: opening.token :: (tokens ++ closing.token :: more)) := by
  intro reader base between
  obtain ⟨finished, feeds, rfl⟩ := reads base keyword.token.line name.token
  refine ⟨_, .cons keyword (between.accept?_eq (by decide) keyword.token) ?_, .ready rfl⟩
  exact .cons name rfl (.cons opening rfl (feeds.append (.cons closing rfl (reads'.feeds base _))))

/-- A declaration without a value is read. -/
theorem ReadsDeclaration.uninitialized (keyword : Leaf (.keyword .varWord))
    (name : Leaf .identifier) :
    ReadsDeclaration (.declaration keyword.token.line name.token none)
      [keyword.token, name.token] := by
  intro reader around heading accepts
  refine ⟨_, .cons keyword (accepts keyword.token) (.single name rfl), fun semicolon => ?_⟩
  cases heading <;> rfl

/-- A declaration with a value is read. -/
theorem ReadsDeclaration.initialized (keyword : Leaf (.keyword .varWord)) (name : Leaf .identifier)
    (sign : Leaf .assign) (reads : ReadsAt 0 phrase tokens) :
    ReadsDeclaration (.declaration keyword.token.line name.token (some phrase))
      (keyword.token :: name.token :: sign.token :: tokens) := by
  intro reader around heading accepts
  obtain ⟨middle, feeds, ended, -⟩ := reads.ends
    (Reader.expects_moveTo around (.initializer keyword.token.line name.token heading) [])
  refine ⟨middle, .cons keyword (accepts keyword.token) (.cons name rfl (.cons sign rfl feeds)),
    fun semicolon => ?_⟩
  rw [ended]
  cases heading <;> rfl

/-- The part of a choice before its `else` branch. -/
theorem ReadsBody.feedsBranch (keyword : Leaf (.keyword .ifWord)) (opening : Leaf .leftParenthesis)
    (reads : ReadsAt 0 phrase tokens) (closing : Leaf .rightParenthesis)
    (reads' : ReadsBody clauses more) {reader around : Reader} {arms : List Arm}
    (accepts : ∀ keyword, reader.accept? (.keyword .ifWord) keyword
      = some (around.moveTo (.headingOpen (.ifTest arms keyword.line)))) :
    reader.Feeds (keyword.token :: opening.token :: (tokens ++ closing.token :: more))
      (around.moveTo (.afterBranch ⟨keyword.token.line, phrase, clauses⟩ arms)) := by
  obtain ⟨middle, feeds, -, ended⟩ := reads.ends
    (Reader.expects_moveTo around (.ifTest arms keyword.token.line) [])
  refine .cons keyword (accepts keyword.token) (.cons opening rfl (feeds.append ?_))
  exact .cons closing (ended closing.token) (reads'.feeds around _)

/-- A choice without `else` is read; the reader then waits for `else`. -/
theorem ReadsChoice.ifThen (keyword : Leaf (.keyword .ifWord)) (opening : Leaf .leftParenthesis)
    (reads : ReadsAt 0 phrase tokens) (closing : Leaf .rightParenthesis)
    (reads' : ReadsBody clauses more) :
    ReadsChoice (.ifThen keyword.token.line phrase clauses)
      (keyword.token :: opening.token :: (tokens ++ closing.token :: more)) := by
  intro reader around arms accepts
  exact ⟨_, reads'.feedsBranch keyword opening reads closing accepts,
    Reader.between_afterBranch around ⟨keyword.token.line, phrase, clauses⟩ arms⟩

/-- A choice with `else` is read: the arm in front waits for its branch. -/
theorem ReadsChoice.ifElse {branch : List Clause ⊕ Clause} (keyword : Leaf (.keyword .ifWord))
    (opening : Leaf .leftParenthesis) (reads : ReadsAt 0 phrase tokens)
    (closing : Leaf .rightParenthesis) (reads' : ReadsBody clauses more)
    (otherwise : Leaf (.keyword .elseWord)) (reads'' : ReadsElse branch rest) :
    ReadsChoice (Arm.orElse ⟨keyword.token.line, phrase, clauses⟩ branch)
      (keyword.token :: opening.token :: (tokens ++ closing.token ::
        (more ++ otherwise.token :: rest))) := by
  intro reader around arms accepts
  obtain ⟨after, feeds, between⟩ := reads'' around ⟨keyword.token.line, phrase, clauses⟩ arms
  have := (reads'.feedsBranch keyword opening reads closing accepts).append
    (.cons otherwise rfl feeds)
  exact ⟨after, by simpa using this, between⟩

/-- A body is read as the branch after `else`. -/
theorem ReadsElse.body (reads : ReadsBody clauses tokens) : ReadsElse (.inl clauses) tokens := by
  intro around arm outer
  exact ⟨_, @reads _ around (.elseBranch arm outer) fun _ _ => rfl, .ready rfl⟩

/-- A choice is read as the branch after `else`. -/
theorem ReadsElse.choice (reads : ReadsChoice clause tokens) : ReadsElse (.inr clause) tokens := by
  intro around arm outer
  exact @reads _ around (arm :: outer) fun _ => rfl

/-- A loop with its test first is read as a statement. -/
theorem ReadsStatement.whileLoop (keyword : Leaf (.keyword .whileWord))
    (opening : Leaf .leftParenthesis) (reads : ReadsAt 0 phrase tokens)
    (closing : Leaf .rightParenthesis) (reads' : ReadsBody clauses more) :
    ReadsStatement (.whileLoop keyword.token.line phrase clauses)
      (keyword.token :: opening.token :: (tokens ++ closing.token :: more)) := by
  intro reader base between
  obtain ⟨middle, feeds, -, ended⟩ := reads.ends
    (Reader.expects_moveTo base (.whileTest keyword.token.line) [])
  refine ⟨_, .cons keyword (between.accept?_eq (by decide) keyword.token) ?_, .ready rfl⟩
  exact .cons opening rfl (feeds.append (.cons closing (ended closing.token)
    (reads'.feeds base _)))

/-- A loop with its test last is read as a statement. -/
theorem ReadsStatement.doLoop (keyword : Leaf (.keyword .doWord))
    (reads : ReadsBody clauses tokens) (test : Leaf (.keyword .whileWord))
    (opening : Leaf .leftParenthesis) (reads' : ReadsAt 0 phrase more)
    (closing : Leaf .rightParenthesis) (semicolon : Leaf .semicolon) :
    ReadsStatement (.doLoop keyword.token.line clauses phrase)
      (keyword.token :: (tokens ++ test.token :: opening.token ::
        (more ++ [closing.token, semicolon.token]))) := by
  intro reader base between
  obtain ⟨middle, feeds, -, ended⟩ := reads'.ends
    (Reader.expects_moveTo base (.doTest keyword.token.line clauses) [])
  refine ⟨_, .cons keyword (between.accept?_eq (by decide) keyword.token) ?_, .ready rfl⟩
  refine (reads.feeds base (.doLoop keyword.token.line)).append ?_
  exact .cons test rfl (.cons opening rfl (feeds.append (.cons closing (ended closing.token)
    (.single semicolon rfl))))

/-- A statement that is one keyword is read with its semicolon. -/
theorem ReadsStatement.jump {word : Keyword} (keyword : Leaf (.keyword word))
    (semicolon : Leaf .semicolon) (h : word ≠ .elseWord)
    (accepts : ∀ base : Reader, base.acceptStatement? (.keyword word) keyword.token
      = some (base.moveTo (.ending clause))) :
    ReadsStatement clause [keyword.token, semicolon.token] := by
  intro reader base between
  have first := between.accept?_eq (fun eq => h (Terminal.keyword.inj eq)) keyword.token
  exact ⟨_, .cons keyword (first.trans (accepts base)) (.single semicolon rfl), .ready rfl⟩

/-- A `return` without a value is read as a statement. -/
theorem ReadsStatement.returning (keyword : Leaf (.keyword .returnWord))
    (semicolon : Leaf .semicolon) :
    ReadsStatement (.returning keyword.token.line none) [keyword.token, semicolon.token] := by
  intro reader base between
  exact ⟨_, .cons keyword (between.accept?_eq (by decide) keyword.token) (.single semicolon rfl),
    .ready rfl⟩

/-- A `return` with a value is read as a statement. -/
theorem ReadsStatement.returningOf (keyword : Leaf (.keyword .returnWord))
    (reads : ReadsAt 0 phrase tokens) (semicolon : Leaf .semicolon) :
    ReadsStatement (.returning keyword.token.line (some phrase))
      (keyword.token :: (tokens ++ [semicolon.token])) := by
  intro reader base between
  obtain ⟨middle, feeds, ended, -⟩ := reads.ends
    (Reader.expects_moveTo base (.result keyword.token.line) [])
  refine ⟨_, .cons keyword (between.accept?_eq (by decide) keyword.token) ?_, .ready rfl⟩
  exact feeds.append (.single semicolon (ended semicolon.token))

/-- A part of a heading that is left out. -/
theorem ReadsPart.absent {start next : Position} {ending : Terminal}
    (h : ∀ (around : Reader) token,
      (around.moveTo start).accept? ending token = some (around.moveTo next)) :
    ReadsPart start [] ending next :=
  fun around => ⟨_, .nil _, h around⟩

/-- An expression that a semicolon ends is read as a part of a heading. -/
theorem ReadsPart.bySemicolon {purpose : Purpose} {next : Position} (reads : ReadsAt 0 phrase tokens)
    (h : ∀ around : Reader, around.endBySemicolon? purpose (some phrase)
      = some (around.moveTo next)) :
    ReadsPart (.operand purpose []) tokens .semicolon next := by
  intro around
  obtain ⟨middle, feeds, ended, -⟩ := reads.ends (Reader.expects_moveTo around purpose [])
  exact ⟨middle, feeds, fun token => (ended token).trans (h around)⟩

/-- An expression that a parenthesis ends is read as a part of a heading. -/
theorem ReadsPart.byParenthesis {purpose : Purpose} {next : Position}
    (reads : ReadsAt 0 phrase tokens)
    (h : ∀ around : Reader, around.endByParenthesis? purpose (some phrase)
      = some (around.moveTo next)) :
    ReadsPart (.operand purpose []) tokens .rightParenthesis next := by
  intro around
  obtain ⟨middle, feeds, -, ended⟩ := reads.ends (Reader.expects_moveTo around purpose [])
  exact ⟨middle, feeds, fun token => (ended token).trans (h around)⟩

/-- A declaration is read as the start of a heading. -/
theorem ReadsPart.declaration (reads : ReadsDeclaration clause tokens) (line : Int) :
    ReadsPart (.operand (.forStart line) []) tokens .semicolon
      (.operand (.forTest line (some clause)) []) := by
  intro around
  exact @reads (around.moveTo (.operand (.forStart line) [])) around (some line) fun _ => rfl

end Productions

/-- Reading the start of a loop. -/
def ReadsForStart (start : Option Clause) (tokens : List Token) : Prop :=
  ∀ line, ReadsPart (.operand (.forStart line) []) tokens .semicolon
    (.operand (.forTest line start) [])

/-- Reading the test of a loop with a start. -/
def ReadsForTest (condition : Option Phrase) (tokens : List Token) : Prop :=
  ∀ line start, ReadsPart (.operand (.forTest line start) []) tokens .semicolon
    (.operand (.forStep line start condition) [])

/-- Reading the step of a loop. -/
def ReadsForStep (step : Option Phrase) (tokens : List Token) : Prop :=
  ∀ line start condition, ReadsPart (.operand (.forStep line start condition) []) tokens
    .rightParenthesis (.bodyOpen (.forLoop line start condition step))

/-- A loop with a heading is read as a statement, part by part. -/
theorem ReadsStatement.forLoop {start : Option Clause} {condition step : Option Phrase}
    {clauses : List Clause} {startTokens testTokens stepTokens tokens : List Token}
    (keyword : Leaf (.keyword .forWord)) (opening : Leaf .leftParenthesis)
    (first : ReadsForStart start startTokens) (afterStart : Leaf .semicolon)
    (test : ReadsForTest condition testTokens) (afterTest : Leaf .semicolon)
    (last : ReadsForStep step stepTokens) (closing : Leaf .rightParenthesis)
    (reads : ReadsBody clauses tokens) :
    ReadsStatement (.forLoop keyword.token.line start condition step clauses)
      (keyword.token :: opening.token :: (startTokens ++ afterStart.token ::
        (testTokens ++ afterTest.token :: (stepTokens ++ closing.token :: tokens)))) := by
  intro reader base between
  -- each part of the heading ends with the token that leads to the next one
  obtain ⟨middle, feeds, ended⟩ := first keyword.token.line base
  obtain ⟨middle', feeds', ended'⟩ := test keyword.token.line start base
  obtain ⟨middle'', feeds'', ended''⟩ := last keyword.token.line start condition base
  refine ⟨_, .cons keyword (between.accept?_eq (by decide) keyword.token) ?_, .ready rfl⟩
  refine .cons opening rfl (feeds.append (.cons afterStart (ended afterStart.token) ?_))
  refine feeds'.append (.cons afterTest (ended' afterTest.token) ?_)
  exact feeds''.append (.cons closing (ended'' closing.token) (reads.feeds base _))

/-! ## Derivations -/

/-- Reading a symbol that is written as a given tree and with given tokens. -/
def Symbol.Reads : (symbol : Symbol) → symbol.Tree → List Token → Prop
  | start, clauses, tokens | statements, clauses, tokens => ReadsStatements clauses tokens
  | body, clauses, tokens => ReadsBody clauses tokens
  | statement, clause, tokens | functionDeclaration, clause, tokens | whileLoop, clause, tokens
  | doLoop, clause, tokens | forLoop, clause, tokens | returning, clause, tokens
  | breaking, clause, tokens | continuing, clause, tokens | empty, clause, tokens =>
    ReadsStatement clause tokens
  | variableDeclaration, clause, tokens => ReadsDeclaration clause tokens
  | choice, clause, tokens => ReadsChoice clause tokens
  | elseBranch, branch, tokens => ReadsElse branch tokens
  | parameters, names, tokens => ReadsParameters names tokens
  | forStart, clause, tokens => ReadsForStart clause tokens
  | forTest, phrase, tokens => ReadsForTest phrase tokens
  | forStep, phrase, tokens => ReadsForStep phrase tokens
  | expression, phrase, tokens | assignment, phrase, tokens => ReadsAt 0 phrase tokens
  | operand rung, phrase, tokens => ReadsAt rung.rank phrase tokens
  | primary, phrase, tokens => ReadsAt 11 phrase tokens
  | arguments, phrases, tokens => ReadsArguments phrases tokens

/-- Every derivation is read. -/
theorem Derivation.reads {symbol : Symbol} (derivation : Derivation symbol) :
    symbol.Reads derivation.tree derivation.tokens := by
  -- each case is the lemma of its production
  induction derivation with
  | program _ ih => exact ih
  | noStatement => exact .noStatement
  | oneMore _ _ ih ih' => exact .oneMore ih ih'
  | functionStatement _ ih => exact ih
  | variableStatement _ semicolon ih => exact .declaration ih semicolon
  | choiceStatement _ ih => exact .choice ih
  | whileStatement _ ih => exact ih
  | doStatement _ ih => exact ih
  | forStatement _ ih => exact ih
  | returnStatement _ ih => exact ih
  | breakStatement _ ih => exact ih
  | continueStatement _ ih => exact ih
  | blockStatement _ ih => exact .block ih
  | expressionStatement _ semicolon ih => exact .expression ih semicolon
  | emptyStatement _ ih => exact ih
  | function keyword name opening closing _ ih => exact .function keyword name opening closing ih
  | functionOf keyword name opening _ closing _ ih ih' =>
    exact .functionOf keyword name opening ih closing ih'
  | oneParameter name => exact .one name
  | nextParameter _ comma name ih => exact .next ih comma name
  | uninitialized keyword name => exact .uninitialized keyword name
  | initialized keyword name sign _ ih => exact .initialized keyword name sign ih
  | ifThen keyword opening _ closing _ ih ih' => exact .ifThen keyword opening ih closing ih'
  | ifElse keyword opening _ closing _ otherwise _ ih ih' ih'' =>
    exact .ifElse keyword opening ih closing ih' otherwise ih''
  | elseBody _ ih => exact .body ih
  | elseChoice _ ih => exact .choice ih
  | whileLoop keyword opening _ closing _ ih ih' => exact .whileLoop keyword opening ih closing ih'
  | doLoop keyword _ test opening _ closing semicolon ih ih' =>
    exact .doLoop keyword ih test opening ih' closing semicolon
  | forLoop keyword opening _ afterStart _ afterTest _ closing _ ih ih' ih'' reads =>
    exact .forLoop keyword opening ih afterStart ih' afterTest ih'' closing reads
  | noStart => exact fun _ => .absent fun _ _ => rfl
  | variableStart _ ih => exact .declaration ih
  | expressionStart _ ih => exact fun _ => .bySemicolon ih fun _ => rfl
  | noTest => exact fun _ _ => .absent fun _ _ => rfl
  | testOf _ ih => exact fun _ _ => .bySemicolon ih fun _ => rfl
  | noStep => exact fun _ _ _ => .absent fun _ _ => rfl
  | stepOf _ ih => exact fun _ _ _ => .byParenthesis ih fun _ => rfl
  | returning keyword semicolon => exact .returning keyword semicolon
  | returningOf keyword _ semicolon ih => exact .returningOf keyword ih semicolon
  | breaking keyword semicolon => exact .jump keyword semicolon (by decide) fun _ => rfl
  | continuing keyword semicolon => exact .jump keyword semicolon (by decide) fun _ => rfl
  | bare semicolon => exact .empty semicolon
  | braces opening _ closing ih => exact .braces opening ih closing
  | whole _ ih => exact ih
  | plain _ ih => exact ih.mono (Nat.zero_le _)
  | assign _ sign _ ih ih' => exact .assign sign (.inl rfl) ih ih'
  | compoundAssign _ sign _ ih ih' => exact .assign sign (.inr rfl) ih ih'
  | single level _ ih => exact ih.mono (level.rank_next ▸ Nat.le_succ level.rank)
  | chain level _ operator _ ih ih' =>
    rw [Symbol.Reads, Level.rank_next] at ih'
    exact .binary operator ih ih'
  | prefixed operator _ ih => exact .unary operator rfl (fun _ _ _ => rfl) ih
  | signed operator _ ih => exact .unary operator rfl (fun _ _ _ => rfl) ih
  | atom _ ih => exact ih
  | call callee opening closing => exact .call callee opening closing
  | callOf callee opening _ closing ih => exact .callOf callee opening ih closing
  | reference name => exact .token name rfl fun _ _ _ => rfl
  | integer numeral => exact .token numeral rfl fun _ _ _ => rfl
  | float numeral => exact .token numeral rfl fun _ _ _ => rfl
  | string literal => exact .token literal rfl fun _ _ _ => rfl
  | group opening _ closing ih => exact .group opening ih closing
  | oneArgument _ ih => exact .one ih
  | nextArgument _ comma _ ih ih' => exact .next ih comma ih'

/-- After a whole program, the reader holds its tree. -/
theorem Derivation.exists_feeds (derivation : Derivation .start) :
    ∃ after, Reader.initial.Feeds derivation.tokens after ∧
      after.clauses? = some derivation.tree := by
  have reads : ReadsStatements derivation.tree derivation.tokens := derivation.reads
  obtain ⟨after, feeds, between⟩ := reads (@Reader.Between.ready Reader.initial rfl)
  refine ⟨after, feeds, ?_⟩
  rw [between.clauses?_eq (by simp [Reader.initial])]
  simp [Reader.initial]

end Scriptlet.Grammar
