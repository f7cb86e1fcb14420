import Scriptlet.Proofs.Grammar.Completeness

/-! # Every reader can be completed

Whatever a reader holds, there are tokens with which it becomes a whole program.  An operand is named,
open brackets are closed, the statement is ended in the way its purpose asks for, and the open bodies
are closed one by one.

Main definitions:

* `Reader.Completes`: some tokens make a reader hold a whole program.

Main results:

* `Reader.completes`: every reader can be completed. -/

namespace Scriptlet.Grammar

/-! ## Samples of the classes -/

/-- A name. -/
def Leaf.name : Leaf .identifier := ⟨⟨.identifier, "x", 1⟩, rfl⟩

/-- A punctuation mark. -/
def Leaf.mark {terminal : Terminal} (lexeme : String)
    (h : Terminal.ofPunctuation? lexeme = some terminal) : Leaf terminal :=
  ⟨⟨.punctuation, lexeme, 1⟩, h⟩

/-- A word. -/
def Leaf.word (keyword : Keyword) : Leaf (.keyword keyword) :=
  ⟨⟨.keyword keyword, "", 1⟩, rfl⟩

/-- A semicolon. -/
def Leaf.semicolon : Leaf .semicolon := .mark ";" rfl

/-- A parenthesis that opens. -/
def Leaf.opening : Leaf .leftParenthesis := .mark "(" rfl

/-- A parenthesis that closes. -/
def Leaf.closing : Leaf .rightParenthesis := .mark ")" rfl

/-- A brace that opens. -/
def Leaf.openingBrace : Leaf .leftBrace := .mark "\x7b" rfl

/-- A brace that closes. -/
def Leaf.closingBrace : Leaf .rightBrace := .mark "\x7d" rfl

namespace Reader

/-- Some tokens make the reader hold a whole program. -/
def Completes (reader : Reader) : Prop :=
  ∃ tokens after clauses, reader.Feeds tokens after ∧ after.clauses? = some clauses

variable {reader next : Reader}

/-- One more token on the way to a whole program. -/
theorem Completes.of_accept? {terminal : Terminal} (leaf : Leaf terminal)
    (accepts : reader.accept? terminal leaf.token = some next) (completes : next.Completes) :
    reader.Completes := by
  obtain ⟨tokens, after, clauses, feeds, ends⟩ := completes
  exact ⟨leaf.token :: tokens, after, clauses, .cons leaf accepts feeds, ends⟩

/-! ## After an operand -/

section AfterOperand

variable {layers : List Layer} {phrase last : Phrase}

/-- A semicolon after an operand that no bracket is open around ends the expression. -/
theorem accept?_semicolon (around : Reader) (settled : settle 0 layers phrase = ([], last))
    (purpose : Purpose) (token : Token) :
    (around.moveTo (.operator purpose layers phrase)).accept? .semicolon token
      = around.endBySemicolon? purpose (some last) := by
  simp only [accept?, acceptOperator?, position_moveTo, settled]
  cases purpose <;> rfl

/-- So does a parenthesis. -/
theorem accept?_rightParenthesis (around : Reader)
    (settled : settle 0 layers phrase = ([], last)) (purpose : Purpose) (token : Token) :
    (around.moveTo (.operator purpose layers phrase)).accept? .rightParenthesis token
      = around.endByParenthesis? purpose (some last) := by
  simp only [accept?, acceptOperator?, position_moveTo, settled]
  cases purpose <;> rfl

end AfterOperand

/-! ## Inside a body

The bodies around stay as they are until the statement being read has ended. -/

/-- Between two statements, the open bodies can be closed. -/
def Closes (outer : List (Owner × List Clause)) : Prop :=
  ∀ finished, Completes ⟨outer, finished, .ready⟩

variable {outer : List (Owner × List Clause)}

namespace Closes

section Statement

variable (closes : Closes outer) {around : Reader} (h : around.outer = outer)
include closes h

/-- A statement that has ended leaves a reader between two statements. -/
theorem finish (clause : Clause) : (around.finish clause).Completes := by
  subst h
  exact closes (clause :: around.finished)

/-- A statement is ended by its semicolon. -/
theorem ending (clause : Clause) : (around.moveTo (.ending clause)).Completes :=
  .of_accept? .semicolon rfl (closes.finish h clause)

/-- The test of a loop is named, and closed. -/
theorem doTest (line : Int) (body : List Clause) :
    (around.moveTo (.operand (.doTest line body) [])).Completes :=
  .of_accept? .name rfl (.of_accept? .closing rfl (closes.ending h _))

/-- After the body of a loop with its test last comes the test. -/
theorem afterBody (line : Int) (body : List Clause) :
    (around.moveTo (.afterBody line body)).Completes :=
  .of_accept? (.word .whileWord) rfl (.of_accept? .opening rfl (closes.doTest h line body))

/-- After a choice nothing more is needed. -/
theorem afterBranch (arm : Arm) (arms : List Arm) :
    (around.moveTo (.afterBranch arm arms)).Completes := by
  -- an empty statement settles that no `else` follows
  refine .of_accept? .semicolon rfl (closes.finish ?_ .empty)
  exact h

/-- A body that has ended completes what it is the body of. -/
theorem endBody (owner : Owner) (body : List Clause) : (around.endBody owner body).Completes := by
  cases owner with
  | thenBranch arms line condition => exact closes.afterBranch h _ arms
  | doLoop line => exact closes.afterBody h line body
  | function | elseBranch | whileLoop | forLoop | block => exact closes.finish h _

/-- A body is opened and closed. -/
theorem bodyOpen (owner : Owner) : (around.moveTo (.bodyOpen owner)).Completes :=
  .of_accept? .openingBrace rfl (.of_accept? .closingBrace rfl (closes.endBody h owner []))

/-- The step of a heading is left out. -/
theorem forStep (line : Int) (start : Option Clause) (condition : Option Phrase) :
    (around.moveTo (.operand (.forStep line start condition) [])).Completes :=
  .of_accept? .closing rfl (closes.bodyOpen h _)

/-- The test of a heading is left out. -/
theorem forTest (line : Int) (start : Option Clause) :
    (around.moveTo (.operand (.forTest line start) [])).Completes :=
  .of_accept? .semicolon rfl (closes.forStep h line start none)

end Statement

/-! ### Expressions -/

section Expression

variable (closes : Closes outer) {around : Reader} (h : around.outer = outer)
  {layers : List Layer} {phrase last : Phrase}

include closes h

/-- With no bracket open, the token that the purpose asks for ends the expression. -/
theorem ended (settled : settle 0 layers phrase = ([], last)) (purpose : Purpose) :
    (around.moveTo (.operator purpose layers phrase)).Completes := by
  -- a test is followed by a body, which is left empty, and a heading by the rest of it
  have semicolon := accept?_semicolon around settled purpose
  have parenthesis := accept?_rightParenthesis around settled purpose
  cases purpose with
  | statement => exact .of_accept? .semicolon (semicolon _) (closes.finish h _)
  | initializer line name heading =>
    cases heading with
    | none => exact .of_accept? .semicolon (semicolon _) (closes.finish h _)
    | some heading => exact .of_accept? .semicolon (semicolon _) (closes.forTest h heading _)
  | ifTest | whileTest => exact .of_accept? .closing (parenthesis _) (closes.bodyOpen h _)
  | doTest => exact .of_accept? .closing (parenthesis _) (closes.ending h _)
  | forStart line => exact .of_accept? .semicolon (semicolon _) (closes.forTest h line _)
  | forTest line start =>
    exact .of_accept? .semicolon (semicolon _) (closes.forStep h line start _)
  | forStep => exact .of_accept? .closing (parenthesis _) (closes.bodyOpen h _)
  | result => exact .of_accept? .semicolon (semicolon _) (closes.finish h _)

/-- Parentheses close the open brackets from the inside out.  The induction is on the layers that are
left once those inside have been settled. -/
theorem settled (purpose : Purpose) {inner : List Layer} {operand : Phrase}
    (same : settle 0 inner operand = settle 0 layers phrase) :
    (around.moveTo (.operator purpose inner operand)).Completes := by
  induction layers generalizing phrase inner operand with
  | nil => exact closes.ended h same purpose
  | cons layer layers ih =>
    cases layer with
    -- operators are settled without another token
    | unary operator =>
      rw [settle_unary] at same
      exact ih same
    | binary level left operator =>
      rw [settle_binary_of_le _ _ _ (Nat.zero_le _)] at same
      exact ih same
    | assign target sign =>
      rw [settle_zero_assign] at same
      exact ih same
    -- an open bracket takes one, and what it closes is an operand of the layers around
    | group line =>
      have bracket : settle 0 inner operand = (.group line :: layers, phrase) := same
      exact .of_accept? .closing (by simp [accept?, acceptOperator?, bracket])
        (ih (Eq.refl (settle 0 layers (.group line phrase))))
    | argument callee finished =>
      have bracket : settle 0 inner operand = (.argument callee finished :: layers, phrase) := same
      exact .of_accept? .closing (by simp [accept?, acceptOperator?, bracket])
        (ih (Eq.refl (settle 0 layers (.call callee (phrase :: finished).reverse))))

/-- An operand ends the expression that it is in, in the way the expression is for. -/
theorem operator (purpose : Purpose) (layers : List Layer) (phrase : Phrase) :
    (around.moveTo (.operator purpose layers phrase)).Completes :=
  closes.settled h purpose rfl

/-- An operand is named. -/
theorem operand (purpose : Purpose) (layers : List Layer) :
    (around.moveTo (.operand purpose layers)).Completes :=
  .of_accept? .name rfl (closes.operator h purpose layers (.name Leaf.name.token))

end Expression

/-! ### Positions -/

section Position

variable (closes : Closes outer) {around : Reader} (h : around.outer = outer)
include closes h

/-- A heading is opened with its parenthesis. -/
theorem headingOpen (purpose : Purpose) : (around.moveTo (.headingOpen purpose)).Completes :=
  .of_accept? .opening rfl (closes.operand h purpose [])

/-- After a parameter the list is closed. -/
theorem afterParameter (line : Int) (name : Token) (finished : List Token) :
    (around.moveTo (.afterParameter line name finished)).Completes :=
  .of_accept? .closing rfl (closes.bodyOpen h _)

/-- A parameter is named. -/
theorem parameter (line : Int) (name : Token) (finished : List Token) :
    (around.moveTo (.parameter line name finished)).Completes := by
  refine .of_accept? .name ?_ (closes.afterParameter h line name (Leaf.name.token :: finished))
  cases finished <;> rfl

/-- The parameters are opened with their parenthesis. -/
theorem parametersOpen (line : Int) (name : Token) :
    (around.moveTo (.parametersOpen line name)).Completes :=
  .of_accept? .opening rfl (closes.parameter h line name [])

/-- After a name the declaration is ended. -/
theorem afterName (line : Int) (name : Token) (heading : Option Int) :
    (around.moveTo (.afterName line name heading)).Completes := by
  cases heading with
  | none => exact .of_accept? .semicolon rfl (closes.finish h _)
  | some heading => exact .of_accept? .semicolon rfl (closes.forTest h heading _)

/-- Wherever the statement being read stands, it can be ended. -/
theorem moveTo (position : Position) : (around.moveTo position).Completes := by
  cases position with
  | ready =>
    subst h
    exact closes around.finished
  | afterBranch arm arms => exact closes.afterBranch h arm arms
  | alternative arm arms =>
    exact .of_accept? .openingBrace rfl (.of_accept? .closingBrace rfl
      (closes.endBody h (.elseBranch arm arms) []))
  | functionName line => exact .of_accept? .name rfl (closes.parametersOpen h line _)
  | parametersOpen line name => exact closes.parametersOpen h line name
  | parameter line name finished => exact closes.parameter h line name finished
  | afterParameter line name finished => exact closes.afterParameter h line name finished
  | bodyOpen owner => exact closes.bodyOpen h owner
  | variableName line heading => exact .of_accept? .name rfl (closes.afterName h line _ heading)
  | afterName line name heading => exact closes.afterName h line name heading
  | headingOpen purpose => exact closes.headingOpen h purpose
  | afterBody line body => exact closes.afterBody h line body
  | ending clause => exact closes.ending h clause
  | operand purpose layers => exact closes.operand h purpose layers
  | operator purpose layers phrase => exact closes.operator h purpose layers phrase

end Position

end Closes

/-- Braces close the open bodies from the inside out. -/
theorem closes (outer : List (Owner × List Clause)) : Closes outer := by
  induction outer with
  | nil => exact fun finished => ⟨[], _, finished.reverse, .nil _, rfl⟩
  | cons body outer ih =>
    obtain ⟨owner, others⟩ := body
    intro finished
    have ends : Completes (endBody ⟨outer, others, .ready⟩ owner finished.reverse) :=
      ih.endBody rfl owner finished.reverse
    exact .of_accept? .closingBrace rfl ends

/-- Every reader can be completed. -/
theorem completes (reader : Reader) : reader.Completes := by
  have stays : (reader.moveTo reader.position).Completes :=
    (closes reader.outer).moveTo rfl reader.position
  exact stays

end Reader

end Scriptlet.Grammar
