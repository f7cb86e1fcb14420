import Scriptlet.Proofs.Grammar.Reading

/-! # Reading expressions

What reading an expression does to a reader: it comes to stand after the last operand, and closing
the layers above the rank of the expression puts the expression in the place of that operand.

Main definitions:

* `ReadsAt`: what reading an expression of a rank does.
* `ReadsArguments`: what reading the arguments of a call does.

Main results:

* `ReadsAt.binary`: chains of operators are read as they associate.
* `ReadsAt.ends`: what ends an expression depends on what it is for. -/

namespace Scriptlet.Grammar

attribute [local simp] Reader.accept? Reader.acceptOperator?

/-- Whether an expression can start with a token of the class. -/
def Terminal.startsOperand : Terminal → Bool
  | identifier | integer | float | string | leftParenthesis | unary | binary .additive => true
  | _ => false

namespace Reader

variable {reader around : Reader} {purpose : Purpose} {layers : List Layer}

/-- A reader takes the start of an expression in as one does that stands before an operand. -/
def Expects (reader around : Reader) (purpose : Purpose) (layers : List Layer) : Prop :=
  ∀ terminal token, terminal.startsOperand →
    reader.accept? terminal token = around.acceptOperand? purpose layers terminal token

/-- A reader that has moved to an operand expects it. -/
theorem expects_moveTo (around : Reader) (purpose : Purpose) (layers : List Layer) :
    (around.moveTo (.operand purpose layers)).Expects around purpose layers := by
  intro terminal token starts
  match terminal, starts with
  | .identifier, _ | .integer, _ | .float, _ | .string, _ | .leftParenthesis, _ | .unary, _
  | .binary .additive, _ => rfl

end Reader

/-- Reading an expression of a rank.  The reader comes to stand after an operand, and once the
layers above the rank are closed around that operand, the expression is in the place of the operand. -/
def ReadsAt (rank : Nat) (phrase : Phrase) (tokens : List Token) : Prop :=
  ∀ ⦃reader around purpose layers⦄, Reader.Expects reader around purpose layers →
    floor layers ≤ rank →
    ∃ inner last, reader.Feeds tokens (around.moveTo (.operator purpose inner last)) ∧
      ∀ loosest ≤ rank, settle loosest inner last = settle loosest layers phrase

namespace ReadsAt

variable {rank : Nat} {phrase left right target value : Phrase} {tokens more : List Token}

/-- What is read at a rank is read at every looser one. -/
theorem mono {looser : Nat} (reads : ReadsAt rank phrase tokens) (le : looser ≤ rank) :
    ReadsAt looser phrase tokens := by
  intro reader around purpose layers expects floor_le
  obtain ⟨inner, last, feeds, settled⟩ := reads expects (Nat.le_trans floor_le le)
  exact ⟨inner, last, feeds, fun loosest h => settled loosest (Nat.le_trans h le)⟩

/-- An operand that is a single token. -/
theorem token {terminal : Terminal} (leaf : Leaf terminal) (starts : terminal.startsOperand)
    (accepts : ∀ around purpose layers,
      Reader.acceptOperand? around purpose layers terminal leaf.token
        = some (around.moveTo (.operator purpose layers phrase))) :
    ReadsAt rank phrase [leaf.token] := by
  intro reader around purpose layers expects _
  refine ⟨layers, phrase, ?_, fun _ _ => rfl⟩
  exact .single leaf ((expects terminal leaf.token starts).trans (accepts around purpose layers))

/-- An operator before an operand. -/
theorem unary {terminal : Terminal} (leaf : Leaf terminal) (starts : terminal.startsOperand)
    (accepts : ∀ around purpose layers,
      Reader.acceptOperand? around purpose layers terminal leaf.token
        = some (around.moveTo (.operand purpose (.unary leaf.token :: layers))))
    (reads : ReadsAt 11 phrase tokens) :
    ReadsAt 11 (.unary leaf.token phrase) (leaf.token :: tokens) := by
  intro reader around purpose layers expects _
  obtain ⟨inner, last, feeds, settled⟩ :=
    reads (Reader.expects_moveTo around purpose (.unary leaf.token :: layers)) (Nat.le_refl 11)
  refine ⟨inner, last, ?_, fun loosest h => ?_⟩
  · exact .cons leaf ((expects terminal leaf.token starts).trans (accepts around purpose layers))
      feeds
  · rw [settled loosest h, settle_unary]

/-- An operator between operands.  The layers around stay open, since none of them waits for an
operand above the operator's rank. -/
theorem binary {level : Level} (operator : Leaf (.binary level))
    (reads : ReadsAt level.rank left tokens) (reads' : ReadsAt (level.rank + 1) right more) :
    ReadsAt level.rank (.binary left operator.token right)
      (tokens ++ operator.token :: more) := by
  intro reader around purpose layers expects floor_le
  obtain ⟨inner, last, feeds, settled⟩ := reads expects floor_le
  -- the operator closes the left operand and nothing else
  have settledLeft : settle level.rank inner last = (layers, left) := by
    rw [settled level.rank (Nat.le_refl _)]
    exact settle_of_floor_le _ _ _ level.rank_pos level.rank_le floor_le
  have accepts : (around.moveTo (.operator purpose inner last)).accept? (.binary level)
      operator.token
        = some (around.moveTo (.operand purpose (.binary level left operator.token :: layers))) := by
    simp [settledLeft]
  -- the right operand is tighter by one, so the next operator of the level closes this one first
  obtain ⟨inner', last', feeds', settled'⟩ :=
    reads' (Reader.expects_moveTo around purpose (.binary level left operator.token :: layers))
      (Nat.le_refl _)
  refine ⟨inner', last', feeds.append (.cons operator accepts feeds'), fun loosest h => ?_⟩
  rw [settled' loosest (Nat.le_succ_of_le h), settle_binary_of_le _ _ _ h]

/-- An assignment with a sign of either class. -/
theorem assign {terminal : Terminal} (sign : Leaf terminal)
    (isSign : terminal = .assign ∨ terminal = .compoundAssign)
    (reads : ReadsAt 1 target tokens) (reads' : ReadsAt 0 value more) :
    ReadsAt 0 (.assign target sign.token value) (tokens ++ sign.token :: more) := by
  intro reader around purpose layers expects floor_le
  obtain ⟨inner, last, feeds, settled⟩ := reads expects (Nat.le_succ_of_le floor_le)
  -- rank one is above every assignment, so an assignment to the left stays open: it is closed last
  have settledTarget : settle 1 inner last = (layers, target) := by
    rw [settled 1 (Nat.le_refl _)]
    exact settle_of_floor_le _ _ _ (by decide) (by decide) (Nat.le_succ_of_le floor_le)
  have accepts : (around.moveTo (.operator purpose inner last)).accept? terminal sign.token
      = some (around.moveTo (.operand purpose (.assign target sign.token :: layers))) := by
    rcases isSign with rfl | rfl <;> simp [settledTarget]
  obtain ⟨inner', last', feeds', settled'⟩ :=
    reads' (Reader.expects_moveTo around purpose (.assign target sign.token :: layers))
      (Nat.le_refl _)
  refine ⟨inner', last', feeds.append (.cons sign accepts feeds'), fun loosest h => ?_⟩
  obtain rfl := Nat.le_zero.1 h
  rw [settled' 0 h, settle_zero_assign]

/-- An expression whose layers are all inside a bracket, or inside none, is in its place when the
bracket or the expression ends. -/
theorem settled_zero (reads : ReadsAt 0 phrase tokens) {reader around : Reader}
    {purpose : Purpose} {layers : List Layer} (expects : reader.Expects around purpose layers)
    (closed : settle 0 layers phrase = (layers, phrase)) (floor_le : floor layers ≤ 0) :
    ∃ inner last, reader.Feeds tokens (around.moveTo (.operator purpose inner last)) ∧
      settle 0 inner last = (layers, phrase) := by
  obtain ⟨inner, last, feeds, settled⟩ := reads expects floor_le
  exact ⟨inner, last, feeds, (settled 0 (Nat.le_refl 0)).trans closed⟩

/-- An expression in parentheses. -/
theorem group (opening : Leaf .leftParenthesis) (reads : ReadsAt 0 phrase tokens)
    (closing : Leaf .rightParenthesis) :
    ReadsAt rank (.group opening.token.line phrase)
      (opening.token :: (tokens ++ [closing.token])) := by
  intro reader around purpose layers expects _
  obtain ⟨inner, last, feeds, settled⟩ := reads.settled_zero
    (Reader.expects_moveTo around purpose (.group opening.token.line :: layers)) rfl
    (Nat.le_refl 0)
  refine ⟨layers, .group opening.token.line phrase, ?_, fun _ _ => rfl⟩
  refine .cons opening (expects .leftParenthesis opening.token rfl)
    (feeds.append (.single closing ?_))
  simp [settled]

end ReadsAt

/-- Reading the arguments of a call.  The reader comes to stand after an operand, and once all
layers up to the call are closed around it, the last argument is in its place. -/
def ReadsArguments (phrases : List Phrase) (tokens : List Token) : Prop :=
  ∀ (around : Reader) purpose callee layers, ∃ inner operand last finished,
    (around.moveTo (.operand purpose (.argument callee [] :: layers))).Feeds tokens
      (around.moveTo (.operator purpose inner operand)) ∧
      settle 0 inner operand = (.argument callee finished :: layers, last) ∧
      phrases = (last :: finished).reverse

namespace ReadsArguments

variable {phrase : Phrase} {phrases : List Phrase} {tokens more : List Token}

/-- One argument is read. -/
theorem one (reads : ReadsAt 0 phrase tokens) : ReadsArguments [phrase] tokens := by
  intro around purpose callee layers
  obtain ⟨inner, operand, feeds, settled⟩ := reads.settled_zero
    (Reader.expects_moveTo around purpose (.argument callee [] :: layers)) rfl (Nat.le_refl 0)
  exact ⟨inner, operand, phrase, [], feeds, settled, rfl⟩

/-- A comma and a further argument are read after others. -/
theorem next (reads : ReadsArguments phrases tokens) (comma : Leaf .comma)
    (reads' : ReadsAt 0 phrase more) :
    ReadsArguments (phrases ++ [phrase]) (tokens ++ comma.token :: more) := by
  intro around purpose callee layers
  obtain ⟨inner, operand, last, finished, feeds, settled, rfl⟩ :=
    reads around purpose callee layers
  have accepts : (around.moveTo (.operator purpose inner operand)).accept? .comma comma.token
      = some (around.moveTo
          (.operand purpose (.argument callee (last :: finished) :: layers))) := by
    simp [settled]
  obtain ⟨inner', operand', feeds', settled'⟩ := reads'.settled_zero
    (Reader.expects_moveTo around purpose (.argument callee (last :: finished) :: layers)) rfl
    (Nat.le_refl 0)
  refine ⟨inner', operand', phrase, last :: finished, ?_, settled', by simp⟩
  exact feeds.append (.cons comma accepts feeds')

end ReadsArguments

namespace ReadsAt

variable {rank : Nat} {phrases : List Phrase} {tokens : List Token}

/-- A call without arguments. -/
theorem call (callee : Leaf .identifier) (opening : Leaf .leftParenthesis)
    (closing : Leaf .rightParenthesis) :
    ReadsAt rank (.call callee.token []) [callee.token, opening.token, closing.token] := by
  intro reader around purpose layers expects _
  refine ⟨layers, .call callee.token [], ?_, fun _ _ => rfl⟩
  exact .cons callee (expects .identifier callee.token rfl) (.cons opening rfl (.single closing rfl))

/-- A call with arguments. -/
theorem callOf (callee : Leaf .identifier) (opening : Leaf .leftParenthesis)
    (reads : ReadsArguments phrases tokens) (closing : Leaf .rightParenthesis) :
    ReadsAt rank (.call callee.token phrases)
      (callee.token :: opening.token :: (tokens ++ [closing.token])) := by
  intro reader around purpose layers expects _
  obtain ⟨inner, operand, last, finished, feeds, settled, rfl⟩ :=
    reads around purpose callee.token layers
  refine ⟨layers, .call callee.token (last :: finished).reverse, ?_, fun _ _ => rfl⟩
  refine .cons callee (expects .identifier callee.token rfl)
    (.cons opening rfl (feeds.append (.single closing ?_)))
  simp [settled]

/-- What ends an expression that no bracket is open in depends on what the expression is for. -/
theorem ends {phrase : Phrase} (reads : ReadsAt 0 phrase tokens) {reader around : Reader}
    {purpose : Purpose} (expects : reader.Expects around purpose []) :
    ∃ middle, reader.Feeds tokens middle ∧
      (∀ token, middle.accept? .semicolon token = around.endBySemicolon? purpose (some phrase)) ∧
      ∀ token, middle.accept? .rightParenthesis token
        = around.endByParenthesis? purpose (some phrase) := by
  obtain ⟨inner, last, feeds, settled⟩ := reads.settled_zero expects rfl (Nat.le_refl 0)
  refine ⟨_, feeds, fun token => ?_, fun token => ?_⟩
  · simp only [Reader.accept?, Reader.acceptOperator?, Reader.position_moveTo, settled]
    cases purpose <;> rfl
  · simp only [Reader.accept?, Reader.acceptOperator?, Reader.position_moveTo, settled]
    cases purpose <;> rfl

end ReadsAt

end Scriptlet.Grammar
