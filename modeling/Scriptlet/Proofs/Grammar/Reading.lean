import Scriptlet.Proofs.Grammar.Derivation

/-! # Reading

How a reader takes several tokens in, and when it closes the layers around an operand.  A layer that
waits for an operand of a certain rank is closed by an operator of a lower one, and by no other.

Main definitions:

* `Reader.Feeds`: a reader takes tokens in and gets to another one.
* `Rung.rank`: how tightly an operand binds.
* `floor`: the rank that an operand inside layers must have.

Main results:

* `settle_of_floor_le`: layers whose floor is not above a rank stay open at that rank. -/

namespace Scriptlet.Grammar

/-! ## Taking tokens in -/

namespace Reader

variable {reader middle after around : Reader}

/-- A reader takes tokens in one after the other and gets to another one. -/
def Feeds (reader : Reader) (tokens : List Token) (after : Reader) : Prop :=
  tokens.foldlM Reader.feed reader = .ok after

/-- Taking nothing in changes nothing. -/
theorem Feeds.nil (reader : Reader) : reader.Feeds [] reader := rfl

/-- Tokens are taken in after others. -/
theorem Feeds.append {tokens more : List Token} (first : reader.Feeds tokens middle)
    (next : middle.Feeds more after) : reader.Feeds (tokens ++ more) after := by
  unfold Feeds at *
  rw [List.foldlM_append, first]
  exact next

/-- A token that is accepted is taken in, and then those after it. -/
theorem Feeds.cons {terminal : Terminal} {tokens : List Token} (leaf : Leaf terminal)
    (accepts : reader.accept? terminal leaf.token = some middle)
    (next : middle.Feeds tokens after) : reader.Feeds (leaf.token :: tokens) after := by
  have step : reader.feed leaf.token = .ok middle := by
    simp only [feed, leaf.ofToken?_eq, accepts]
  unfold Feeds at *
  rw [List.foldlM_cons, step]
  exact next

/-- A token that is accepted is taken in. -/
theorem Feeds.single {terminal : Terminal} (leaf : Leaf terminal)
    (accepts : reader.accept? terminal leaf.token = some after) :
    reader.Feeds [leaf.token] after :=
  .cons leaf accepts (.nil after)

/-- Of tokens that are taken in, the first is accepted. -/
theorem Feeds.of_cons {token : Token} {tokens : List Token}
    (feeds : reader.Feeds (token :: tokens) after) :
    ∃ terminal, ∃ leaf : Leaf terminal, ∃ middle, leaf.token = token ∧
      reader.accept? terminal leaf.token = some middle ∧ middle.Feeds tokens after := by
  rw [Feeds, List.foldlM_cons] at feeds
  -- a token without a class and a token that is refused both end the reading with a failure
  cases terminal_eq : Terminal.ofToken? token with
  | none =>
    simp only [feed, terminal_eq] at feeds
    cases feeds
  | some terminal =>
    cases accepts : reader.accept? terminal token with
    | none =>
      simp only [feed, terminal_eq, accepts] at feeds
      cases feeds
    | some middle =>
      simp only [feed, terminal_eq, accepts] at feeds
      exact ⟨terminal, ⟨token, terminal_eq⟩, middle, rfl, accepts, feeds⟩

/-- A reader gets to one reader only. -/
theorem Feeds.eq {tokens : List Token} (first : reader.Feeds tokens middle)
    (second : reader.Feeds tokens after) : middle = after :=
  Except.ok.inj (Eq.trans (Eq.symm first) second)

/-- A reader that moves twice is where it moved to last. -/
@[simp] theorem moveTo_moveTo (reader : Reader) (position other : Position) :
    (reader.moveTo position).moveTo other = reader.moveTo other := by
  rw [moveTo, moveTo, moveTo]

/-- A reader that has moved is where it moved to. -/
@[simp] theorem position_moveTo (reader : Reader) (position : Position) :
    (reader.moveTo position).position = position := by
  rw [moveTo]

end Reader

/-! ## Ranks -/

/-- How tightly an operand binds; one with operators in front at most binds tighter than any chain. -/
def Rung.rank : Rung → Nat
  | .level operators => operators.rank
  | .unary => 11

/-- Operators between operands bind tighter than assignments. -/
theorem Level.rank_pos (level : Level) : 0 < level.rank := by
  cases level <;> decide

/-- They bind looser than operators in front. -/
theorem Level.rank_le (level : Level) : level.rank ≤ 10 := by
  cases level <;> decide

/-- Each level binds tighter by one. -/
@[simp] theorem Level.rank_next (level : Level) : level.next.rank = level.rank + 1 := by
  cases level <;> rfl

/-- No operand is an assignment. -/
theorem Rung.rank_pos (rung : Rung) : 0 < rung.rank := by
  cases rung with
  | level level => exact level.rank_pos
  | unary => decide

/-- Nothing binds tighter than an operator in front. -/
theorem Rung.rank_le (rung : Rung) : rung.rank ≤ 11 := by
  cases rung with
  | level level => exact Nat.le_trans level.rank_le (by decide)
  | unary => exact Nat.le_refl 11

/-- The rank that an operand inside layers must have, so that none of them has to be closed first. -/
def floor : List Layer → Nat
  | .unary _ :: _ => 11
  | .binary level _ _ :: _ => level.rank + 1
  | _ => 0

section Floor

variable (layers : List Layer)

/-- An operator in front waits for the tightest operand. -/
@[simp] theorem floor_unary (operator : Token) : floor (.unary operator :: layers) = 11 := rfl

/-- An operator between operands waits for a tighter one. -/
@[simp] theorem floor_binary (level : Level) (left : Phrase) (operator : Token) :
    floor (.binary level left operator :: layers) = level.rank + 1 := rfl

/-- No layer waits for more than the tightest operand. -/
theorem floor_le : floor layers ≤ 11 := by
  match layers with
  | [] | .assign _ _ :: _ | .group _ :: _ | .argument _ _ :: _ => exact Nat.zero_le 11
  | .unary _ :: _ => exact Nat.le_refl 11
  | .binary level _ _ :: _ => exact Nat.succ_le_succ level.rank_le

/-- No layer waits for an operand that is just above an assignment. -/
theorem floor_eq_zero (h : floor layers ≤ 1) : floor layers = 0 := by
  match layers with
  | [] | .assign _ _ :: _ | .group _ :: _ | .argument _ _ :: _ => rfl
  | .unary _ :: _ =>
    rw [floor_unary] at h
    omega
  | .binary level _ _ :: _ =>
    have := level.rank_pos
    rw [floor_binary] at h
    omega

end Floor

section Settle

variable (rank : Nat) (layers : List Layer) (operand : Phrase)

/-- An operator in front is closed by every operator after its operand. -/
@[simp] theorem settle_unary (operator : Token) :
    settle rank (.unary operator :: layers) operand = settle rank layers (.unary operator operand) :=
  rfl

/-- An operator that binds tighter, or as tight, is closed. -/
theorem settle_binary_of_le {level : Level} (h : rank ≤ level.rank) (left : Phrase)
    (operator : Token) :
    settle rank (.binary level left operator :: layers) operand
      = settle rank layers (.binary left operator operand) :=
  if_pos h

/-- An operator that binds looser stays open. -/
theorem settle_binary_of_lt {level : Level} (h : level.rank < rank) (left : Phrase)
    (operator : Token) :
    settle rank (.binary level left operator :: layers) operand
      = (.binary level left operator :: layers, operand) :=
  if_neg (Nat.not_le_of_lt h)

/-- An assignment stays open before an operator. -/
theorem settle_assign_of_pos (h : 0 < rank) (target : Phrase) (sign : Token) :
    settle rank (.assign target sign :: layers) operand
      = (.assign target sign :: layers, operand) :=
  if_neg (Nat.ne_of_gt h)

/-- An assignment is closed at the end of the expression. -/
@[simp] theorem settle_zero_assign (target : Phrase) (sign : Token) :
    settle 0 (.assign target sign :: layers) operand
      = settle 0 layers (.assign target sign operand) := rfl

/-- Layers whose floor is not above the rank of an operator stay open when the operator comes. -/
theorem settle_of_floor_le (pos : 0 < rank) (le : rank ≤ 10) (h : floor layers ≤ rank) :
    settle rank layers operand = (layers, operand) := by
  match layers with
  | [] => rfl
  | .unary operator :: rest =>
    rw [floor_unary] at h
    omega
  | .binary level left operator :: rest =>
    exact settle_binary_of_lt rank rest operand h left operator
  | .assign target sign :: rest => exact settle_assign_of_pos rank rest operand pos target sign
  | .group line :: rest => rfl
  | .argument callee finished :: rest => rfl

end Settle

end Scriptlet.Grammar
