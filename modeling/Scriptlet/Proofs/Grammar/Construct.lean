import Mathlib
import Scriptlet.Proofs.Grammar.Denotation
import Scriptlet.Proofs.Node.All

/-! # Constructs in their places

A derivation is written as a list of pieces, which are tokens and further derivations.  So each
construct in a derivation has a place among the tokens that are derived: it starts after a number of
them and stops after its own.  Each node that the derivation denotes is made by one of its constructs.

Main definitions:

* `Construct`, `Piece`: a derivation of any symbol, and what a derivation is written as.
* `Derivation.pieces`: the pieces of a derivation, from left to right.
* `Derivation.made`: the nodes that a derivation adds to those of its pieces.
* `Occurrence`: a construct in its place in another one.
* `Occurrence.Precedes`: the order of constructs, inner before outer and left before right.

Main statements:

* `Construct.induction`: what passes from the parts of a construct to the construct.
* `Construct.Occurs.exists_tokens`: the tokens of a construct stand in its place.
* `Occurrence.exists_of_mem_nodes`: the nodes of a derivation are made by its constructs. -/

namespace Scriptlet.Grammar

/-- A derivation of any symbol. -/
structure Construct where
  /-- The symbol. -/
  {symbol : Symbol}
  /-- The derivation. -/
  derivation : Derivation symbol

/-- A piece of what is written for a construct. -/
inductive Piece
  | token (token : Token)
  | construct (construct : Construct)

/-- A derivation as a piece. -/
def Piece.of {symbol : Symbol} (derivation : Derivation symbol) : Piece :=
  .construct ⟨derivation⟩

/-- A token of a given class as a piece. -/
def Piece.leaf {terminal : Terminal} (leaf : Leaf terminal) : Piece :=
  .token leaf.token

/-- The tokens of a construct. -/
def Construct.tokens (construct : Construct) : List Token :=
  construct.derivation.tokens

/-- The tokens of a piece. -/
@[simp] def Piece.tokens : Piece → List Token
  | token given => [given]
  | construct given => given.tokens

/-- The tokens of pieces. -/
def tokensOf (pieces : List Piece) : List Token :=
  pieces.flatMap Piece.tokens

open Piece

/-- The pieces of a derivation, from left to right. -/
def Derivation.pieces {symbol : Symbol} : Derivation symbol → List Piece
  | .program statements => [of statements]
  | .noStatement | .noStart | .noTest | .noStep => []
  | .oneMore statements statement => [of statements, of statement]
  | .functionStatement declaration => [of declaration]
  | .variableStatement declaration semicolon => [of declaration, leaf semicolon]
  | .choiceStatement choice => [of choice]
  | .whileStatement loop => [of loop]
  | .doStatement loop => [of loop]
  | .forStatement loop => [of loop]
  | .returnStatement jump => [of jump]
  | .breakStatement jump => [of jump]
  | .continueStatement jump => [of jump]
  | .blockStatement body => [of body]
  | .expressionStatement expression semicolon => [of expression, leaf semicolon]
  | .emptyStatement empty => [of empty]
  | .function keyword name opening closing body =>
    [leaf keyword, leaf name, leaf opening, leaf closing, of body]
  | .functionOf keyword name opening parameters closing body =>
    [leaf keyword, leaf name, leaf opening, of parameters, leaf closing, of body]
  | .oneParameter name => [leaf name]
  | .nextParameter parameters comma name => [of parameters, leaf comma, leaf name]
  | .uninitialized keyword name => [leaf keyword, leaf name]
  | .initialized keyword name sign value => [leaf keyword, leaf name, leaf sign, of value]
  | .ifThen keyword opening condition closing body =>
    [leaf keyword, leaf opening, of condition, leaf closing, of body]
  | .ifElse keyword opening condition closing body otherwise alternative =>
    [leaf keyword, leaf opening, of condition, leaf closing, of body, leaf otherwise,
      of alternative]
  | .elseBody body => [of body]
  | .elseChoice choice => [of choice]
  | .whileLoop keyword opening condition closing body =>
    [leaf keyword, leaf opening, of condition, leaf closing, of body]
  | .doLoop keyword body test opening condition closing semicolon =>
    [leaf keyword, of body, leaf test, leaf opening, of condition, leaf closing, leaf semicolon]
  | .forLoop keyword opening first afterStart condition afterTest step closing body =>
    [leaf keyword, leaf opening, of first, leaf afterStart, of condition, leaf afterTest, of step,
      leaf closing, of body]
  | .variableStart declaration => [of declaration]
  | .expressionStart expression => [of expression]
  | .testOf expression => [of expression]
  | .stepOf expression => [of expression]
  | .returning keyword semicolon => [leaf keyword, leaf semicolon]
  | .returningOf keyword value semicolon => [leaf keyword, of value, leaf semicolon]
  | .breaking keyword semicolon => [leaf keyword, leaf semicolon]
  | .continuing keyword semicolon => [leaf keyword, leaf semicolon]
  | .bare semicolon => [leaf semicolon]
  | .braces opening statements closing => [leaf opening, of statements, leaf closing]
  | .whole assignment => [of assignment]
  | .plain operand => [of operand]
  | .assign target sign value => [of target, leaf sign, of value]
  | .compoundAssign target sign value => [of target, leaf sign, of value]
  | .single _ operand => [of operand]
  | .chain _ left operator right => [of left, leaf operator, of right]
  | .prefixed operator operand => [leaf operator, of operand]
  | .signed operator operand => [leaf operator, of operand]
  | .atom operand => [of operand]
  | .call callee opening closing => [leaf callee, leaf opening, leaf closing]
  | .callOf callee opening arguments closing =>
    [leaf callee, leaf opening, of arguments, leaf closing]
  | .reference name => [leaf name]
  | .integer numeral => [leaf numeral]
  | .float numeral => [leaf numeral]
  | .string literal => [leaf literal]
  | .group opening expression closing => [leaf opening, of expression, leaf closing]
  | .oneArgument expression => [of expression]
  | .nextArgument arguments comma expression => [of arguments, leaf comma, of expression]

/-- The pieces of a construct, from left to right. -/
def Construct.pieces (construct : Construct) : List Piece :=
  construct.derivation.pieces

/-- The tokens that are derived are those of the pieces. -/
theorem Derivation.tokens_eq {symbol : Symbol} (derivation : Derivation symbol) :
    derivation.tokens = tokensOf derivation.pieces := by
  cases derivation <;> simp [tokens, pieces, tokensOf, of, leaf, Construct.tokens]

/-- All constructs among pieces have a property. -/
def Each (motive : Construct → Prop) (pieces : List Piece) : Prop :=
  ∀ part, Piece.construct part ∈ pieces → motive part

section Each

variable {motive : Construct → Prop} {pieces : List Piece}

/-- There is nothing to show without pieces. -/
theorem Each.nil : Each motive [] := nofun

/-- Nor is there for a leaf. -/
theorem Each.leaf {terminal : Terminal} {token : Leaf terminal} (rest : Each motive pieces) :
    Each motive (.leaf token :: pieces) := by
  rintro part (_ | ⟨_, mem⟩)
  exact rest part mem

/-- A piece that is a derivation is shown for itself, and then the rest. -/
theorem Each.of {symbol : Symbol} {derivation : Derivation symbol} (here : motive ⟨derivation⟩)
    (rest : Each motive pieces) : Each motive (.of derivation :: pieces) := by
  rintro part (_ | ⟨_, mem⟩)
  · exact here
  · exact rest part mem

end Each

/-- What holds of a construct as soon as it holds of its parts holds of all constructs. -/
theorem Construct.induction {motive : Construct → Prop}
    (step : ∀ whole : Construct, Each motive whole.pieces → motive whole) (construct : Construct) :
    motive construct := by
  obtain ⟨derivation⟩ := construct
  -- The pieces of a construct are its leaves and its parts, in order.
  induction derivation with
  | noStatement | noStart | noTest | noStep => exact step _ .nil
  | program _ ih | functionStatement _ ih | choiceStatement _ ih | whileStatement _ ih
  | doStatement _ ih | forStatement _ ih | returnStatement _ ih | breakStatement _ ih
  | continueStatement _ ih | blockStatement _ ih | emptyStatement _ ih | elseBody _ ih
  | elseChoice _ ih | variableStart _ ih | expressionStart _ ih | testOf _ ih | stepOf _ ih
  | whole _ ih | plain _ ih | single _ _ ih | atom _ ih | oneArgument _ ih =>
    exact step _ (.of ih .nil)
  | variableStatement _ _ ih | expressionStatement _ _ ih => exact step _ (.of ih (.leaf .nil))
  | oneMore _ _ ih ih' => exact step _ (.of ih (.of ih' .nil))
  | function _ _ _ _ _ ih => exact step _ (.leaf (.leaf (.leaf (.leaf (.of ih .nil)))))
  | functionOf _ _ _ _ _ _ ih ih' =>
    exact step _ (.leaf (.leaf (.leaf (.of ih (.leaf (.of ih' .nil))))))
  | oneParameter | reference | integer | float | string | bare => exact step _ (.leaf .nil)
  | nextParameter _ _ _ ih => exact step _ (.of ih (.leaf (.leaf .nil)))
  | uninitialized | returning | breaking | continuing => exact step _ (.leaf (.leaf .nil))
  | initialized _ _ _ _ ih => exact step _ (.leaf (.leaf (.leaf (.of ih .nil))))
  | ifThen _ _ _ _ _ ih ih' | whileLoop _ _ _ _ _ ih ih' =>
    exact step _ (.leaf (.leaf (.of ih (.leaf (.of ih' .nil)))))
  | ifElse _ _ _ _ _ _ _ ih ih' ih'' =>
    exact step _ (.leaf (.leaf (.of ih (.leaf (.of ih' (.leaf (.of ih'' .nil)))))))
  | doLoop _ _ _ _ _ _ _ ih ih' =>
    exact step _ (.leaf (.of ih (.leaf (.leaf (.of ih' (.leaf (.leaf .nil)))))))
  | forLoop _ _ _ _ _ _ _ _ _ ih ih' ih'' ihBody =>
    exact step _ (.leaf (.leaf (.of ih (.leaf (.of ih' (.leaf (.of ih'' (.leaf
      (.of ihBody .nil)))))))))
  | returningOf _ _ _ ih | braces _ _ _ ih | group _ _ _ ih =>
    exact step _ (.leaf (.of ih (.leaf .nil)))
  | assign _ _ _ ih ih' | compoundAssign _ _ _ ih ih' | chain _ _ _ _ ih ih'
  | nextArgument _ _ _ ih ih' => exact step _ (.of ih (.leaf (.of ih' .nil)))
  | prefixed _ _ ih | signed _ _ ih => exact step _ (.leaf (.of ih .nil))
  | call => exact step _ (.leaf (.leaf (.leaf .nil)))
  | callOf _ _ _ _ ih => exact step _ (.leaf (.leaf (.of ih (.leaf .nil))))

/-! ## Nodes that constructs make -/

/-- The nodes that a symbol denotes. -/
def Symbol.roots : (symbol : Symbol) → symbol.Meaning → List Node
  | start, nodes | statements, nodes | body, nodes | elseBranch, nodes | arguments, nodes => nodes
  | statement, node | empty, node | forStart, node | forTest, node | forStep, node => node.toList
  | functionDeclaration, node | variableDeclaration, node | choice, node | whileLoop, node
  | doLoop, node | forLoop, node | returning, node | breaking, node | continuing, node
  | expression, node | assignment, node | operand _, node | primary, node => [node]
  | parameters, _ => []

/-- All nodes that what a construct denotes consists of. -/
def Construct.nodes (construct : Construct) : List Node :=
  (construct.symbol.roots construct.derivation.meaning).flatMap Node.nodes

/-- The nodes of a piece. -/
@[simp] def Piece.nodes : Piece → List Node
  | token _ => []
  | construct given => given.nodes

/-- The nodes that a derivation adds to those of its pieces. -/
def Derivation.made {symbol : Symbol} : Derivation symbol → List Node
  | .blockStatement body => [.block body.line body.meaning]
  | .function keyword name opening closing body =>
    [(Derivation.function keyword name opening closing body).meaning]
  | .functionOf keyword name opening parameters closing body =>
    [(Derivation.functionOf keyword name opening parameters closing body).meaning]
  | .uninitialized keyword name => [(Derivation.uninitialized keyword name).meaning]
  | .initialized keyword name sign value =>
    [(Derivation.initialized keyword name sign value).meaning]
  | .ifThen keyword opening condition closing body =>
    [(Derivation.ifThen keyword opening condition closing body).meaning]
  | .ifElse keyword opening condition closing body otherwise alternative =>
    [(Derivation.ifElse keyword opening condition closing body otherwise alternative).meaning]
  | .whileLoop keyword opening condition closing body =>
    [(Derivation.whileLoop keyword opening condition closing body).meaning]
  | .doLoop keyword body test opening condition closing semicolon =>
    [(Derivation.doLoop keyword body test opening condition closing semicolon).meaning]
  | .forLoop keyword opening first afterStart condition afterTest step closing body =>
    [(Derivation.forLoop keyword opening first afterStart condition afterTest step closing
      body).meaning]
  | .returning keyword semicolon => [(Derivation.returning keyword semicolon).meaning]
  | .returningOf keyword value semicolon =>
    [(Derivation.returningOf keyword value semicolon).meaning]
  | .breaking keyword semicolon => [(Derivation.breaking keyword semicolon).meaning]
  | .continuing keyword semicolon => [(Derivation.continuing keyword semicolon).meaning]
  | .assign target sign value => [(Derivation.assign target sign value).meaning]
  | .compoundAssign target sign value =>
    [(Derivation.compoundAssign target sign value).meaning,
      .binary target.line (sign.token.lexeme.dropEnd 1).toString
        (.reference target.line (target.name?.getD "")) value.meaning,
      .reference target.line (target.name?.getD "")]
  | .chain level left operator right => [(Derivation.chain level left operator right).meaning]
  | .prefixed operator operand => [(Derivation.prefixed operator operand).meaning]
  | .signed operator operand => [(Derivation.signed operator operand).meaning]
  | .call callee opening closing => [(Derivation.call callee opening closing).meaning]
  | .callOf callee opening arguments closing =>
    [(Derivation.callOf callee opening arguments closing).meaning]
  | .reference name => [(Derivation.reference name).meaning]
  | .integer numeral => [(Derivation.integer numeral).meaning]
  | .float numeral => [(Derivation.float numeral).meaning]
  | .string literal => [(Derivation.string literal).meaning]
  | _ => []

/-- All nodes of a node are itself and those of its children. -/
theorem nodes_subset_of_children {node : Node} {nodes : List Node}
    (inside : node.children.flatMap Node.nodes ⊆ nodes) :
    [node].flatMap Node.nodes ⊆ [node] ++ nodes := by
  rw [List.flatMap_singleton, Node.nodes_eq, List.singleton_append]
  exact List.cons_subset_cons _ inside

/-- What a construct denotes consists of the nodes that it adds and of those of its pieces. -/
theorem Construct.nodes_subset (construct : Construct) :
    construct.nodes ⊆ construct.derivation.made ++ construct.pieces.flatMap Piece.nodes := by
  obtain ⟨derivation⟩ := construct
  cases derivation with
  | noStatement | oneParameter | noStart | noTest | noStep | bare | nextParameter =>
    exact List.nil_subset _
  | uninitialized | returning | breaking | continuing | call | reference | integer | float
  | string => exact nodes_subset_of_children (List.nil_subset _)
  | program | functionStatement | variableStatement | choiceStatement | whileStatement | doStatement
  | forStatement | returnStatement | breakStatement | continueStatement | expressionStatement
  | emptyStatement | elseBody | elseChoice | variableStart | expressionStart | testOf | stepOf | braces
  | whole | plain | single | atom | group | oneArgument | oneMore | nextArgument =>
    show _ ⊆ [] ++ _
    simp [Construct.nodes, Symbol.roots, Derivation.meaning, Construct.pieces,
      Derivation.pieces, Piece.of, Piece.leaf]
  | blockStatement | function | functionOf | initialized | returningOf | ifThen | ifElse | whileLoop
  | doLoop | forLoop | assign | chain | prefixed | signed | callOf =>
    apply nodes_subset_of_children
    simp [Construct.nodes, Symbol.roots, Derivation.meaning, Construct.pieces,
      Derivation.pieces, Piece.of, Piece.leaf, Node.children]
  | compoundAssign target sign value =>
    -- the operator in front of the sign makes a node, and the variable is made once more
    have parts_eq : (Construct.mk (.compoundAssign target sign value)).pieces.flatMap Piece.nodes =
        target.meaning.nodes ++ value.meaning.nodes := by
      simp [Construct.pieces, Derivation.pieces, Piece.of, Piece.leaf, Construct.nodes, Symbol.roots]
    rw [parts_eq]
    show [Node.binary ..].flatMap Node.nodes ⊆ [Node.binary .., _, _] ++ _
    simp only [List.flatMap_cons, List.flatMap_nil, List.append_nil, Node.nodes_eq (.binary ..),
      Node.nodes_eq (.reference ..), Node.children, List.nil_append, List.cons_append]
    refine List.cons_subset.mpr ⟨.head _, List.append_subset.mpr ⟨?_, List.cons_subset.mpr
      ⟨.tail _ (.head _), List.cons_subset.mpr ⟨.tail _ (.tail _ (.head _)), ?_⟩⟩⟩⟩
    · exact fun inner inside => .tail _ (.tail _ (.tail _ (List.mem_append_left _ inside)))
    · exact fun inner inside => .tail _ (.tail _ (.tail _ (List.mem_append_right _ inside)))

/-! ## Places -/

/-- A construct occurs in another one, after a number of its tokens. -/
inductive Construct.Occurs (inner : Construct) : ℕ → Construct → Prop
  | here : Occurs inner 0 inner
  | inside {outer part : Construct} {index start : ℕ}
      (piece_eq : outer.pieces[index]? = some (.construct part)) (occurs : Occurs inner start part) :
      Occurs inner ((tokensOf (outer.pieces.take index)).length + start) outer

/-- A construct in its place in another one. -/
structure Occurrence (whole : Construct) where
  /-- The construct. -/
  construct : Construct
  /-- The number of tokens before it. -/
  start : ℕ
  /-- It occurs there. -/
  occurs : construct.Occurs start whole

section Pieces

variable {pieces : List Piece} {piece : Piece} {index other : ℕ}

/-- The tokens of a piece stand between those of the pieces before and after it. -/
theorem tokensOf_eq (piece_eq : pieces[index]? = some piece) :
    tokensOf pieces =
      tokensOf (pieces.take index) ++ (piece.tokens ++ tokensOf (pieces.drop (index + 1))) := by
  obtain ⟨lt, rfl⟩ := List.getElem?_eq_some_iff.mp piece_eq
  calc tokensOf pieces
    _ = tokensOf (pieces.take index ++ pieces[index] :: pieces.drop (index + 1)) := by
      rw [List.getElem_cons_drop, List.take_append_drop]
    _ = _ := by rw [tokensOf, List.flatMap_append, List.flatMap_cons]; rfl

/-- What is before a later piece is also before the tokens of an earlier piece end. -/
theorem length_tokensOf_take_le (piece_eq : pieces[index]? = some piece) (lt : index < other) :
    (tokensOf (pieces.take index)).length + piece.tokens.length ≤
      (tokensOf (pieces.take other)).length := by
  have piece_eq' : (pieces.take other)[index]? = some piece := by
    rw [List.getElem?_take_of_lt lt, piece_eq]
  rw [tokensOf_eq piece_eq', List.take_take, min_eq_left lt.le]
  simp only [List.length_append]
  omega

end Pieces

section Places

variable {inner whole part : Construct} {index start : ℕ}

/-- So do those of a part among the tokens of the whole. -/
theorem Construct.tokens_eq (piece_eq : whole.pieces[index]? = some (.construct part)) :
    whole.tokens = tokensOf (whole.pieces.take index) ++
      (part.tokens ++ tokensOf (whole.pieces.drop (index + 1))) :=
  whole.derivation.tokens_eq.trans (tokensOf_eq piece_eq)

/-- The tokens of a construct stand in its place. -/
theorem Construct.Occurs.exists_tokens (occurs : inner.Occurs start whole) :
    ∃ before after, whole.tokens = before ++ (inner.tokens ++ after) ∧ before.length = start := by
  induction occurs with
  | here => exact ⟨[], [], (List.append_nil _).symm, rfl⟩
  | @inside outer part index start piece_eq _ ih =>
    obtain ⟨before, after, part_eq, rfl⟩ := ih
    refine ⟨tokensOf (outer.pieces.take index) ++ before,
      after ++ tokensOf (outer.pieces.drop (index + 1)), ?_, List.length_append⟩
    rw [Construct.tokens_eq piece_eq, part_eq]
    simp only [List.append_assoc]

namespace Occurrence

/-- The number of tokens up to the end of a construct. -/
def stop (occurrence : Occurrence whole) : ℕ :=
  occurrence.start + occurrence.construct.tokens.length

/-- A construct comes before another one if it ends where that one starts, or before, or if it is a
part of it. -/
def Precedes (first second : Occurrence whole) : Prop :=
  first.stop ≤ second.start ∨ second.start ≤ first.start ∧ first.stop ≤ second.stop ∧
    first.construct.tokens.length < second.construct.tokens.length

/-- The whole in its place. -/
def all (whole : Construct) : Occurrence whole :=
  ⟨whole, 0, .here⟩

/-- A place in a part as a place in the whole. -/
def within (piece_eq : whole.pieces[index]? = some (.construct part))
    (occurrence : Occurrence part) : Occurrence whole :=
  ⟨occurrence.construct, _, .inside piece_eq occurrence.occurs⟩

/-- A place is that of the whole or a place in a part. -/
theorem eq_all_or_within (occurrence : Occurrence whole) : occurrence = all whole ∨
    ∃ (index : ℕ) (part : Construct) (piece_eq : whole.pieces[index]? = some (.construct part))
      (inner : Occurrence part), occurrence = inner.within piece_eq := by
  obtain ⟨construct, start, occurs⟩ := occurrence
  cases occurs with
  | here => exact .inl rfl
  | @inside _ part index start piece_eq occurs =>
    exact .inr ⟨index, part, piece_eq, ⟨construct, start, occurs⟩, rfl⟩

/-- No construct stops after the whole. -/
theorem stop_le (occurrence : Occurrence whole) : occurrence.stop ≤ whole.tokens.length := by
  obtain ⟨before, after, tokens_eq, length_eq⟩ := occurrence.occurs.exists_tokens
  rw [stop, tokens_eq, ← length_eq]
  simp only [List.length_append]
  omega

/-- No two constructs come one before the other. -/
theorem Precedes.asymm {first second : Occurrence whole} (precedes : first.Precedes second)
    (present : first.construct.tokens ≠ []) (present' : second.construct.tokens ≠ []) :
    ¬second.Precedes first := by
  have := List.length_pos_iff.mpr present
  have := List.length_pos_iff.mpr present'
  unfold Precedes stop at *
  omega

/-- Which of two constructs comes first does not depend on the whole. -/
theorem Precedes.within {first second : Occurrence part} (precedes : first.Precedes second)
    (piece_eq : whole.pieces[index]? = some (.construct part)) :
    (first.within piece_eq).Precedes (second.within piece_eq) := by
  unfold Precedes stop Occurrence.within at *
  dsimp only
  omega

/-- A node that a construct denotes is made by a construct that occurs in it. -/
theorem exists_of_mem_nodes {node : Node} (mem : node ∈ whole.nodes) :
    ∃ occurrence : Occurrence whole, node ∈ occurrence.construct.derivation.made := by
  induction whole using Construct.induction with | step whole ih =>
  obtain made | inside := List.mem_append.mp (whole.nodes_subset mem)
  · exact ⟨all whole, made⟩
  · obtain ⟨piece, piece_mem, inside⟩ := List.mem_flatMap.mp inside
    cases piece with
    | token given => cases inside
    | construct part =>
      obtain ⟨occurrence, made⟩ := ih part piece_mem inside
      obtain ⟨index, piece_eq⟩ := List.mem_iff_getElem?.mp piece_mem
      exact ⟨occurrence.within piece_eq, made⟩

end Occurrence

end Places

end Scriptlet.Grammar
