import Mathlib
import Scriptlet.Proofs.Grammar.Construct
import Scriptlet.Proofs.Grammar.Line

/-! # The first fault

Tokens that the grammar derives are refused exactly if an assignment to something else than a name or
a function that repeats a parameter occurs among them.  Reported is the first such construct, where
inner constructs come before outer ones and left ones before right ones, on the line of its first
token.

Main definitions:

* `Derivation.offence?`: why a construct has no meaning.
* `Node.IsRegular`: a node is no assignment to something else than a name, and repeats no parameter.

Main statements:

* `Derivation.faults_eq`: the faults of a derivation are those of its pieces and then its own.
* `exists_first_offence`: the first of the faults is that of the first construct in order.
* `ofTokens_first_offence`: what is refused, and what is reported. -/

namespace Scriptlet.Grammar

/-- Why a construct has no meaning, whatever its parts are: the target of an assignment is no name, in
parentheses or without, or a function repeats a parameter. -/
def Derivation.offence? {symbol : Symbol} : Derivation symbol → Option Cause
  | .assign target _ _ | .compoundAssign target _ _ =>
    if target.name?.isSome then none else some .unassignable
  | .functionOf _ name _ parameters _ _ =>
    if parameters.meaning.Nodup then none else some (.repeatedParameter name.token.lexeme)
  | _ => none

/-- A construct has no meaning, whatever its parts are. -/
def Construct.Offends (construct : Construct) : Prop :=
  construct.derivation.offence?.isSome = true

/-! ## Faults of pieces -/

/-- The faults of a piece. -/
@[simp] def Piece.faults : Piece → List Error
  | token _ => []
  | construct given => given.derivation.faults

namespace Derivation

/-- Parameters have no faults; it is their function that repeats one. -/
theorem faults_parameters (parameters : Derivation .parameters) : parameters.faults = [] := by
  cases parameters <;> rfl

/-- An assignment starts where its target does. -/
theorem line_assign {rung : Rung} (target : Derivation (.operand rung)) (more : List Token) :
    ((target.tokens ++ more).head?.map (·.line)).getD 0 = target.line := by
  rw [List.head?_append_of_ne_nil _ target.tokens_ne_nil_of_operand]
  rfl

/-- The error for a construct, if it has no meaning. -/
def ownFaults {symbol : Symbol} (derivation : Derivation symbol) : List Error :=
  (derivation.offence?.map fun cause => ⟨cause, derivation.line⟩).toList

/-- A target that is no name is a fault of the assignment itself. -/
theorem ownFaults_target {rung : Rung} (target : Derivation (.operand rung)) :
    ((if target.name?.isSome then none else some Cause.unassignable).map fun cause =>
      (⟨cause, target.line⟩ : Error)).toList = targetFaults target := by
  rw [targetFaults]
  split_ifs <;> rfl

/-- An assignment has only this fault of its own. -/
theorem ownFaults_assign (target : Derivation (.operand (.level .disjunction)))
    (sign : Leaf .assign) (value : Derivation .assignment) :
    (assign target sign value).ownFaults = targetFaults target := by
  rw [← ownFaults_target, ← line_assign target (sign.token :: value.tokens)]
  rfl

/-- So has one whose sign has an operator. -/
theorem ownFaults_compoundAssign (target : Derivation (.operand (.level .disjunction)))
    (sign : Leaf .compoundAssign) (value : Derivation .assignment) :
    (compoundAssign target sign value).ownFaults = targetFaults target := by
  rw [← ownFaults_target, ← line_assign target (sign.token :: value.tokens)]
  rfl

/-- A function has only repeated parameters of its own. -/
theorem ownFaults_functionOf (keyword : Leaf (.keyword .function)) (name : Leaf .identifier)
    (opening : Leaf .leftParenthesis) (parameters : Derivation .parameters)
    (closing : Leaf .rightParenthesis) (body : Derivation .body) :
    (functionOf keyword name opening parameters closing body).ownFaults =
      parameterFaults keyword.token.line name.token.lexeme parameters.meaning := by
  rw [ownFaults, offence?, parameterFaults]
  split_ifs <;> rfl

/-- The faults of a derivation are those of its pieces and then its own. -/
theorem faults_eq {symbol : Symbol} (derivation : Derivation symbol) :
    derivation.faults = derivation.pieces.flatMap Piece.faults ++ derivation.ownFaults := by
  cases derivation with
  | assign =>
    rw [ownFaults_assign]
    simp [faults, pieces, Piece.of, Piece.leaf]
  | compoundAssign =>
    rw [ownFaults_compoundAssign]
    simp [faults, pieces, Piece.of, Piece.leaf]
  | functionOf =>
    rw [ownFaults_functionOf]
    simp [faults, pieces, Piece.of, Piece.leaf, faults_parameters]
  | _ => simp [faults, pieces, ownFaults, offence?, Piece.of, Piece.leaf, faults_parameters]

end Derivation

/-! ## The first offence -/

section Pieces

variable {pieces : List Piece} {part : Construct} {token : Token} {fault : Error}
  {rest : List Error}

/-- A part is shorter than a whole that has a token beside it. -/
theorem length_lt_of_token (mem : Piece.construct part ∈ pieces) (here : Piece.token token ∈ pieces) :
    part.tokens.length < (tokensOf pieces).length := by
  obtain ⟨before, after, rfl⟩ := List.append_of_mem mem
  have inside : Piece.token token ∈ before ++ after := by
    obtain earlier | ⟨⟨⟩⟩ | later := (List.mem_append.mp here).imp_right List.mem_cons.mp
    · exact List.mem_append_left _ earlier
    · exact List.mem_append_right _ later
  have present : 0 < (tokensOf (before ++ after)).length :=
    List.length_pos_of_mem (List.mem_flatMap.mpr ⟨_, inside, List.mem_singleton_self token⟩)
  simp only [tokensOf, List.flatMap_append, List.flatMap_cons, List.length_append, Piece.tokens]
    at present ⊢
  omega

/-- The first fault of pieces is that of the first piece that has one. -/
theorem exists_piece_of_faults (faults_eq : pieces.flatMap Piece.faults = fault :: rest) :
    ∃ (index : ℕ) (piece : Piece) (more : List Error), pieces[index]? = some piece ∧
      piece.faults = fault :: more ∧
      ∀ other < index, ∀ before, pieces[other]? = some before → before.faults = [] := by
  induction pieces with
  | nil => cases faults_eq
  | cons piece pieces ih =>
    rw [List.flatMap_cons] at faults_eq
    cases here : piece.faults with
    | cons first more =>
      rw [here] at faults_eq
      obtain ⟨rfl, -⟩ := List.cons.inj faults_eq
      exact ⟨0, piece, more, rfl, here, nofun⟩
    | nil =>
      rw [here] at faults_eq
      obtain ⟨index, later, more, piece_eq, later_eq, none⟩ := ih faults_eq
      refine ⟨index + 1, later, more, piece_eq, later_eq, ?_⟩
      rintro (_ | other) lt before before_eq
      · obtain rfl := Option.some.inj before_eq
        exact here
      · exact none other (by omega) before before_eq

end Pieces

variable {whole part : Construct}

/-- A construct without meaning has a token of its own. -/
theorem Construct.Offends.exists_token (offends : whole.Offends) :
    ∃ token, Piece.token token ∈ whole.pieces := by
  obtain ⟨derivation⟩ := whole
  cases derivation with
  | assign target sign | compoundAssign target sign => exact ⟨sign.token, .tail _ (.head _)⟩
  | functionOf keyword => exact ⟨keyword.token, .head _⟩
  | _ => cases offends

/-- A construct without meaning has a token. -/
theorem Construct.Offends.tokens_ne_nil (offends : whole.Offends) : whole.tokens ≠ [] := by
  obtain ⟨token, mem⟩ := offends.exists_token
  rw [Construct.tokens, Derivation.tokens_eq]
  exact List.ne_nil_of_mem (List.mem_flatMap.mpr ⟨_, mem, List.mem_singleton_self token⟩)

/-- A construct without meaning has more tokens than its parts. -/
theorem Construct.Offends.length_lt (offends : whole.Offends)
    (mem : Piece.construct part ∈ whole.pieces) : part.tokens.length < whole.tokens.length := by
  obtain ⟨token, here⟩ := offends.exists_token
  have shorter := length_lt_of_token mem here
  rwa [← show whole.tokens = tokensOf whole.pieces from whole.derivation.tokens_eq] at shorter

/-- A construct has the faults of its pieces, then its own. -/
theorem Construct.faults_eq (whole : Construct) : whole.derivation.faults =
    whole.pieces.flatMap Piece.faults ++ whole.derivation.ownFaults :=
  whole.derivation.faults_eq

/-- A construct has a fault of its own if and only if it has no meaning. -/
theorem ownFaults_eq_nil_iff : whole.derivation.ownFaults = [] ↔ ¬whole.Offends := by
  rw [Derivation.ownFaults, Construct.Offends]
  cases whole.derivation.offence? <;> simp

/-- A derivation has no faults exactly if no construct in it is without meaning. -/
theorem faults_eq_nil_iff (whole : Construct) : whole.derivation.faults = [] ↔
    ∀ occurrence : Occurrence whole, ¬occurrence.construct.Offends := by
  induction whole using Construct.induction with | step whole ih =>
  rw [Construct.faults_eq, List.append_eq_nil_iff, List.flatMap_eq_nil_iff, ownFaults_eq_nil_iff]
  constructor
  · rintro ⟨parts, own⟩ occurrence
    obtain rfl | ⟨index, part, piece_eq, inner, rfl⟩ := occurrence.eq_all_or_within
    · exact own
    · have mem := List.mem_of_getElem? piece_eq
      exact (ih part mem).mp (parts _ mem) inner
  · intro sound
    refine ⟨?_, sound (.all whole)⟩
    rintro (token | part) mem
    · rfl
    · obtain ⟨index, piece_eq⟩ := List.mem_iff_getElem?.mp mem
      exact (ih part mem).mpr fun occurrence => sound (occurrence.within piece_eq)

/-- A construct without meaning that comes before all others. -/
def Occurrence.IsFirst (first : Occurrence whole) : Prop :=
  first.construct.Offends ∧
    ∀ other : Occurrence whole, other.construct.Offends → other = first ∨ first.Precedes other

/-- Only one construct without meaning comes before all others. -/
theorem Occurrence.IsFirst.unique {first other : Occurrence whole} (isFirst : first.IsFirst)
    (isFirst' : other.IsFirst) : first = other := by
  obtain same | precedes := isFirst.2 other isFirst'.1
  · exact same.symm
  · obtain same | precedes' := isFirst'.2 first isFirst.1
    · exact same
    · exact absurd precedes' (precedes.asymm isFirst.1.tokens_ne_nil isFirst'.1.tokens_ne_nil)

/-- The first construct without meaning of a part, if the parts before it are sound, is that of the
whole. -/
theorem Occurrence.IsFirst.within {index : ℕ} {first : Occurrence part} (isFirst : first.IsFirst)
    (piece_eq : whole.pieces[index]? = some (.construct part))
    (sound : ∀ other < index, ∀ before, whole.pieces[other]? = some before → before.faults = []) :
    (first.within piece_eq).IsFirst := by
  refine ⟨isFirst.1, fun other offends => ?_⟩
  have first_stop : first.start + first.construct.tokens.length ≤ part.tokens.length :=
    first.stop_le
  obtain rfl | ⟨index', part', piece_eq', inner, rfl⟩ := other.eq_all_or_within
  · -- a construct comes after its parts
    have shorter : part.tokens.length < whole.tokens.length :=
      Construct.Offends.length_lt offends (List.mem_of_getElem? piece_eq)
    have whole_stop := (first.within piece_eq).stop_le
    refine .inr (.inr ⟨Nat.zero_le _, whole_stop.trans (Nat.zero_add _).ge, ?_⟩)
    show first.construct.tokens.length < whole.tokens.length
    omega
  · obtain earlier | rfl | later := lt_trichotomy index' index
    · have none := (faults_eq_nil_iff part').mp (sound index' earlier _ piece_eq')
      exact absurd offends (none inner)
    · obtain rfl : part = part' := by simpa using piece_eq.symm.trans piece_eq'
      obtain rfl | precedes := isFirst.2 inner offends
      · exact .inl rfl
      · exact .inr (precedes.within piece_eq)
    · have := length_tokensOf_take_le piece_eq later
      refine .inr (.inl ?_)
      show _ + first.start + first.construct.tokens.length ≤ _ + inner.start
      simp only [Piece.tokens] at this
      omega

/-- The first of the faults is that of the first construct without meaning. -/
theorem exists_isFirst {fault : Error} {rest : List Error}
    (faults_eq : whole.derivation.faults = fault :: rest) :
    ∃ first : Occurrence whole, first.IsFirst ∧
      ∃ cause, first.construct.derivation.offence? = some cause ∧
        fault = ⟨cause, first.construct.derivation.line⟩ := by
  induction whole using Construct.induction generalizing rest with | step whole ih =>
  rw [Construct.faults_eq] at faults_eq
  cases parts_eq : whole.pieces.flatMap Piece.faults with
  | nil =>
    rw [parts_eq, List.nil_append, Derivation.ownFaults] at faults_eq
    cases cause_eq : whole.derivation.offence? with
    | none =>
      rw [cause_eq] at faults_eq
      cases faults_eq
    | some cause =>
      rw [cause_eq] at faults_eq
      obtain ⟨rfl, -⟩ := List.cons.inj faults_eq
      refine ⟨.all whole, ⟨Option.isSome_iff_exists.mpr ⟨cause, cause_eq⟩, ?_⟩, cause, cause_eq, rfl⟩
      intro other offends
      obtain rfl | ⟨index, part, piece_eq, inner, rfl⟩ := other.eq_all_or_within
      · exact .inl rfl
      · -- Nothing else offends: no piece has a fault.
        have sound := List.flatMap_eq_nil_iff.mp parts_eq _ (List.mem_of_getElem? piece_eq)
        exact absurd offends ((faults_eq_nil_iff part).mp sound inner)
  | cons first more =>
    rw [parts_eq, List.cons_append] at faults_eq
    obtain ⟨rfl, -⟩ := List.cons.inj faults_eq
    -- The fault is the first of the first piece that has one, and the pieces before are sound.
    obtain ⟨index, piece, more, piece_eq, piece_faults, sound⟩ := exists_piece_of_faults parts_eq
    cases piece with
    | token given => cases piece_faults
    | construct part =>
      obtain ⟨inner, isFirst, cause, cause_eq, fault_eq⟩ :=
        ih part (List.mem_of_getElem? piece_eq) piece_faults
      exact ⟨inner.within piece_eq, isFirst.within piece_eq sound, cause, cause_eq, fault_eq⟩

/-! ## Nodes of programs -/

/-- A node is no assignment to something else than a name, and repeats no parameter. -/
def IsRegular : Node → Prop
  | .binary _ "=" target _ => (nodeName? target).isSome = true
  | .function _ _ parameters _ => parameters.Nodup
  | _ => True

/-- An operator that does not assign is regular. -/
theorem isRegular_binary {operator : String} (sign : operator ≠ "=") (line : ℤ)
    (left right : Node) : IsRegular (.binary line operator left right) := by
  unfold IsRegular
  split
  next same => exact absurd (by injection same) sign
  next => trivial
  next => trivial

/-- A construct that is not without meaning makes regular nodes. -/
theorem isRegular_of_made {construct : Construct} (sound : ¬construct.Offends) {node : Node}
    (made : node ∈ construct.derivation.made) : IsRegular node := by
  obtain ⟨derivation⟩ := construct
  -- A target without an offence is a name.
  have named {rung : Rung} {target : Derivation (.operand rung)}
      (none : ¬(if target.name?.isSome then none else some Cause.unassignable).isSome = true) :
      (nodeName? target.meaning).isSome = true := by
    have name_eq : nodeName? target.meaning = target.name? := target.names
    rw [name_eq]
    by_contra absent
    rw [if_neg absent] at none
    exact none rfl
  -- Only assignments and functions make nodes that could be irregular.
  cases derivation with
  | assign target sign value =>
    obtain rfl := List.mem_singleton.mp made
    exact named sound
  | compoundAssign target sign value =>
    obtain rfl | made := List.mem_cons.mp made
    · exact named sound
    · obtain rfl | made := List.mem_cons.mp made
      · have operator := List.mem_append_right Operator.lazySigns
          (List.contains_iff_mem.mp sign.allows)
        exact isRegular_binary (ne_of_mem_signs operator) _ _ _
      · obtain rfl := List.mem_singleton.mp made
        trivial
  | chain level left operator right =>
    obtain rfl := List.mem_singleton.mp made
    have sign := List.contains_iff_mem.mp (Bool.and_eq_true_iff.mp operator.allows).1
    exact isRegular_binary (ne_of_mem_signs sign) _ _ _
  | function =>
    obtain rfl := List.mem_singleton.mp made
    exact List.nodup_nil
  | functionOf keyword name opening parameters closing body =>
    obtain rfl := List.mem_singleton.mp made
    show parameters.meaning.Nodup
    by_contra repeated
    refine sound ?_
    rw [Construct.Offends, Derivation.offence?, if_neg repeated]
    rfl
  | blockStatement | uninitialized | initialized | ifThen | ifElse | whileLoop | doLoop | forLoop
  | returning | returningOf | breaking | continuing | prefixed | signed | call | callOf | reference
  | integer | float | string =>
    obtain rfl := List.mem_singleton.mp made
    trivial
  | _ => cases made

/-- All nodes of a program that tokens denote are regular. -/
theorem isRegular_of_ofTokens {tokens : List Token} {program : Node}
    (program_eq : Program.ofTokens tokens = .ok program) : program.All IsRegular := by
  obtain ⟨derivation, -, faults_eq, rfl⟩ := exists_derivation_of_ofTokens program_eq
  have sound := (faults_eq_nil_iff ⟨derivation⟩).mp faults_eq
  refine .intro trivial fun node mem inner inside => ?_
  have denoted : inner ∈ (Construct.mk derivation).nodes :=
    List.mem_flatMap.mpr ⟨node, mem, inside⟩
  obtain ⟨occurrence, made⟩ := Occurrence.exists_of_mem_nodes denoted
  exact isRegular_of_made (sound occurrence) made

/-! ## Tokens -/

/-- A construct is on the line of the token at its place. -/
theorem Occurrence.exists_token {whole : Construct} (occurrence : Occurrence whole)
    (present : occurrence.construct.tokens ≠ []) : ∃ token,
      whole.tokens[occurrence.start]? = some token ∧
        occurrence.construct.derivation.line = token.line := by
  obtain ⟨before, after, tokens_eq, length_eq⟩ := occurrence.occurs.exists_tokens
  obtain ⟨token, rest, construct_eq⟩ := List.exists_cons_of_ne_nil present
  refine ⟨token, ?_, ?_⟩
  · rw [tokens_eq, construct_eq, ← length_eq, List.getElem?_append_right le_rfl, Nat.sub_self]
    rfl
  · rw [Construct.tokens] at construct_eq
    rw [Derivation.line, construct_eq]
    rfl

/-- Tokens that the grammar derives, with numerals for numbers, are refused if and only if an
assignment to something else than a name or a function that repeats a parameter occurs in their
derivation.  Reported is the first of these constructs, inner before outer and left before right, on
the line of its first token.  And a program that tokens denote assigns to names only, and repeats no
parameter. -/
theorem ofTokens_first_offence (tokens : List Token) :
    (∀ derivation : Derivation .start, derivation.tokens = sentence tokens →
      HaveNumerals (sentence tokens) →
      ((∃ failure, Program.ofTokens tokens = .error failure) ↔
        ∃ occurrence : Occurrence ⟨derivation⟩, occurrence.construct.Offends) ∧
      ∀ failure, Program.ofTokens tokens = .error failure →
        ∃ first : Occurrence ⟨derivation⟩, first.IsFirst ∧
          ∃ cause token, first.construct.derivation.offence? = some cause ∧
            (sentence tokens)[first.start]? = some token ∧
            failure = .error ⟨cause, token.line⟩) ∧
    ∀ program, Program.ofTokens tokens = .ok program → program.All IsRegular := by
  refine ⟨fun derivation tokens_eq numerals => ?_, fun program => isRegular_of_ofTokens⟩
  rw [ofTokens_of_derivation derivation tokens_eq numerals]
  cases faults_eq : derivation.faults with
  | nil =>
    have sound := (faults_eq_nil_iff ⟨derivation⟩).mp faults_eq
    refine ⟨⟨?_, fun ⟨occurrence, offends⟩ => absurd offends (sound occurrence)⟩, ?_⟩
    · rintro ⟨failure, ⟨⟩⟩
    · rintro failure ⟨⟩
  | cons fault rest =>
    have whole_eq : (Construct.mk derivation).derivation.faults = fault :: rest := faults_eq
    obtain ⟨first, isFirst, cause, cause_eq, rfl⟩ := exists_isFirst whole_eq
    refine ⟨⟨fun _ => ⟨first, isFirst.1⟩, fun _ => ⟨_, rfl⟩⟩, ?_⟩
    rintro failure ⟨⟩
    obtain ⟨token, token_eq, line_eq⟩ := first.exists_token isFirst.1.tokens_ne_nil
    rw [← tokens_eq]
    exact ⟨first, isFirst, cause, token, cause_eq, token_eq, by rw [line_eq]⟩

/-- The tokens of `1 = (2 = 3);` on three lines. -/
def nestedAssignments : List Token :=
  [⟨.integer, "1", 1⟩, ⟨.operator, "=", 1⟩, ⟨.punctuation, "(", 1⟩, ⟨.integer, "2", 2⟩,
    ⟨.operator, "=", 2⟩, ⟨.integer, "3", 2⟩, ⟨.punctuation, ")", 3⟩, ⟨.punctuation, ";", 3⟩,
    ⟨.endOfInput, "", 3⟩]

/-- Of two assignments to numbers the inner one is reported. -/
theorem nestedAssignments_first_offence :
    HaveNumerals (sentence nestedAssignments) ∧
      (∃ derivation : Derivation .start, derivation.tokens = sentence nestedAssignments ∧
        ∃ first : Occurrence ⟨derivation⟩, first.IsFirst ∧
          first.construct.derivation.offence? = some .unassignable ∧
          ∃ token, (sentence nestedAssignments)[first.start]? = some token ∧ token.line = 2) ∧
      ∃ program, Program.ofTokens scaledDifference = .ok program ∧ program.All IsRegular := by
  have numerals : HaveNumerals (sentence nestedAssignments) := by decide
  have read_eq : ∃ clauses, read nestedAssignments = .ok clauses := ⟨_, rfl⟩
  have refused : Program.ofTokens nestedAssignments = .error (.error ⟨.unassignable, 2⟩) := by cbv
  obtain ⟨clauses, read_eq⟩ := read_eq
  obtain ⟨derivation, tokens_eq, -⟩ := read_eq_ok_iff.mp read_eq
  obtain ⟨first, isFirst, cause, token, cause_eq, token_eq, failure_eq⟩ :=
    ((ofTokens_first_offence nestedAssignments).1 derivation tokens_eq numerals).2 _ refused
  obtain ⟨rfl, line_eq⟩ : Cause.unassignable = cause ∧ 2 = token.line := by simpa using failure_eq
  refine ⟨numerals, ⟨derivation, tokens_eq, first, isFirst, cause_eq, token, token_eq,
    line_eq.symm⟩, ?_⟩
  obtain ⟨program, program_eq⟩ : ∃ program, Program.ofTokens scaledDifference = .ok program :=
    ⟨_, by cbv⟩
  exact ⟨program, program_eq, (ofTokens_first_offence scaledDifference).2 program program_eq⟩

end Scriptlet.Grammar
