import Scriptlet.Proofs.Grammar.Program

/-! # Why tokens denote no program

Tokens that denote no program are refused for something that one of them shows: a place where the
grammar does not go on, a construct that has no meaning, a sign that is not in use, or a number that
is no numeral.

Main definitions:

* `Blames`: what a failure says of the tokens that are refused.
* `Settled`: tokens are refused for a reason, or all their numbers are numerals.

Main statements:

* `Derivation.settles`: turning a tree into nodes settles the tokens that it is derived from.
* `ofTokens_settled`: what becomes of any tokens. -/

namespace Scriptlet.Grammar

/-! ## Reasons -/

/-- What a failure says of the tokens that are refused: a syntax error is on the line of one of them
or on the first line, and a sign or a number stands among them and cannot be read. -/
def Blames (tokens : List Token) : Failure → Prop
  | .error error =>
    error.cause.kind = .grammar ∧ (error.line = 1 ∨ ∃ token ∈ tokens, error.line = token.line)
  | .unknownSign lexeme => ∃ token ∈ tokens, Terminal.ofToken? token = none ∧ token.lexeme = lexeme
  | .badNumeral lexeme => ∃ token ∈ tokens, hasNumeral token = false ∧ token.lexeme = lexeme

/-- Tokens are refused for a reason, or all their numbers are numerals. -/
def Settled {α : Type} (tokens : List Token) : Except Failure α → Prop
  | .ok _ => HaveNumerals tokens
  | .error failure => Blames tokens failure

/-- What blames tokens blames more of them. -/
theorem Blames.mono {tokens more : List Token} {failure : Failure} (blames : Blames tokens failure)
    (subset : tokens ⊆ more) : Blames more failure := by
  cases failure with
  | error error =>
    obtain ⟨kind_eq, first | ⟨token, mem, line_eq⟩⟩ := blames
    · exact ⟨kind_eq, Or.inl first⟩
    · exact ⟨kind_eq, Or.inr ⟨token, subset mem, line_eq⟩⟩
  | unknownSign lexeme =>
    obtain ⟨token, mem, unknown⟩ := blames
    exact ⟨token, subset mem, unknown⟩
  | badNumeral lexeme =>
    obtain ⟨token, mem, unread⟩ := blames
    exact ⟨token, subset mem, unread⟩

/-- A token that is no number need not be a numeral. -/
theorem Leaf.hasNumeral {terminal : Terminal} (leaf : Leaf terminal)
    (other : terminal.isNumber = false) : hasNumeral leaf.token := by
  have class_eq := leaf.ofToken?_eq
  unfold Grammar.hasNumeral
  split
  · rename_i kind_eq
    simp only [Terminal.ofToken?, kind_eq, Option.some.injEq] at class_eq
    subst class_eq
    cases other
  · rename_i kind_eq
    simp only [Terminal.ofToken?, kind_eq, Option.some.injEq] at class_eq
    subst class_eq
    cases other
  · rfl

namespace Settled

variable {α β : Type} {tokens more : List Token} {result : Except Failure α}

/-- Tokens with numerals are settled by success. -/
theorem pure (numerals : HaveNumerals tokens) (value : α) :
    Settled tokens (Pure.pure value : Except Failure α) :=
  numerals

/-- What comes first is settled first. -/
theorem bind {next : α → Except Failure β} (settled : Settled tokens result)
    (settled' : ∀ value, Settled more (next value)) : Settled (tokens ++ more) (result >>= next) := by
  cases result with
  | error failure => exact Blames.mono settled (List.subset_append_left _ _)
  | ok value =>
    have later := settled' value
    change Settled _ (next value)
    cases next_eq : next value with
    | error failure =>
      rw [next_eq] at later
      exact Blames.mono later (List.subset_append_right _ _)
    | ok given =>
      rw [next_eq] at later
      exact List.forall_mem_append.mpr ⟨settled, later⟩

/-- Tokens with numerals may follow. -/
theorem append (settled : Settled tokens result) (numerals : HaveNumerals more) :
    Settled (tokens ++ more) result := by
  have bound := settled.bind (Settled.pure numerals)
  rwa [bind_pure] at bound

/-- Tokens with numerals may come in front. -/
theorem after (settled : Settled tokens result) (numerals : HaveNumerals more) :
    Settled (more ++ tokens) result :=
  (Settled.pure numerals ()).bind fun _ => settled

/-- A value that is only changed is settled as before. -/
theorem bind_pure (settled : Settled tokens result) (change : α → β) :
    Settled tokens (result >>= fun value => Pure.pure (change value)) := by
  have bound := settled.bind fun value => @Settled.pure _ [] nofun (change value)
  rwa [List.append_nil] at bound

/-- So is a value that is mapped. -/
theorem map (settled : Settled tokens result) (change : α → β) :
    Settled tokens (change <$> result) := by
  rw [map_eq_pure_bind]
  exact settled.bind_pure change

/-- A token that is no number is passed over. -/
theorem leaf {terminal : Terminal} (settled : Settled tokens result) (leaf : Leaf terminal)
    (other : terminal.isNumber = false) : Settled (leaf.token :: tokens) result := by
  cases result with
  | error failure => exact Blames.mono settled (List.subset_cons_self _ _)
  | ok value => exact List.forall_mem_cons.mpr ⟨leaf.hasNumeral other, settled⟩

end Settled

/-- A leaf that is no number has numerals by default. -/
theorem haveNumerals_leaf {terminal : Terminal} (leaf : Leaf terminal)
    (other : terminal.isNumber = false) : HaveNumerals [leaf.token] :=
  List.forall_mem_singleton.mpr (leaf.hasNumeral other)

/-! ## Derivations -/

/-- An operand starts on the line of one of its tokens. -/
theorem Derivation.exists_line_eq {rung : Rung} (operand : Derivation (.operand rung)) :
    ∃ token ∈ operand.tokens, operand.tree.start = token.line := by
  obtain ⟨first, rest, tokens_eq, start_eq⟩ := operand.starts
  exact ⟨first, tokens_eq ▸ List.mem_cons_self, start_eq⟩

/-- A number is read, or it is refused since its token is not written as a numeral. -/
theorem settled_numeral {α : Type} {token : Token} {read? : Option α} (build : α → Node)
    (numeral : hasNumeral token = read?.isSome) :
    Settled [token] (read?.elim (.error (.badNumeral token.lexeme)) fun value =>
      .ok (build value)) := by
  cases read? with
  | some value => exact List.forall_mem_singleton.mpr numeral
  | none => exact ⟨token, List.mem_singleton_self _, numeral, rfl⟩

/-- An integer is read, or it is refused. -/
theorem settled_integer (leaf : Leaf .integer) :
    Settled [leaf.token] (Phrase.integer leaf.token).node := by
  have settled := settled_numeral (.integer leaf.token.line) leaf.hasNumeral_integer
  rw [Phrase.node]
  generalize Decimal.integer? leaf.token.lexeme = read? at settled ⊢
  cases read? <;> exact settled

/-- A float is read, or it is refused. -/
theorem settled_float (leaf : Leaf .float) :
    Settled [leaf.token] (Phrase.float leaf.token).node := by
  have settled := settled_numeral (.float leaf.token.line) leaf.hasNumeral_float
  rw [Phrase.node]
  generalize Decimal.double? leaf.token.lexeme = read? at settled ⊢
  cases read? <;> exact settled

/-- An assignment to something else than a name is blamed on its first token. -/
theorem settled_assign {target value : Phrase} {tokens more : List Token} (sign : Token)
    (first : ∃ token ∈ tokens, target.start = token.line) (settled : Settled tokens target.node)
    (settled' : Settled more value.node) :
    Settled (tokens ++ more) (Phrase.assign target sign value).node := by
  obtain ⟨token, mem, start_eq⟩ := first
  rw [Phrase.node]
  cases target_eq : target.node with
  | error failure =>
    rw [target_eq] at settled
    exact Blames.mono settled (List.subset_append_left _ _)
  | ok targetNode =>
    rw [target_eq] at settled
    cases value_eq : value.node with
    | error failure =>
      rw [value_eq] at settled'
      exact Blames.mono settled' (List.subset_append_right _ _)
    | ok valueNode =>
      rw [value_eq] at settled'
      have numerals : HaveNumerals (tokens ++ more) :=
        List.forall_mem_append.mpr ⟨settled, settled'⟩
      change Settled _ (assignment target.start targetNode (compoundOperator? sign) valueNode)
      unfold assignment
      split
      · exact numerals
      · exact numerals
      · exact ⟨rfl, Or.inr ⟨token, List.mem_append_left _ mem, start_eq⟩⟩

/-- A function that repeats a parameter is blamed on its first token. -/
theorem settled_function {body : List Clause} {tokens : List Token} (first name : Token)
    (parameters : List Token) (mem : first ∈ tokens) (settled : Settled tokens (Clause.nodes body)) :
    Settled tokens (Clause.function first.line name parameters body).node := by
  rw [Clause.node]
  cases body_eq : Clause.nodes body with
  | error failure =>
    rw [body_eq] at settled
    exact settled
  | ok nodes =>
    rw [body_eq] at settled
    change Settled _ (ite ..)
    split
    · exact settled
    · exact ⟨rfl, Or.inr ⟨first, mem, rfl⟩⟩

/-- Turning a tree into nodes settles its tokens. -/
def Symbol.Settles : (symbol : Symbol) → symbol.Tree → List Token → Prop
  | start, clauses, tokens | statements, clauses, tokens | body, clauses, tokens =>
    Settled tokens (Clause.nodes clauses)
  | statement, clause, tokens | functionDeclaration, clause, tokens
  | variableDeclaration, clause, tokens | choice, clause, tokens | whileLoop, clause, tokens
  | doLoop, clause, tokens | forLoop, clause, tokens | returning, clause, tokens
  | breaking, clause, tokens | continuing, clause, tokens | empty, clause, tokens =>
    Settled tokens clause.node
  | parameters, _, tokens => HaveNumerals tokens
  | elseBranch, branch, tokens => Settled tokens (branchNodes branch)
  | forStart, clause, tokens => Settled tokens (Clause.node? clause)
  | forTest, phrase, tokens | forStep, phrase, tokens => Settled tokens (Phrase.node? phrase)
  | expression, phrase, tokens | assignment, phrase, tokens | operand _, phrase, tokens
  | primary, phrase, tokens => Settled tokens phrase.node
  | arguments, phrases, tokens => Settled tokens (Phrase.nodes phrases)

/-- A choice with `else` is settled part by part. -/
theorem settled_orElse {condition : Phrase} {body : List Clause} {branch : List Clause ⊕ Clause}
    {tokens more others : List Token} (line : Int) (settled : Settled tokens condition.node)
    (settled' : Settled more (Clause.nodes body)) (settled'' : Settled others (branchNodes branch)) :
    Settled (tokens ++ (more ++ others)) (Arm.orElse ⟨line, condition, body⟩ branch).node := by
  cases branch with
  | inl otherBody =>
    rw [Arm.orElse, Clause.node]
    exact settled.bind fun _ => settled'.bind fun _ =>
      @Settled.bind_pure _ _ _ (Clause.nodes otherBody) settled'' _
  | inr choice =>
    rw [Arm.orElse, Clause.node]
    refine settled.bind fun test => settled'.bind fun nodes => ?_
    have bind_eq : (choice.node >>= fun other =>
        pure (some (Node.conditional line test nodes (some other.toList))))
          = (branchNodes (.inr choice) >>= fun other =>
            pure (some (Node.conditional line test nodes (some other)))) := by
      rw [branchNodes]
      cases choice.node <;> rfl
    rw [bind_eq]
    exact settled''.bind_pure _

/-- Turning the tree of a derivation into nodes settles the tokens that are derived. -/
theorem Derivation.settles {symbol : Symbol} (derivation : Derivation symbol) :
    symbol.Settles derivation.tree derivation.tokens := by
  -- The parts are turned into nodes from left to right, so what fails first is what comes first;
  -- tokens that are no numbers are passed over.
  induction derivation with
  | program _ ih => exact ih
  | noStatement => exact nofun
  | oneMore statements statement ih ih' =>
    show Settled _ (Clause.nodes (statements.tree ++ [statement.tree]))
    rw [clauseNodes_concat]
    exact Settled.bind ih fun _ => Settled.bind_pure ih' _
  | functionStatement _ ih | choiceStatement _ ih | whileStatement _ ih | doStatement _ ih
  | forStatement _ ih | returnStatement _ ih | breakStatement _ ih | continueStatement _ ih
  | emptyStatement _ ih => exact ih
  | variableStatement _ semicolon ih => exact Settled.append ih (haveNumerals_leaf semicolon rfl)
  | blockStatement body ih =>
    show Settled _ (Clause.block ..).node
    rw [Clause.node]
    exact Settled.bind_pure ih _
  | expressionStatement expression semicolon ih =>
    show Settled _ (Clause.expression ..).node
    rw [Clause.node]
    exact (Settled.map ih _).append (haveNumerals_leaf semicolon rfl)
  | function keyword name opening closing _ ih =>
    exact settled_function keyword.token name.token [] List.mem_cons_self
      ((((Settled.leaf ih closing rfl).leaf opening rfl).leaf name rfl).leaf keyword rfl)
  | functionOf keyword name opening parameters closing _ ih ih' =>
    have settled := Settled.after (Settled.leaf ih' closing rfl) ih
    exact settled_function keyword.token name.token parameters.tree List.mem_cons_self
      (((settled.leaf opening rfl).leaf name rfl).leaf keyword rfl)
  | oneParameter name => exact haveNumerals_leaf name rfl
  | nextParameter parameters comma name ih =>
    exact List.forall_mem_append.mpr ⟨ih, List.forall_mem_cons.mpr ⟨comma.hasNumeral rfl,
      haveNumerals_leaf name rfl⟩⟩
  | uninitialized keyword name =>
    exact List.forall_mem_cons.mpr ⟨keyword.hasNumeral rfl, haveNumerals_leaf name rfl⟩
  | initialized keyword name sign value ih =>
    show Settled _ (Clause.declaration _ _ (some value.tree)).node
    rw [Clause.node]
    have settled := (Settled.map ih some).bind_pure
      fun initializer => some (Node.declaration keyword.token.line name.token.lexeme initializer)
    exact ((settled.leaf sign rfl).leaf name rfl).leaf keyword rfl
  | ifThen keyword opening condition closing body ih ih' =>
    show Settled _ (Clause.ifThen ..).node
    rw [Clause.node]
    have settled := Settled.bind ih fun test => (Settled.bind_pure ih'
      fun nodes => some (Node.conditional keyword.token.line test nodes none)).leaf closing rfl
    exact (settled.leaf opening rfl).leaf keyword rfl
  | ifElse keyword opening _ closing _ otherwise _ ih ih' ih'' =>
    have settled := settled_orElse keyword.token.line ih (Settled.leaf ih' closing rfl)
      (Settled.leaf ih'' otherwise rfl)
    exact (settled.leaf opening rfl).leaf keyword rfl
  | elseBody _ ih => exact ih
  | elseChoice _ ih => exact Settled.map ih Option.toList
  | whileLoop keyword opening condition closing body ih ih' =>
    show Settled _ (Clause.whileLoop ..).node
    rw [Clause.node]
    have settled := Settled.bind ih fun test => (Settled.bind_pure ih'
      fun nodes => some (Node.whileLoop keyword.token.line test nodes)).leaf closing rfl
    exact (settled.leaf opening rfl).leaf keyword rfl
  | doLoop keyword body test opening condition closing semicolon ih ih' =>
    show Settled _ (Clause.doLoop ..).node
    rw [Clause.node]
    have marks : HaveNumerals [closing.token, semicolon.token] :=
      List.forall_mem_cons.mpr ⟨closing.hasNumeral rfl, haveNumerals_leaf semicolon rfl⟩
    have settled := Settled.bind ih fun nodes => (((Settled.bind_pure ih'
      fun node => some (Node.doLoop keyword.token.line node nodes)).append marks).leaf
        opening rfl).leaf test rfl
    exact settled.leaf keyword rfl
  | forLoop keyword opening first afterStart condition afterTest step closing body ih ih' ih''
      ihBody =>
    show Settled _ (Clause.forLoop ..).node
    rw [Clause.node]
    have settled := Settled.bind ih fun start => (Settled.bind ih' fun test =>
      (Settled.bind ih'' fun next => (Settled.bind_pure ihBody fun nodes =>
        some (Node.forLoop keyword.token.line start test next nodes)).leaf closing rfl).leaf
          afterTest rfl).leaf afterStart rfl
    exact (settled.leaf opening rfl).leaf keyword rfl
  | noStart | noTest | noStep => exact nofun
  | variableStart _ ih => exact ih
  | expressionStart expression ih =>
    show Settled _ (Clause.expression ..).node
    rw [Clause.node]
    exact Settled.map ih _
  | testOf _ ih | stepOf _ ih => exact Settled.map ih some
  | returning keyword semicolon | breaking keyword semicolon | continuing keyword semicolon =>
    exact List.forall_mem_cons.mpr ⟨keyword.hasNumeral rfl, haveNumerals_leaf semicolon rfl⟩
  | returningOf keyword value semicolon ih =>
    show Settled _ (Clause.returning _ (some value.tree)).node
    rw [Clause.node]
    have settled := (Settled.map ih some).bind_pure
      fun result => some (Node.returning keyword.token.line result)
    exact (settled.append (haveNumerals_leaf semicolon rfl)).leaf keyword rfl
  | bare semicolon => exact haveNumerals_leaf semicolon rfl
  | braces opening _ closing ih =>
    exact (Settled.append ih (haveNumerals_leaf closing rfl)).leaf opening rfl
  | whole _ ih | plain _ ih | single _ _ ih | atom _ ih => exact ih
  | assign target sign _ ih ih' =>
    exact settled_assign sign.token target.exists_line_eq ih (Settled.leaf ih' sign rfl)
  | compoundAssign target sign _ ih ih' =>
    exact settled_assign sign.token target.exists_line_eq ih (Settled.leaf ih' sign rfl)
  | chain _ left operator right ih ih' =>
    show Settled _ (Phrase.binary ..).node
    rw [Phrase.node]
    exact Settled.bind ih fun _ => (Settled.bind_pure ih' _).leaf operator rfl
  | prefixed operator _ ih =>
    show Settled _ (Phrase.unary ..).node
    rw [Phrase.node]
    exact (Settled.bind_pure ih _).leaf operator rfl
  | signed operator _ ih =>
    show Settled _ (Phrase.unary ..).node
    rw [Phrase.node]
    exact (Settled.bind_pure ih _).leaf operator rfl
  | call callee opening closing =>
    exact List.forall_mem_cons.mpr ⟨callee.hasNumeral rfl, List.forall_mem_cons.mpr
      ⟨opening.hasNumeral rfl, haveNumerals_leaf closing rfl⟩⟩
  | callOf callee opening arguments closing ih =>
    show Settled _ (Phrase.call ..).node
    rw [Phrase.node]
    have settled := (Settled.bind_pure ih fun nodes =>
      Node.call callee.token.line callee.token.lexeme nodes).append (haveNumerals_leaf closing rfl)
    exact (settled.leaf opening rfl).leaf callee rfl
  | reference name => exact haveNumerals_leaf name rfl
  | integer numeral => exact settled_integer numeral
  | float numeral => exact settled_float numeral
  | string literal => exact haveNumerals_leaf literal rfl
  | group opening _ closing ih =>
    exact (Settled.append ih (haveNumerals_leaf closing rfl)).leaf opening rfl
  | oneArgument expression ih =>
    show Settled _ (Phrase.nodes [expression.tree])
    rw [← List.nil_append [_], nodes_concat]
    exact Settled.bind_pure ih _
  | nextArgument arguments comma expression ih ih' =>
    show Settled _ (Phrase.nodes (arguments.tree ++ [expression.tree]))
    rw [nodes_concat]
    exact Settled.bind ih fun _ => (Settled.bind_pure ih' _).leaf comma rfl

/-! ## Readers -/

/-- A token that a reader refuses is blamed. -/
theorem Reader.blames_of_feed {reader : Reader} {token : Token} {failure : Failure}
    (refused : reader.feed token = .error failure) : Blames [token] failure := by
  unfold Reader.feed at refused
  split at refused
  · rename_i unknown
    obtain rfl := Except.error.inj refused
    exact ⟨token, List.mem_singleton_self _, unknown, rfl⟩
  · split at refused
    · obtain rfl := Except.error.inj refused
      exact ⟨rfl, Or.inr ⟨token, List.mem_singleton_self _, rfl⟩⟩
    · cases refused

/-- Tokens that a reader does not get through hold one that it refuses. -/
theorem Reader.blames_of_foldlM {reader : Reader} {tokens : List Token} {failure : Failure}
    (refused : tokens.foldlM Reader.feed reader = .error failure) : Blames tokens failure := by
  induction tokens generalizing reader with
  | nil => cases refused
  | cons token tokens ih =>
    rw [List.foldlM_cons] at refused
    cases fed : reader.feed token with
    | error first =>
      rw [fed] at refused
      obtain rfl := Except.error.inj refused
      exact (Reader.blames_of_feed fed).mono (by simp)
    | ok next =>
      rw [fed] at refused
      exact (ih refused).mono (List.subset_cons_self _ _)

/-- The last line is that of a token, or the first if there is none. -/
theorem lastLine_eq (tokens : List Token) :
    lastLine tokens = 1 ∨ ∃ token ∈ tokens, lastLine tokens = token.line := by
  unfold lastLine
  split
  · rename_i token last
    split
    · exact Or.inl rfl
    · exact Or.inr ⟨token, List.mem_of_getLast? last, rfl⟩
  · exact Or.inl rfl

/-- A refusal blames one of the tokens. -/
theorem blames_of_read {tokens : List Token} {failure : Failure}
    (refused : read tokens = .error failure) : Blames (sentence tokens) failure := by
  simp only [read] at refused
  split at refused
  · rename_i fed
    obtain rfl := Except.error.inj refused
    exact Reader.blames_of_foldlM fed
  · split at refused
    · cases refused
    · obtain rfl := Except.error.inj refused
      exact ⟨rfl, lastLine_eq _⟩

/-- Tokens denote a program on line zero. -/
theorem exists_program_eq {tokens : List Token} {program : Node}
    (program_eq : Program.ofTokens tokens = .ok program) : ∃ body, program = .program 0 body := by
  unfold Program.ofTokens at program_eq
  cases read_eq : read tokens with
  | error failure =>
    rw [read_eq] at program_eq
    cases program_eq
  | ok clauses =>
    rw [read_eq] at program_eq
    change (Clause.nodes clauses >>= fun body => pure (Node.program 0 body)) = _ at program_eq
    cases nodes_eq : Clause.nodes clauses with
    | error failure =>
      rw [nodes_eq] at program_eq
      cases program_eq
    | ok body =>
      rw [nodes_eq] at program_eq
      exact ⟨body, (Except.ok.inj program_eq).symm⟩

/-- Tokens denote a program and all their numbers are numerals, or else one of them is blamed. -/
theorem ofTokens_settled (tokens : List Token) :
    Settled (sentence tokens) (Program.ofTokens tokens) := by
  unfold Program.ofTokens
  cases read_eq : read tokens with
  | error failure => exact blames_of_read read_eq
  | ok clauses =>
    obtain ⟨derivation, tokens_eq, rfl⟩ := read_eq_ok_iff.mp read_eq
    rw [← tokens_eq]
    exact derivation.settles.bind_pure _

end Scriptlet.Grammar
