import Scriptlet.Proofs.Grammar.Line
import Scriptlet.Proofs.Token.Concatenation

/-! # Programs that are put together

The grammar takes statements one after the other, and what it derives does not depend on the lines of
the tokens.  So two programs, one on the lines after the other, are a program, whose statements are
those of the two, the second ones on later lines.

Main definitions:

* `Node.later`: a node whose nodes are all on lines a number of lines later.
* `Derivation.later`: a derivation from tokens on later lines.
* `Derivation.append`: the statements of two derivations.

Main statements: `Derivation.meaning_later`, and `ofSource_append` for source texts. -/

namespace Scriptlet

/-! ## Nodes on later lines -/

section

variable (lines : Int)

mutual

/-- A node whose nodes are all on lines a number of lines later. -/
def Node.later : Node → Node
  | .program line body => .program (line + lines) (Node.laterAll body)
  | .integer line value => .integer (line + lines) value
  | .float line value => .float (line + lines) value
  | .text line value => .text (line + lines) value
  | .reference line name => .reference (line + lines) name
  | .binary line operator left right =>
    .binary (line + lines) operator left.later right.later
  | .unary line operator operand => .unary (line + lines) operator operand.later
  | .call line callee arguments => .call (line + lines) callee (Node.laterAll arguments)
  | .function line name parameters body =>
    .function (line + lines) name parameters (Node.laterAll body)
  | .declaration line name initializer =>
    .declaration (line + lines) name (Node.laterOption initializer)
  | .returning line value => .returning (line + lines) (Node.laterOption value)
  | .breaking line => .breaking (line + lines)
  | .continuing line => .continuing (line + lines)
  | .conditional line condition thenBranch elseBranch =>
    .conditional (line + lines) condition.later (Node.laterAll thenBranch)
      (Node.laterBranch elseBranch)
  | .whileLoop line condition body => .whileLoop (line + lines) condition.later (Node.laterAll body)
  | .doLoop line condition body => .doLoop (line + lines) condition.later (Node.laterAll body)
  | .forLoop line start condition step body =>
    .forLoop (line + lines) (Node.laterOption start) (Node.laterOption condition)
      (Node.laterOption step) (Node.laterAll body)
  | .block line body => .block (line + lines) (Node.laterAll body)

/-- Nodes on later lines. -/
def Node.laterAll : List Node → List Node
  | [] => []
  | node :: rest => node.later :: Node.laterAll rest

/-- A node on later lines, if there is one. -/
def Node.laterOption : Option Node → Option Node
  | none => none
  | some node => some node.later

/-- A branch on later lines, if there is one. -/
def Node.laterBranch : Option (List Node) → Option (List Node)
  | none => none
  | some branch => some (Node.laterAll branch)

end

end

namespace Node

variable {lines : Int}

/-- Nodes are moved one by one. -/
theorem laterAll_eq_map (nodes : List Node) : laterAll lines nodes = nodes.map (later lines) := by
  induction nodes with
  | nil => rfl
  | cons node rest ih => rw [laterAll, List.map_cons, ih]

/-- Nodes and further ones are moved alike. -/
theorem laterAll_append (front back : List Node) :
    laterAll lines (front ++ back) = laterAll lines front ++ laterAll lines back := by
  rw [laterAll_eq_map, laterAll_eq_map, laterAll_eq_map, List.map_append]

/-- A node that may be missing is moved if it is there. -/
theorem toList_laterOption (node : Option Node) :
    (laterOption lines node).toList = laterAll lines node.toList := by
  cases node with
  | none => rfl
  | some node => rfl

end Node

namespace Grammar

/-! ## Derivations on later lines -/

/-- A token of a class on a later line. -/
def Leaf.later {terminal : Terminal} (lines : Int) (leaf : Leaf terminal) : Leaf terminal where
  token := leaf.token.later lines
  ofToken?_eq := leaf.ofToken?_eq

namespace Derivation

/-- A derivation from tokens on later lines. -/
def later (lines : Int) {symbol : Symbol} : Derivation symbol → Derivation symbol
  | .program statements => .program (statements.later lines)
  | .noStatement => .noStatement
  | .oneMore statements statement => .oneMore (statements.later lines) (statement.later lines)
  | .functionStatement declaration => .functionStatement (declaration.later lines)
  | .variableStatement declaration semicolon =>
    .variableStatement (declaration.later lines) (semicolon.later lines)
  | .choiceStatement choice => .choiceStatement (choice.later lines)
  | .whileStatement loop => .whileStatement (loop.later lines)
  | .doStatement loop => .doStatement (loop.later lines)
  | .forStatement loop => .forStatement (loop.later lines)
  | .returnStatement jump => .returnStatement (jump.later lines)
  | .breakStatement jump => .breakStatement (jump.later lines)
  | .continueStatement jump => .continueStatement (jump.later lines)
  | .blockStatement body => .blockStatement (body.later lines)
  | .expressionStatement expression semicolon =>
    .expressionStatement (expression.later lines) (semicolon.later lines)
  | .emptyStatement empty => .emptyStatement (empty.later lines)
  | .function keyword name opening closing body =>
    .function (keyword.later lines) (name.later lines) (opening.later lines) (closing.later lines)
      (body.later lines)
  | .functionOf keyword name opening parameters closing body =>
    .functionOf (keyword.later lines) (name.later lines) (opening.later lines)
      (parameters.later lines) (closing.later lines) (body.later lines)
  | .oneParameter name => .oneParameter (name.later lines)
  | .nextParameter parameters comma name =>
    .nextParameter (parameters.later lines) (comma.later lines) (name.later lines)
  | .uninitialized keyword name => .uninitialized (keyword.later lines) (name.later lines)
  | .initialized keyword name sign value =>
    .initialized (keyword.later lines) (name.later lines) (sign.later lines) (value.later lines)
  | .ifThen keyword opening condition closing body =>
    .ifThen (keyword.later lines) (opening.later lines) (condition.later lines)
      (closing.later lines) (body.later lines)
  | .ifElse keyword opening condition closing body otherwise alternative =>
    .ifElse (keyword.later lines) (opening.later lines) (condition.later lines)
      (closing.later lines) (body.later lines) (otherwise.later lines) (alternative.later lines)
  | .elseBody body => .elseBody (body.later lines)
  | .elseChoice choice => .elseChoice (choice.later lines)
  | .whileLoop keyword opening condition closing body =>
    .whileLoop (keyword.later lines) (opening.later lines) (condition.later lines)
      (closing.later lines) (body.later lines)
  | .doLoop keyword body test opening condition closing semicolon =>
    .doLoop (keyword.later lines) (body.later lines) (test.later lines) (opening.later lines)
      (condition.later lines) (closing.later lines) (semicolon.later lines)
  | .forLoop keyword opening first afterStart condition afterTest step closing body =>
    .forLoop (keyword.later lines) (opening.later lines) (first.later lines)
      (afterStart.later lines) (condition.later lines) (afterTest.later lines) (step.later lines)
      (closing.later lines) (body.later lines)
  | .noStart => .noStart
  | .variableStart declaration => .variableStart (declaration.later lines)
  | .expressionStart expression => .expressionStart (expression.later lines)
  | .noTest => .noTest
  | .testOf expression => .testOf (expression.later lines)
  | .noStep => .noStep
  | .stepOf expression => .stepOf (expression.later lines)
  | .returning keyword semicolon => .returning (keyword.later lines) (semicolon.later lines)
  | .returningOf keyword value semicolon =>
    .returningOf (keyword.later lines) (value.later lines) (semicolon.later lines)
  | .breaking keyword semicolon => .breaking (keyword.later lines) (semicolon.later lines)
  | .continuing keyword semicolon => .continuing (keyword.later lines) (semicolon.later lines)
  | .bare semicolon => .bare (semicolon.later lines)
  | .braces opening statements closing =>
    .braces (opening.later lines) (statements.later lines) (closing.later lines)
  | .whole assignment => .whole (assignment.later lines)
  | .plain operand => .plain (operand.later lines)
  | .assign target sign value =>
    .assign (target.later lines) (sign.later lines) (value.later lines)
  | .compoundAssign target sign value =>
    .compoundAssign (target.later lines) (sign.later lines) (value.later lines)
  | .single level operand => .single level (operand.later lines)
  | .chain level left operator right =>
    .chain level (left.later lines) (operator.later lines) (right.later lines)
  | .prefixed operator operand => .prefixed (operator.later lines) (operand.later lines)
  | .signed operator operand => .signed (operator.later lines) (operand.later lines)
  | .atom operand => .atom (operand.later lines)
  | .call callee opening closing =>
    .call (callee.later lines) (opening.later lines) (closing.later lines)
  | .callOf callee opening arguments closing =>
    .callOf (callee.later lines) (opening.later lines) (arguments.later lines) (closing.later lines)
  | .reference name => .reference (name.later lines)
  | .integer numeral => .integer (numeral.later lines)
  | .float numeral => .float (numeral.later lines)
  | .string literal => .string (literal.later lines)
  | .group opening expression closing =>
    .group (opening.later lines) (expression.later lines) (closing.later lines)
  | .oneArgument expression => .oneArgument (expression.later lines)
  | .nextArgument arguments comma expression =>
    .nextArgument (arguments.later lines) (comma.later lines) (expression.later lines)

variable {symbol : Symbol} {lines : Int}

/-- What is derived on later lines is written with the tokens on later lines. -/
theorem tokens_later (derivation : Derivation symbol) :
    (derivation.later lines).tokens = derivation.tokens.map (Token.later lines) := by
  induction derivation <;>
    simp only [later, tokens, Leaf.later, List.map_nil, List.map_cons, List.map_append, *]

/-- What is derived from some tokens is as much later as they are. -/
theorem line_later {derivation : Derivation symbol} (ne : derivation.tokens ≠ []) :
    (derivation.later lines).line = derivation.line + lines := by
  obtain ⟨first, rest, tokens_eq⟩ := List.exists_cons_of_ne_nil ne
  rw [line, line, tokens_later, tokens_eq]
  rfl

/-- A name stays a name on a later line. -/
theorem name?_later (derivation : Derivation symbol) :
    (derivation.later lines).name? = derivation.name? := by
  induction derivation with
  | whole _ ih | plain _ ih | single _ _ ih | atom _ ih | group _ _ _ ih => exact ih
  | _ => rfl

end Derivation

/-- What a symbol denotes, on later lines. -/
def Symbol.later (lines : Int) : (symbol : Symbol) → symbol.Meaning → symbol.Meaning
  | start, nodes | statements, nodes | body, nodes | elseBranch, nodes | arguments, nodes =>
    Node.laterAll lines nodes
  | statement, node | empty, node | forStart, node | forTest, node | forStep, node =>
    Node.laterOption lines node
  | functionDeclaration, node | variableDeclaration, node | choice, node | whileLoop, node
  | doLoop, node | forLoop, node | returning, node | breaking, node | continuing, node
  | expression, node | assignment, node | operand _, node | primary, node => node.later lines
  | parameters, names => names

/-- All tokens have the number of a line. -/
def Numbered (tokens : List Token) : Prop :=
  ∀ token ∈ tokens, 1 ≤ token.line

namespace Numbered

variable {token : Token} {tokens more : List Token}

/-- The first of numbered tokens is numbered. -/
theorem head (numbered : Numbered (token :: tokens)) : 1 ≤ token.line :=
  numbered token List.mem_cons_self

/-- The tokens after the first of numbered ones are numbered. -/
theorem tail (numbered : Numbered (token :: tokens)) : Numbered tokens :=
  fun token mem => numbered token (List.mem_cons_of_mem _ mem)

/-- Tokens in front of numbered ones are numbered. -/
theorem left (numbered : Numbered (tokens ++ more)) : Numbered tokens :=
  fun token mem => numbered token (List.mem_append_left _ mem)

/-- Tokens behind numbered ones are numbered. -/
theorem right (numbered : Numbered (tokens ++ more)) : Numbered more :=
  fun token mem => numbered token (List.mem_append_right _ mem)

end Numbered

namespace Derivation

variable {symbol : Symbol} {lines : Int}

/-- What is derived from tokens on later lines denotes the same, on later lines. -/
theorem meaning_later (derivation : Derivation symbol) (after : 0 ≤ lines)
    (numbered : Numbered derivation.tokens) :
    (derivation.later lines).meaning = symbol.later lines derivation.meaning := by
  induction derivation with
  | noStatement | oneParameter | uninitialized | noStart | noTest | noStep | returning | breaking
  | continuing | bare | call | reference | integer | float | string => rfl
  | program _ ih | emptyStatement _ ih | elseBody _ ih | whole _ ih | plain _ ih | single _ _ ih
  | atom _ ih => exact ih numbered
  | functionStatement _ ih | choiceStatement _ ih | whileStatement _ ih | doStatement _ ih
  | forStatement _ ih | returnStatement _ ih | breakStatement _ ih | continueStatement _ ih
  | variableStart _ ih | expressionStart _ ih | testOf _ ih | stepOf _ ih =>
    exact congrArg some (ih numbered)
  | variableStatement _ _ ih | expressionStatement _ _ ih => exact congrArg some (ih numbered.left)
  | oneMore _ _ ih ih' =>
    rw [later, meaning, meaning, ih numbered.left, ih' numbered.right]
    exact (congrArg _ (Node.toList_laterOption _)).trans (Node.laterAll_append _ _).symm
  | blockStatement body ih =>
    rw [later, meaning, meaning, ih numbered, line_later body.tokens_ne_nil_of_body]
    rfl
  | function keyword name _ _ _ ih =>
    exact congrArg (Node.function _ name.token.lexeme []) (ih numbered.tail.tail.tail.tail)
  | functionOf keyword name _ _ _ _ ih ih' =>
    exact congrArg₂ (Node.function _ name.token.lexeme) (ih numbered.tail.tail.tail.left)
      (ih' numbered.tail.tail.tail.right.tail)
  | nextParameter _ _ name ih => exact congrArg (· ++ [name.token.lexeme]) (ih numbered.left)
  | initialized keyword name _ _ ih =>
    exact congrArg (Node.declaration _ name.token.lexeme <| some ·) (ih numbered.tail.tail.tail)
  | ifThen _ _ _ _ _ ih ih' =>
    exact congrArg₂ (Node.conditional _ · · none) (ih numbered.tail.tail.left)
      (ih' numbered.tail.tail.right.tail)
  | ifElse _ _ _ _ _ _ _ ih ih' ih'' =>
    have rest := numbered.tail.tail.right.tail
    rw [later, meaning, meaning, ih numbered.tail.tail.left, ih' rest.left, ih'' rest.right.tail]
    rfl
  | elseChoice _ ih => exact congrArg ([·]) (ih numbered)
  | whileLoop _ _ _ _ _ ih ih' =>
    exact congrArg₂ (Node.whileLoop _) (ih numbered.tail.tail.left)
      (ih' numbered.tail.tail.right.tail)
  | doLoop _ _ _ _ _ _ _ ih ih' =>
    exact congrArg₂ (Node.doLoop _) (ih' numbered.tail.right.tail.tail.left)
      (ih numbered.tail.left)
  | forLoop _ _ _ _ _ _ _ _ _ ih ih' ih'' ihBody =>
    have rest := numbered.tail.tail
    rw [later, meaning, meaning, ih rest.left, ih' rest.right.tail.left,
      ih'' rest.right.tail.right.tail.left, ihBody rest.right.tail.right.tail.right.tail]
    rfl
  | returningOf _ _ _ ih => exact congrArg (Node.returning _ <| some ·) (ih numbered.tail.left)
  | braces _ _ _ ih | group _ _ _ ih => exact ih numbered.tail.left
  | assign target _ _ ih ih' =>
    rw [later, meaning, meaning, ih numbered.left, ih' numbered.right.tail,
      line_later target.tokens_ne_nil_of_operand]
    rfl
  | compoundAssign target _ _ ih ih' =>
    rw [later, meaning, meaning, ih numbered.left, ih' numbered.right.tail,
      line_later target.tokens_ne_nil_of_operand, name?_later]
    rfl
  | chain _ _ operator _ ih ih' =>
    -- an operator without a line would be on that of its operand
    have positive := numbered.right.head
    have here : operator.token.line ≠ 0 := by omega
    have here' : operator.token.line + lines ≠ 0 := by omega
    rw [later, meaning, meaning, ih numbered.left, ih' numbered.right.tail, if_neg here]
    exact congrArg (Node.binary · operator.token.lexeme _ _) (if_neg here')
  | prefixed operator _ ih | signed operator _ ih =>
    exact congrArg (Node.unary _ operator.token.lexeme) (ih numbered.tail)
  | callOf callee _ _ _ ih =>
    exact congrArg (Node.call _ callee.token.lexeme) (ih numbered.tail.tail.left)
  | oneArgument _ ih => exact congrArg ([·]) (ih numbered)
  | nextArgument _ _ _ ih ih' =>
    rw [later, meaning, meaning, ih numbered.left, ih' numbered.right.tail]
    exact (Node.laterAll_append _ [_]).symm

/-- Faults that come one after the other are absent if they are on both sides. -/
theorem append_eq_nil_of {front back front' back' : List Error} (first : front = [] → front' = [])
    (second : back = [] → back' = []) (faultless : front ++ back = []) : front' ++ back' = [] := by
  obtain ⟨front_eq, back_eq⟩ := List.append_eq_nil_iff.mp faultless
  rw [first front_eq, second back_eq, List.append_nil]

/-- Parameters have no lines. -/
theorem parameters_later (parameters : Derivation .parameters) :
    (parameters.later lines).meaning = parameters.meaning := by
  cases parameters with
  | oneParameter name => rfl
  | nextParameter parameters _ name =>
    exact congrArg (· ++ [name.token.lexeme]) (parameters_later parameters)

/-- A target that is a name is one on later lines. -/
theorem targetFaults_later {target : Derivation symbol} (faultless : target.targetFaults = []) :
    (target.later lines).targetFaults = [] := by
  rw [targetFaults, ite_eq_left_iff] at faultless ⊢
  intro unnamed
  rw [name?_later] at unnamed
  cases faultless unnamed

/-- What has a meaning has one on later lines. -/
theorem faults_later {derivation : Derivation symbol} (faultless : derivation.faults = []) :
    (derivation.later lines).faults = [] := by
  -- Faults tell of names only, which have no lines.
  induction derivation with
  | noStatement | oneParameter | nextParameter | uninitialized | noStart | noTest | noStep
  | returning | breaking | continuing | bare | call | reference | integer | float | string => rfl
  | program _ ih | functionStatement _ ih | variableStatement _ _ ih | choiceStatement _ ih
  | whileStatement _ ih | doStatement _ ih | forStatement _ ih | returnStatement _ ih
  | breakStatement _ ih | continueStatement _ ih | blockStatement _ ih
  | expressionStatement _ _ ih | emptyStatement _ ih | function _ _ _ _ _ ih
  | initialized _ _ _ _ ih | elseBody _ ih | elseChoice _ ih | variableStart _ ih
  | expressionStart _ ih | testOf _ ih | stepOf _ ih | returningOf _ _ _ ih | braces _ _ _ ih
  | whole _ ih | plain _ ih | single _ _ ih | prefixed _ _ ih | signed _ _ ih | atom _ ih
  | callOf _ _ _ _ ih | group _ _ _ ih | oneArgument _ ih => exact ih faultless
  | oneMore _ _ ih ih' | ifThen _ _ _ _ _ ih ih' | whileLoop _ _ _ _ _ ih ih'
  | doLoop _ _ _ _ _ _ _ ih ih' | chain _ _ _ _ ih ih' | nextArgument _ _ _ ih ih' =>
    exact append_eq_nil_of ih ih' faultless
  | ifElse _ _ _ _ _ _ _ ih ih' ih'' =>
    exact append_eq_nil_of (append_eq_nil_of ih ih') ih'' faultless
  | forLoop _ _ _ _ _ _ _ _ _ ih ih' ih'' ihBody =>
    exact append_eq_nil_of (append_eq_nil_of (append_eq_nil_of ih ih') ih'') ihBody faultless
  | assign _ _ _ ih ih' | compoundAssign _ _ _ ih ih' =>
    exact append_eq_nil_of (append_eq_nil_of ih ih') targetFaults_later faultless
  | functionOf _ _ _ parameters _ _ _ ih' =>
    refine append_eq_nil_of ih' (fun distinct => ?_) faultless
    rw [parameterFaults, ite_eq_left_iff] at distinct ⊢
    intro repeated
    rw [parameters_later] at repeated
    cases distinct repeated

/-! ## Statements one after the other -/

/-- The statements of two derivations. -/
def append (front : Derivation .statements) : Derivation .statements → Derivation .statements
  | .noStatement => front
  | .oneMore statements statement => .oneMore (front.append statements) statement

/-- The tokens of statements and further ones come in this order. -/
theorem tokens_append (front : Derivation .statements) : (back : Derivation .statements) →
    (front.append back).tokens = front.tokens ++ back.tokens
  | .noStatement => by rw [append, tokens, List.append_nil]
  | .oneMore statements statement => by
    rw [append, tokens, tokens, tokens_append, List.append_assoc]

/-- So do their nodes. -/
theorem meaning_append (front : Derivation .statements) : (back : Derivation .statements) →
    (front.append back).meaning = front.meaning ++ back.meaning
  | .noStatement => by rw [append, meaning, List.append_nil]
  | .oneMore statements statement => by
    rw [append, meaning, meaning, meaning_append, List.append_assoc]

/-- So do their faults. -/
theorem faults_append (front : Derivation .statements) : (back : Derivation .statements) →
    (front.append back).faults = front.faults ++ back.faults
  | .noStatement => by rw [append, faults, List.append_nil]
  | .oneMore statements statement => by
    rw [append, faults, faults, faults_append, List.append_assoc]

end Derivation

/-! ## Programs one after the other -/

section

variable {words tokens : List Token} {lines : Int} {program other : Node}

/-- Tokens before the end of the input belong to the sentence. -/
theorem sentence_append (notEnd : ∀ word ∈ words, word.kind ≠ .endOfInput) :
    sentence (words ++ tokens) = words ++ sentence tokens :=
  List.takeWhile_append_of_pos fun word mem => decide_eq_true (notEnd word mem)

/-- A sentence ends at the same token on later lines. -/
theorem sentence_later (lines : Int) (tokens : List Token) :
    sentence (tokens.map (Token.later lines)) = (sentence tokens).map (Token.later lines) :=
  List.takeWhile_map ..

/-- The numbers of a program are numerals. -/
theorem haveNumerals_of_ofTokens (program_eq : Program.ofTokens tokens = .ok program) :
    HaveNumerals (sentence tokens) := by
  have settled := ofTokens_settled tokens
  rw [program_eq] at settled
  exact settled

/-- The statements of a program are derived, without faults. -/
theorem exists_statements_of_ofTokens (program_eq : Program.ofTokens tokens = .ok program) :
    ∃ statements : Derivation .statements, statements.tokens = sentence tokens ∧
      statements.faults = [] ∧ program = .program 0 statements.meaning := by
  obtain ⟨⟨statements⟩, tokens_eq, faultless, program_eq⟩ := exists_derivation_of_ofTokens program_eq
  exact ⟨statements, tokens_eq, faultless, program_eq⟩

/-- The tokens of a program, followed by those of another one on later lines, are those of a program
with the statements of both. -/
theorem ofTokens_append {last : Token} (notEnd : ∀ word ∈ words, word.kind ≠ .endOfInput)
    (ends : last.kind = .endOfInput) (after : 0 ≤ lines) (numbered : Numbered tokens)
    (program_eq : Program.ofTokens (words ++ [last]) = .ok program)
    (other_eq : Program.ofTokens tokens = .ok other) :
    ∃ body more, program = .program 0 body ∧ other = .program 0 more ∧
      Program.ofTokens (words ++ tokens.map (Token.later lines)) =
        .ok (.program 0 (body ++ more.map (Node.later lines))) := by
  obtain ⟨front, front_eq, front_faultless, rfl⟩ := exists_statements_of_ofTokens program_eq
  obtain ⟨back, back_eq, back_faultless, rfl⟩ := exists_statements_of_ofTokens other_eq
  have numerals := haveNumerals_of_ofTokens program_eq
  have numerals' := haveNumerals_of_ofTokens other_eq
  have words_eq : sentence (words ++ [last]) = words := by
    rw [sentence_append notEnd, sentence, List.takeWhile_cons_of_neg (by simp [ends]),
      List.append_nil]
  rw [words_eq] at front_eq numerals
  -- The tokens of the one derivation and the later ones of the other are those of the whole.
  have whole_eq : (Derivation.program (front.append (back.later lines))).tokens =
      sentence (words ++ tokens.map (Token.later lines)) := by
    rw [Derivation.tokens, Derivation.tokens_append, Derivation.tokens_later, front_eq, back_eq,
      sentence_append notEnd, sentence_later]
  have whole_numerals : HaveNumerals (sentence (words ++ tokens.map (Token.later lines))) := by
    rw [sentence_append notEnd, sentence_later]
    refine List.forall_mem_append.mpr ⟨numerals, List.forall_mem_map.mpr ?_⟩
    exact numerals'
  have back_numbered : Numbered back.tokens := by
    rw [back_eq]
    exact fun token mem => numbered token (List.takeWhile_subset _ mem)
  refine ⟨_, _, rfl, rfl, ?_⟩
  rw [ofTokens_of_derivation _ whole_eq whole_numerals, Derivation.faults, Derivation.meaning,
    Derivation.faults_append, Derivation.meaning_append, front_faultless,
    Derivation.faults_later back_faultless, back.meaning_later after back_numbered,
    ← Node.laterAll_eq_map]
  rfl

end

/-- Programs concatenate: two source texts that are programs are one with a line break between them,
and its statements are those of the first, followed by those of the second with all their nodes as many
lines later as the first text has. -/
theorem ofSource_append {source more : String} {program other : Node}
    (program_eq : Program.ofSource source = .ok program)
    (other_eq : Program.ofSource more = .ok other) :
    ∃ body others, program = .program 0 body ∧ other = .program 0 others ∧
      Program.ofSource (source ++ "\n" ++ more) =
        .ok (.program 0 (body ++ others.map (Node.later (Token.lastLine source)))) := by
  unfold Program.ofSource at program_eq other_eq ⊢
  split at program_eq
  · cases program_eq
  rename_i tokens tokenized
  split at other_eq
  · cases other_eq
  rename_i moreTokens moreTokenized
  obtain ⟨words, notEnd, rfl, goesOn⟩ := Token.exists_words_of_tokenize tokenized
  have numbered : Numbered moreTokens :=
    fun token mem => (forall_mem_of_tokenize moreTokenized token mem).1.1
  rw [goesOn, moreTokenized]
  exact ofTokens_append notEnd rfl (Int.natCast_nonneg _) numbered program_eq other_eq

/-- A choice that could go on with an alternative, and a statement whose sign could go on an expression:
they stay apart, and the statement is on the third line. -/
theorem openChoice_append :
    Program.ofSource "if (a) \x7b\n\x7d\n-b;" =
      .ok (.program 0 [.conditional 1 (.reference 1 "a") [] none,
        .unary 3 "-" (.reference 3 "b")]) := by
  have choice : Program.ofSource "if (a) \x7b\n\x7d" =
      .ok (.program 0 [.conditional 1 (.reference 1 "a") [] none]) := by cbv
  have statement : Program.ofSource "-b;" =
      .ok (.program 0 [.unary 1 "-" (.reference 1 "b")]) := by cbv
  obtain ⟨body, others, body_eq, others_eq, whole⟩ := ofSource_append choice statement
  obtain ⟨-, rfl⟩ := Node.program.inj body_eq
  obtain ⟨-, rfl⟩ := Node.program.inj others_eq
  exact whole

end Grammar

end Scriptlet
