import Scriptlet.Proofs.Grammar.Derivation

/-! # The grammar sees classes of tokens only

A derivation does not look into its tokens: what is derived stays derived when each token is replaced
by one of the same class.  Whether tokens are those of a program therefore depends on their classes
alone.

Main definitions:

* `Relabels`: tokens whose classes settle that something is derived.

Main results:

* `Derivation.relabels`: the classes of derived tokens settle that they are derived. -/

namespace Scriptlet.Grammar

/-- Whatever is of the classes of the tokens is derived. -/
def Relabels (Derived : List Token → Prop) (tokens : List Token) : Prop :=
  ∀ other : List Token, other.map Terminal.ofToken? = tokens.map Terminal.ofToken? → Derived other

namespace Relabels

variable {Derived : List Token → Prop} {tokens more : List Token}

/-- No tokens are relabelled as none. -/
theorem nil (derived : Derived []) : Relabels Derived [] := by
  intro other same
  rw [List.map_nil, List.map_eq_nil_iff] at same
  exact same ▸ derived

/-- The first token may be any other of its class. -/
theorem leaf {terminal : Terminal} {first : Leaf terminal}
    (rest : ∀ leaf : Leaf terminal, Relabels (fun other => Derived (leaf.token :: other)) tokens) :
    Relabels Derived (first.token :: tokens) := by
  intro other same
  cases other with
  | nil => cases same
  | cons token other =>
    rw [List.map_cons, List.map_cons, List.cons.injEq, first.ofToken?_eq] at same
    exact rest ⟨token, same.1⟩ other same.2

/-- The first tokens may be those of any other derivation of their symbol. -/
theorem part {symbol : Symbol}
    (first : Relabels (fun other => ∃ derivation : Derivation symbol, derivation.tokens = other)
      tokens)
    (rest : ∀ derivation : Derivation symbol,
      Relabels (fun other => Derived (derivation.tokens ++ other)) more) :
    Relabels Derived (tokens ++ more) := by
  intro other same
  rw [List.map_append, List.map_eq_append_iff] at same
  obtain ⟨before, after, rfl, same_before, same_after⟩ := same
  obtain ⟨derivation, rfl⟩ := first before same_before
  exact rest derivation after same_after

/-- All the tokens may be those of any other derivation of their symbol. -/
theorem last {symbol : Symbol}
    (first : Relabels (fun other => ∃ derivation : Derivation symbol, derivation.tokens = other)
      tokens)
    (rest : ∀ derivation : Derivation symbol, Derived derivation.tokens) :
    Relabels Derived tokens := by
  intro other same
  obtain ⟨derivation, rfl⟩ := first other same
  exact rest derivation

/-- The only token may be any other of its class. -/
theorem single {terminal : Terminal} {first : Leaf terminal}
    (rest : ∀ leaf : Leaf terminal, Derived [leaf.token]) : Relabels Derived [first.token] :=
  leaf fun leaf => nil (rest leaf)

end Relabels

/-- The classes of derived tokens settle that they are derived.  Each production takes the tokens of
its parts over one by one. -/
theorem Derivation.relabels {symbol : Symbol} (derivation : Derivation symbol) :
    Relabels (fun other => ∃ derivation : Derivation symbol, derivation.tokens = other)
      derivation.tokens := by
  -- the induction hypotheses replace the parts, and single tokens are replaced by any of their class
  induction derivation with
  | program _ ih => exact .last ih fun statements => ⟨.program statements, rfl⟩
  | noStatement => exact .nil ⟨.noStatement, rfl⟩
  | oneMore _ _ ih ih' =>
    exact .part ih fun statements => .last ih' fun statement => ⟨.oneMore statements statement, rfl⟩
  | functionStatement _ ih => exact .last ih fun declaration => ⟨.functionStatement declaration, rfl⟩
  | variableStatement _ _ ih =>
    exact .part ih fun declaration => .single fun semicolon =>
      ⟨.variableStatement declaration semicolon, rfl⟩
  | choiceStatement _ ih => exact .last ih fun choice => ⟨.choiceStatement choice, rfl⟩
  | whileStatement _ ih => exact .last ih fun loop => ⟨.whileStatement loop, rfl⟩
  | doStatement _ ih => exact .last ih fun loop => ⟨.doStatement loop, rfl⟩
  | forStatement _ ih => exact .last ih fun loop => ⟨.forStatement loop, rfl⟩
  | returnStatement _ ih => exact .last ih fun jump => ⟨.returnStatement jump, rfl⟩
  | breakStatement _ ih => exact .last ih fun jump => ⟨.breakStatement jump, rfl⟩
  | continueStatement _ ih => exact .last ih fun jump => ⟨.continueStatement jump, rfl⟩
  | blockStatement _ ih => exact .last ih fun body => ⟨.blockStatement body, rfl⟩
  | expressionStatement _ _ ih =>
    exact .part ih fun expression => .single fun semicolon =>
      ⟨.expressionStatement expression semicolon, rfl⟩
  | emptyStatement _ ih => exact .last ih fun empty => ⟨.emptyStatement empty, rfl⟩
  | function keyword name opening closing _ ih =>
    exact .leaf fun keyword => .leaf fun name => .leaf fun opening => .leaf fun closing =>
      .last ih fun body => ⟨.function keyword name opening closing body, rfl⟩
  | functionOf keyword name opening _ closing _ ih ih' =>
    exact .leaf fun keyword => .leaf fun name => .leaf fun opening => .part ih fun parameters =>
      .leaf fun closing => .last ih' fun body =>
        ⟨.functionOf keyword name opening parameters closing body, rfl⟩
  | oneParameter name => exact .single fun name => ⟨.oneParameter name, rfl⟩
  | nextParameter _ comma name ih =>
    exact .part ih fun parameters => .leaf fun comma => .single fun name =>
      ⟨.nextParameter parameters comma name, rfl⟩
  | uninitialized keyword name =>
    exact .leaf fun keyword => .single fun name => ⟨.uninitialized keyword name, rfl⟩
  | initialized keyword name sign _ ih =>
    exact .leaf fun keyword => .leaf fun name => .leaf fun sign => .last ih fun value =>
      ⟨.initialized keyword name sign value, rfl⟩
  | ifThen keyword opening _ closing _ ih ih' =>
    exact .leaf fun keyword => .leaf fun opening => .part ih fun condition =>
      .leaf fun closing => .last ih' fun body =>
        ⟨.ifThen keyword opening condition closing body, rfl⟩
  | ifElse keyword opening _ closing _ otherwise _ ih ih' ih'' =>
    exact .leaf fun keyword => .leaf fun opening => .part ih fun condition =>
      .leaf fun closing => .part ih' fun body => .leaf fun otherwise =>
        .last ih'' fun alternative =>
          ⟨.ifElse keyword opening condition closing body otherwise alternative, rfl⟩
  | elseBody _ ih => exact .last ih fun body => ⟨.elseBody body, rfl⟩
  | elseChoice _ ih => exact .last ih fun choice => ⟨.elseChoice choice, rfl⟩
  | whileLoop keyword opening _ closing _ ih ih' =>
    exact .leaf fun keyword => .leaf fun opening => .part ih fun condition =>
      .leaf fun closing => .last ih' fun body =>
        ⟨.whileLoop keyword opening condition closing body, rfl⟩
  | doLoop keyword _ test opening _ closing semicolon ih ih' =>
    exact .leaf fun keyword => .part ih fun body => .leaf fun test => .leaf fun opening =>
      .part ih' fun condition => .leaf fun closing => .single fun semicolon =>
        ⟨.doLoop keyword body test opening condition closing semicolon, rfl⟩
  | forLoop keyword opening _ afterStart _ afterTest _ closing _ ih ih' ih'' ihBody =>
    exact .leaf fun keyword => .leaf fun opening => .part ih fun first => .leaf fun afterStart =>
      .part ih' fun condition => .leaf fun afterTest => .part ih'' fun step =>
        .leaf fun closing => .last ihBody fun body =>
          ⟨.forLoop keyword opening first afterStart condition afterTest step closing body, rfl⟩
  | noStart => exact .nil ⟨.noStart, rfl⟩
  | variableStart _ ih => exact .last ih fun declaration => ⟨.variableStart declaration, rfl⟩
  | expressionStart _ ih => exact .last ih fun expression => ⟨.expressionStart expression, rfl⟩
  | noTest => exact .nil ⟨.noTest, rfl⟩
  | testOf _ ih => exact .last ih fun expression => ⟨.testOf expression, rfl⟩
  | noStep => exact .nil ⟨.noStep, rfl⟩
  | stepOf _ ih => exact .last ih fun expression => ⟨.stepOf expression, rfl⟩
  | returning keyword semicolon =>
    exact .leaf fun keyword => .single fun semicolon => ⟨.returning keyword semicolon, rfl⟩
  | returningOf keyword _ semicolon ih =>
    exact .leaf fun keyword => .part ih fun value => .single fun semicolon =>
      ⟨.returningOf keyword value semicolon, rfl⟩
  | breaking keyword semicolon =>
    exact .leaf fun keyword => .single fun semicolon => ⟨.breaking keyword semicolon, rfl⟩
  | continuing keyword semicolon =>
    exact .leaf fun keyword => .single fun semicolon => ⟨.continuing keyword semicolon, rfl⟩
  | bare semicolon => exact .single fun semicolon => ⟨.bare semicolon, rfl⟩
  | braces opening _ closing ih =>
    exact .leaf fun opening => .part ih fun statements => .single fun closing =>
      ⟨.braces opening statements closing, rfl⟩
  | whole _ ih => exact .last ih fun assignment => ⟨.whole assignment, rfl⟩
  | plain _ ih => exact .last ih fun operand => ⟨.plain operand, rfl⟩
  | assign _ sign _ ih ih' =>
    exact .part ih fun target => .leaf fun sign => .last ih' fun value =>
      ⟨.assign target sign value, rfl⟩
  | compoundAssign _ sign _ ih ih' =>
    exact .part ih fun target => .leaf fun sign => .last ih' fun value =>
      ⟨.compoundAssign target sign value, rfl⟩
  | single level _ ih => exact .last ih fun operand => ⟨.single level operand, rfl⟩
  | chain level _ operator _ ih ih' =>
    exact .part ih fun left => .leaf fun operator => .last ih' fun right =>
      ⟨.chain level left operator right, rfl⟩
  | prefixed operator _ ih =>
    exact .leaf fun operator => .last ih fun operand => ⟨.prefixed operator operand, rfl⟩
  | signed operator _ ih =>
    exact .leaf fun operator => .last ih fun operand => ⟨.signed operator operand, rfl⟩
  | atom _ ih => exact .last ih fun operand => ⟨.atom operand, rfl⟩
  | call callee opening closing =>
    exact .leaf fun callee => .leaf fun opening => .single fun closing =>
      ⟨.call callee opening closing, rfl⟩
  | callOf callee opening _ closing ih =>
    exact .leaf fun callee => .leaf fun opening => .part ih fun arguments =>
      .single fun closing => ⟨.callOf callee opening arguments closing, rfl⟩
  | reference name => exact .single fun name => ⟨.reference name, rfl⟩
  | integer numeral => exact .single fun numeral => ⟨.integer numeral, rfl⟩
  | float numeral => exact .single fun numeral => ⟨.float numeral, rfl⟩
  | string literal => exact .single fun literal => ⟨.string literal, rfl⟩
  | group opening _ closing ih =>
    exact .leaf fun opening => .part ih fun expression => .single fun closing =>
      ⟨.group opening expression closing, rfl⟩
  | oneArgument _ ih => exact .last ih fun expression => ⟨.oneArgument expression, rfl⟩
  | nextArgument _ comma _ ih ih' =>
    exact .part ih fun arguments => .leaf fun comma => .last ih' fun expression =>
      ⟨.nextArgument arguments comma expression, rfl⟩

end Scriptlet.Grammar
