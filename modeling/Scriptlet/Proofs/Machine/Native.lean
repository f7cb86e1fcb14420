import Scriptlet.Proofs.Grammar.Category
import Scriptlet.Proofs.Machine.Operation
import Scriptlet.Proofs.Machine.Within

/-! # Runs of programs that are read from tokens

Every node of a program that is read from tokens has a meaning where it stands, and so has every node
that a run comes to: what is executed is a part of the program, or a part of the body of a function
that the program declares.

Main definitions:

* `Discipline.native`: the discipline of a run that comes to expressions and statements alone.
* `Understood`: what a state is about to do has a meaning, and it has not failed for want of one.

Main statements:

* `Machine.course_understood`: every moment of a run of statements is understood.
* `Program.ofTokens_understood`: so is every moment of a run of a program that tokens denote. -/

namespace Scriptlet

/-- Operands that an operator has no result for have a meaning. -/
theorem Cause.isForeign_of_isOfOperands {cause : Cause} (operands : cause.isOfOperands = true) :
    cause.isForeign = false := by
  cases cause with
  | unknownBinary | unknownUnary | notVariable | notExpression => cases operands
  | _ => rfl

/-! ## The discipline -/

/-- The value of a program that is read: the scope of a function is new, and its body consists of
statements. -/
def Value.IsNative (first : Nat) : Value → Prop
  | .function closure =>
    first ≤ closure.scope.index ∧ ∀ node ∈ closure.body, node.isStatement = true
  | _ => True

/-- A run comes to expressions and statements alone, in scopes of its own. -/
def Discipline.native (first : Nat) : Discipline where
  first := first
  reads scope := first ≤ scope.index
  binds scope := first ≤ scope.index
  admits := Value.IsNative first
  evaluates scope node := first ≤ scope.index ∧ node.isExpression = true
  executes scope node := first ≤ scope.index ∧ node.isStatement = true
  joins operator := operator ∈ Operator.binarySigns
  signs operator := operator ∈ Operator.unarySigns
  tolerates cause := cause.isForeign = false
  reads_of_isNew := id
  binds_of_isNew := id
  admits_of_plain := by
    intro value plain
    cases value with
    | function => cases plain
    | integer | float | text | undefined | builtin | null => trivial
  admits_function := fun native => ⟨native.1, fun _ isNew node mem => ⟨isNew, native.2 node mem⟩⟩
  tolerates_of_native := id
  tolerates_of_joins := fun sign failed =>
    Cause.isForeign_of_isOfOperands (Operator.failsFor_binary _ _ sign _ failed)
  tolerates_of_signs := fun sign failed =>
    Cause.isForeign_of_isOfOperands (Operator.failsFor_unary _ sign _ failed)
  evaluates_reads := And.left
  evaluates_assignment := by
    rintro scope line targetLine name right ⟨isNew, expression⟩
    exact ⟨isNew, isNew, (Node.isExpression_assignment_iff.mp expression).2⟩
  evaluates_target := by
    rintro scope line target right ⟨isNew, expression⟩ other
    have named := (Node.isExpression_assignment_iff.mp expression).1
    cases target with
    | reference targetLine name => exact absurd rfl (other targetLine name)
    | _ => cases named
  evaluates_binary := by
    rintro scope line operator left right other ⟨isNew, expression⟩
    obtain ⟨sign, first, second⟩ := (Node.isExpression_binary_iff other).mp expression
    refine ⟨⟨isNew, first⟩, ⟨isNew, second⟩, fun notAnd notOr => ?_⟩
    -- A sign that leaves no operand out is one of those that are applied to two values.
    refine (List.mem_append.mp sign).resolve_left ?_
    simp [Operator.lazySigns, notAnd, notOr]
  evaluates_unary := by
    rintro scope line operator operand ⟨isNew, expression⟩
    obtain ⟨sign, inner⟩ := Node.isExpression_unary_iff.mp expression
    exact ⟨sign, isNew, inner⟩
  evaluates_call := by
    rintro scope line name arguments ⟨isNew, expression⟩ argument mem
    exact ⟨isNew, Node.isExpression_call_iff.mp expression argument mem⟩
  evaluates_other := by
    rintro scope node ⟨isNew, expression⟩ other
    cases node with
    | integer | float | text | reference | binary | unary | call => cases other
    | _ => cases expression
  executes_reads := And.left
  executes_function := by
    rintro scope line name parameters body ⟨isNew, statement⟩
    exact ⟨isNew, fun _ => ⟨isNew, Node.isStatement_function_iff.mp statement⟩⟩
  executes_declaration := by
    rintro scope line name initializer ⟨isNew, statement⟩
    exact ⟨isNew, fun node mem => ⟨isNew, Node.isStatement_declaration_iff.mp statement node mem⟩⟩
  executes_returning := by
    rintro scope line value ⟨isNew, statement⟩ node mem
    exact ⟨isNew, Node.isStatement_returning_iff.mp statement node mem⟩
  executes_block := by
    rintro scope line body ⟨-, statement⟩ inner isNew node mem
    exact ⟨isNew, Node.isStatement_block_iff.mp statement node mem⟩
  executes_conditional := by
    rintro scope line condition thenBranch elseBranch ⟨isNew, statement⟩
    obtain ⟨test, first, second⟩ := Node.isStatement_conditional_iff.mp statement
    exact ⟨⟨isNew, test⟩, fun _ inside node mem => ⟨inside, first node mem⟩,
      fun branch given _ inside node mem => ⟨inside, second branch given node mem⟩⟩
  executes_whileLoop := by
    rintro scope line condition body ⟨isNew, statement⟩
    obtain ⟨test, inner⟩ := Node.isStatement_whileLoop_iff.mp statement
    exact ⟨⟨isNew, test⟩, fun _ inside node mem => ⟨inside, inner node mem⟩⟩
  executes_doLoop := by
    rintro scope line condition body ⟨isNew, statement⟩
    obtain ⟨test, inner⟩ := Node.isStatement_doLoop_iff.mp statement
    exact ⟨⟨isNew, test⟩, fun _ inside node mem => ⟨inside, inner node mem⟩⟩
  executes_forLoop := by
    rintro scope line start condition step body ⟨-, statement⟩
    obtain ⟨starts, tests, steps, inner⟩ := Node.isStatement_forLoop_iff.mp statement
    exact ⟨fun _ isNew => ⟨fun node mem => ⟨isNew, starts node mem⟩,
      fun node mem => ⟨isNew, tests node mem⟩, fun node mem => ⟨isNew, steps node mem⟩⟩,
      fun _ isNew node mem => ⟨isNew, inner node mem⟩⟩
  executes_expression := by
    rintro scope node ⟨isNew, statement⟩ other
    refine ⟨isNew, ?_⟩
    cases node with
    | program | integer | float | text | reference | binary | unary | call => exact statement
    | _ => cases other

/-! ## Runs -/

/-- What a run is about to do has a meaning, and it has not failed for want of one. -/
structure Understood (state : State) : Prop where
  /-- What is evaluated is an expression: in it, operators have known signs, only names are assigned
  to, and all operands and arguments are expressions. -/
  evaluated : ∀ node scope next, state.control = .evaluating node scope next →
    node.isExpression = true
  /-- What is executed is a statement: in it, conditions, initial values and results are
  expressions. -/
  executed : ∀ node scope next, state.control = .executing node scope next →
    node.isStatement = true
  /-- An error that is being reported is not one of a node without a meaning. -/
  unwound : ∀ (error : Error) (awaited : Awaited) (next : Continuation awaited),
    state.control = .unwinding (.error error) next → error.cause.isForeign = false
  /-- Nor is an error that a run has ended with. -/
  ended : ∀ error, state.control = .halted (some (.error error)) → error.cause.isForeign = false

namespace Machine

variable {settings : Settings} {body : List Node} {machine : Machine}

/-- When a run starts, its scopes are within the discipline. -/
theorem start_conforms (rest : machine.AtRest)
    (statements : ∀ node ∈ body, node.isStatement = true) :
    (State.start body machine).Conforms (.native machine.store.scopes.size) (fun _ _ => False)
      (State.start body machine).machine.store :=
  start_conforms_of rest rfl id fun _ isNew node mem => ⟨isNew, statements node mem⟩

/-- Every moment of a run of statements is understood. -/
theorem course_understood (releases : settings.releases = true) (rest : machine.AtRest)
    (statements : ∀ node ∈ body, node.isStatement = true) (now : Nat) :
    Understood (machine.course settings body now) := by
  obtain ⟨-, permits⟩ := course_conforms releases rest (Nat.zero_le now)
    (fun _ _ _ _ _ _ => id) (start_conforms rest statements)
  refine ⟨?_, ?_, ?_, ?_⟩
  · intro node scope next control
    rw [control] at permits
    exact permits.1.2
  · intro node scope next control
    rw [control] at permits
    exact permits.1.2
  · intro error awaited next control
    rw [control] at permits
    exact permits.1
  · intro error control
    rw [control] at permits
    exact permits (.error error) rfl

end Machine

/-- Tokens that denote a program denote one whose runs are understood from start to end, whatever the
machine has run before. -/
theorem Program.ofTokens_understood {tokens : List Token} {program : Node}
    (program_eq : Program.ofTokens tokens = .ok program) :
    ∃ body, program = .program 0 body ∧
      ∀ (settings : Settings) (machine : Machine), settings.releases = true → machine.AtRest →
        ∀ now, Understood (machine.course settings body now) := by
  obtain ⟨body, rfl, statements⟩ := Grammar.exists_body_of_ofTokens program_eq
  exact ⟨body, rfl, fun settings machine releases rest =>
    Machine.course_understood releases rest statements⟩

/-- The tokens of `function half(n) { return n / 2; } half(-6);` -/
def halvingTokens : List Token :=
  [⟨.keyword .function, "function", 1⟩, ⟨.identifier, "half", 1⟩, ⟨.punctuation, "(", 1⟩,
    ⟨.identifier, "n", 1⟩, ⟨.punctuation, ")", 1⟩, ⟨.punctuation, "\x7b", 1⟩,
    ⟨.keyword .returnWord, "return", 2⟩, ⟨.identifier, "n", 2⟩, ⟨.operator, "/", 2⟩,
    ⟨.integer, "2", 2⟩, ⟨.punctuation, ";", 2⟩, ⟨.punctuation, "\x7d", 3⟩,
    ⟨.identifier, "half", 4⟩, ⟨.punctuation, "(", 4⟩, ⟨.operator, "-", 4⟩, ⟨.integer, "6", 4⟩,
    ⟨.punctuation, ")", 4⟩, ⟨.punctuation, ";", 4⟩, ⟨.endOfInput, "", 5⟩]

/-- A program that divides is understood throughout its run. -/
theorem halvingTokens_understood : ∃ body, Program.ofTokens halvingTokens = .ok (.program 0 body) ∧
    body.length = 2 ∧ ∀ now, Understood (Machine.initial.course .plain body now) := by
  have program_eq : Program.ofTokens halvingTokens = .ok (.program 0
      [.function 1 "half" ["n"]
        [.returning 2 (some (.binary 2 "/" (.reference 2 "n") (.integer 2 2)))],
        .call 4 "half" [.unary 4 "-" (.integer 4 6)]]) := by
    cbv
  obtain ⟨body, same, understood⟩ := Program.ofTokens_understood program_eq
  obtain rfl := (Node.program.inj same).2
  exact ⟨_, program_eq, rfl, understood .plain .initial rfl Machine.atRest_initial⟩

end Scriptlet
