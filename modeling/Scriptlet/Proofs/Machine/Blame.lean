import Scriptlet.Proofs.Grammar.Line
import Scriptlet.Proofs.Machine.Move
import Scriptlet.Proofs.Machine.Within

/-! # The line of an error of an expression

The current line is one for the whole run: every node that is begun changes it, and so do the bodies of
the functions that are called on the way.  It is the line of the right node all the same when an
expression fails.  A node fails with its own step only, which is the first one, or the one for which its
last operand or argument has just got its value; and both make the line of the node the current one.

Main definitions: `Machine.OwnStep`, the steps in which a name is looked up, an operator or a function
is applied, or a node is found to have no value.

Main statements: `Machine.run_blames_own_step`, an error of an expression is blamed on the line of the
node whose own step failed. -/

namespace Scriptlet

/-- The awaited value is the last one that an operator or a function needs. -/
def Continuation.isLast {awaited : Awaited} : Continuation awaited → Bool
  | .rightOperand .. | .operand .. | .argument _ _ _ [] _ _ => true
  | _ => false

/-- What waits for its last operand waits for its operator. -/
theorem Continuation.isPending_of_isLast {awaited : Awaited} {next : Continuation awaited}
    (last : next.isLast = true) : next.isPending = true := by
  cases next with
  | rightOperand | operand | argument => rfl
  | _ => cases last

namespace Machine

variable {settings : Settings} {body : List Node} {machine : Machine} {moment : Nat} {node : Node}

/-- At a moment of a run, the next step is the own one of a node. -/
inductive OwnStep (settings : Settings) (body : List Node) (machine : Machine) (moment : Nat) :
    Node → Prop
  /-- The node begins to be evaluated. -/
  | begins {node : Node} {scope : Handle} {next : Continuation .value}
      (evaluates : (machine.course settings body moment).control = .evaluating node scope next) :
      OwnStep settings body machine moment node
  /-- The node began before and has waited for its operator or its function ever since, and the last
  value that it needs is there. -/
  | applies {node : Node} {scope : Handle} {next part : Continuation .value} {value : Value}
      (delivers : (machine.course settings body moment).control = .delivering value part)
      (last : part.isLast = true) (stems : part.Stems node scope next)
      (pending : machine.Pending settings body moment node scope next) :
      OwnStep settings body machine moment node

namespace OwnStep

/-- The own step of a node makes its line the current one. -/
theorem lineAfter_eq (own : machine.OwnStep settings body moment node) (nonzero : node.line ≠ 0) :
    (machine.course settings body moment).lineAfter = node.line := by
  cases own with
  | begins evaluates =>
    generalize machine.course settings body moment = state at evaluates
    obtain ⟨between, control⟩ := state
    cases evaluates
    exact between.markedLine_of_ne nonzero
  | applies delivers last stems pending =>
    -- with the last value, the line of the node that waits is made the current one again
    generalize machine.course settings body moment = state at delivers
    obtain ⟨between, control⟩ := state
    cases delivers
    cases stems with
    | leftOperand => cases last
    | rightOperand | operand => exact between.markedLine_of_ne nonzero
    | @argument line callee name finished earlier rest awaited scope next progress =>
      cases rest with
      | cons later rest => cases last
      | nil => exact between.markedLine_of_ne nonzero

/-- A node that takes its own step is one of the program. -/
theorem all (own : machine.OwnStep settings body moment node) (releases : settings.releases = true)
    (rest : machine.AtRest) {property : Node → Prop} (all : ∀ node ∈ body, node.All property) :
    node.All property := by
  cases own with
  | begins evaluates => exact all_of_evaluating releases rest all evaluates
  | applies delivers last stems pending =>
    obtain ⟨began, before, evaluates, -⟩ := pending
    exact all_of_evaluating releases rest all evaluates

end OwnStep

/-- If the last value is there that an operator or a function needs, the next step is that of the node
that waits for it. -/
theorem exists_ownStep_of_delivering (releases : settings.releases = true) (rest : machine.AtRest)
    {value : Value} {part : Continuation .value}
    (delivers : (machine.course settings body moment).control = .delivering value part)
    (last : part.isLast = true) : ∃ node, machine.OwnStep settings body moment node := by
  have mem : (⟨.value, part⟩ : Part) ∈ (machine.course settings body moment).control.parts := by
    rw [delivers]
    exact List.mem_cons_self
  obtain ⟨node, scope, next, stems, pending⟩ :=
    course_pending releases rest mem (Continuation.isPending_of_isLast last)
  exact ⟨node, .applies delivers last stems pending⟩

/-- A step that raises an error is the own step of a node, unless the error is one of a jump. -/
theorem exists_ownStep_of_raises (releases : settings.releases = true) (rest : machine.AtRest)
    {cause : Cause} (raises : (machine.course settings body moment).Raises settings cause)
    (expressed : cause.kind ≠ .controlFlow) :
    ∃ node, machine.OwnStep settings body moment node := by
  have begins : ∀ {node : Node} {scope : Handle} {next : Continuation .value},
      (machine.course settings body moment).control = .evaluating node scope next →
      ∃ node, machine.OwnStep settings body moment node :=
    fun evaluates => ⟨_, .begins evaluates⟩
  have applies : ∀ {value : Value} {part : Continuation .value},
      (machine.course settings body moment).control = .delivering value part →
      part.isLast = true → ∃ node, machine.OwnStep settings body moment node :=
    exists_ownStep_of_delivering releases rest
  generalize machine.course settings body moment = state at raises begins applies
  -- an error is raised when a node begins, or when the last value is there that it waits for
  cases raises with
  | unbound | target | misplaced | missing | callee | arity => exact begins rfl
  | joined | signed => exact applies rfl rfl
  | deep calls _ | crowded calls =>
    cases calls with
    | direct => exact begins rfl
    | passed => exact applies rfl rfl
  | stray | escaped => exact absurd rfl expressed

/-- Where all nodes have lines, an error that a run ends with is blamed on the line of the node whose
own step failed, unless it is one of a jump. -/
theorem exists_ownStep_of_run (releases : settings.releases = true) (rest : machine.AtRest)
    (lined : ∀ node ∈ body, node.All (·.line ≠ 0)) {steps : Nat} {error : Error}
    (failed : (machine.run settings steps body).1 = .failed (.error error))
    (expressed : error.cause.kind ≠ .controlFlow) :
    ∃ moment < steps, machine.Fails settings body moment error ∧
      ∃ node, machine.OwnStep settings body moment node ∧ error.line = node.line := by
  obtain ⟨moment, before, fails, line_eq⟩ := exists_fails_of_run releases rest failed
  obtain ⟨node, own⟩ := exists_ownStep_of_raises releases rest fails.raises expressed
  refine ⟨moment, before, fails, node, own, ?_⟩
  rw [line_eq]
  exact own.lineAfter_eq (own.all releases rest lined).here

/-- All nodes of a program that is read from a source text have lines, the program itself aside.  And
whenever all nodes have lines, an error that a run ends with is blamed on the line of the node whose
own step failed, unless it is one of a jump.  It does not matter which lines the operands and the
arguments of that node are on, and the bodies of the functions that have been called for them. -/
theorem run_blames_own_step :
    (∀ source program, Program.ofSource source = .ok program →
      ∃ body, program = .program 0 body ∧ ∀ node ∈ body, node.All (·.line ≠ 0)) ∧
    ∀ (settings : Settings) (machine : Machine), settings.releases = true → machine.AtRest →
      ∀ body, (∀ node ∈ body, node.All (·.line ≠ 0)) → ∀ steps error,
        (machine.run settings steps body).1 = .failed (.error error) →
        error.cause.kind ≠ .controlFlow →
        ∃ moment < steps, machine.Fails settings body moment error ∧
          ∃ node, machine.OwnStep settings body moment node ∧ error.line = node.line := by
  refine ⟨fun source program program_eq => ?_, ?_⟩
  · obtain ⟨body, rfl, lined⟩ := Grammar.ofSource_lined program_eq
    exact ⟨body, rfl, fun node mem => (lined node mem).mono fun inner within => by omega⟩
  · intro settings machine releases rest body lined steps error failed expressed
    exact exists_ownStep_of_run releases rest lined failed expressed

/-- A program in which the difference of a number and a function is taken, both on lines of their own,
after the function has been called for the number. -/
def differenceProgram : List Node :=
  [.function 1 "half" ["n"] [.returning 2 (some (.binary 2 "/" (.reference 2 "n") (.integer 2 2)))],
    .binary 5 "-" (.call 4 "half" [.integer 4 6]) (.reference 6 "half")]

/-- A subtraction of a function is blamed on the line of the operator. -/
theorem differenceProgram_blames_own_step :
    (initial.run .plain 40 differenceProgram).1 =
        .failed (.error ⟨.arithmeticOperands "-" "integer" "function", 5⟩) ∧
      ∃ moment < 40, initial.Fails .plain differenceProgram moment
          ⟨.arithmeticOperands "-" "integer" "function", 5⟩ ∧
        ∃ node, initial.OwnStep .plain differenceProgram moment node ∧ 5 = node.line := by
  have source : Program.ofSource "function half(n) \x7b\nreturn n / 2;\n\x7d\nhalf(6)\n-\nhalf;" =
      .ok (.program 0 differenceProgram) := by
    cbv
  have failed : (initial.run .plain 40 differenceProgram).1 =
      .failed (.error ⟨.arithmeticOperands "-" "integer" "function", 5⟩) := by
    decide +kernel
  obtain ⟨body, same, lined⟩ := run_blames_own_step.1 _ _ source
  obtain rfl := (Node.program.inj same).2
  exact ⟨failed, run_blames_own_step.2 .plain initial rfl atRest_initial _ lined _ _ failed
    (by decide)⟩

end Machine

end Scriptlet
