import Scriptlet.Proofs.Machine.Course

/-! # Expressions that come to a value wherever they stand

An expression without names comes to the same value in the same number of steps, whatever the
machine has done so far and whatever is to be done after it.

Main definitions:

* `Node.Lined`: a node is on a line that a trace can mention.
* `Node.Gives`: an expression comes to such a value, and prints such lines on the way.

Main statements: `Node.gives_integer`, `Node.gives_text`, `Node.Gives.unary` and `Node.Gives.print`,
one for each kind of expression, and `Machine.run_of_gives`, for a program that is one call. -/

namespace Scriptlet

open Scriptlet.Action

/-- The machine once a line has been marked. -/
def Machine.marked (machine : Machine) (line : Int) : Machine :=
  if line = 0 then machine else { machine with line }

/-- Marking a line prints nothing. -/
@[simp] theorem Machine.printed_marked (machine : Machine) (line : Int) :
    (machine.marked line).printed = machine.printed := by
  unfold marked
  split <;> rfl

/-- The machine once the evaluation of a node has begun. -/
def Machine.entered (machine : Machine) (settings : Settings) (node : Node) : Machine :=
  let marked := machine.marked node.line
  if ((Event.evaluated marked.line node.typeName).level : Int) ≤ settings.verbosity then
    { marked with traced := .evaluated marked.line node.typeName :: marked.traced }
  else marked

/-- Entering a node prints nothing. -/
@[simp] theorem Machine.printed_entered (machine : Machine) (settings : Settings) (node : Node) :
    (machine.entered settings node).printed = machine.printed := by
  simp only [entered]
  split <;> simp

/-- A node is on a line that a trace can mention. -/
structure Node.Lined (node : Node) : Prop where
  nonzero : node.line ≠ 0
  writable : Decimal.isWritable node.line = true

/-- Every node on the first line is on a line that a trace can mention. -/
theorem Node.lined_of_line_eq_one {node : Node} (first : node.line = 1) : node.Lined := by
  constructor
  · rw [first]
    decide
  · rw [first]
    decide +kernel

/-- Nothing keeps the evaluation of a node from beginning that is on a line that a trace can
mention. -/
theorem State.after_enter {node : Node} {awaited : Awaited} {fallback : Continuation awaited}
    {following : Unit → Action Control} (lined : node.Lined) (settings : Settings)
    (machine : Machine) :
    after machine fallback (mark node.line >>= fun _ => currentLine >>= fun line =>
      record settings (.evaluated line node.typeName) >>= following) =
        after (machine.entered settings node) fallback (following ()) := by
  have line_eq : (machine.marked node.line).line = node.line := by
    rw [Machine.marked, if_neg lined.nonzero]
  have recorded : record settings (.evaluated (machine.marked node.line).line node.typeName)
      (machine.marked node.line) = .ok () (machine.entered settings node) := by
    simp only [record, Machine.entered, Event.isWritable, line_eq, lined.writable, if_true]
    split <;> rfl
  exact (after_bind rfl).trans ((after_bind rfl).trans (after_bind recorded))

namespace Node

/-- An expression comes to a value in a number of steps, wherever it stands, and prints lines on the
way, which are given last first. -/
def Gives (settings : Settings) (node : Node) (steps : Nat) (value : Value)
    (lines : List String) : Prop :=
  ∀ (machine : Machine) (scope : Handle) (next : Continuation .value), ∃ after : Machine,
    State.advance settings steps ⟨machine, .evaluating node scope next⟩ =
        ⟨after, .delivering value next⟩ ∧
      after.printed = lines ++ machine.printed

variable {settings : Settings} {steps : Nat} {value result : Value} {lines : List String}
  {line : Int}

/-- An integer literal comes to its value, wrapped. -/
theorem gives_integer (settings : Settings) {value : Int} (lined : (integer line value).Lined) :
    (integer line value).Gives settings 1 (.integer (Word.wrap value)) [] := by
  intro machine scope next
  exact ⟨machine.entered settings (.integer line value), State.after_enter lined settings machine,
    by simp⟩

/-- A text literal comes to its text. -/
theorem gives_text (settings : Settings) {value : String} (lined : (text line value).Lined) :
    (text line value).Gives settings 1 (.text value) [] := by
  intro machine scope next
  exact ⟨machine.entered settings (.text line value), State.after_enter lined settings machine,
    by simp⟩

/-- An operator in front of an expression is applied to its value. -/
theorem Gives.unary {operand : Node} {operator : String}
    (gives : operand.Gives settings steps value lines)
    (lined : (Node.unary line operator operand).Lined)
    (result_eq : Operator.unary operator value = .ok result) :
    (Node.unary line operator operand).Gives settings (steps + 2) result lines := by
  intro machine scope next
  obtain ⟨between, run, printed⟩ := gives (machine.entered settings (.unary line operator operand))
    scope (.operand line operator next)
  have begun : State.step settings ⟨machine, .evaluating (.unary line operator operand) scope next⟩ =
      ⟨machine.entered settings (.unary line operator operand),
        .evaluating operand scope (.operand line operator next)⟩ :=
    State.after_enter lined settings machine
  refine ⟨between.marked line, ?_, by simpa using printed⟩
  show State.advance settings (steps + 1) (State.step settings _) = _
  rw [begun, State.advance_succ, run]
  show State.after between _ (mark line >>= fun _ => ofProblem (Operator.unary operator value) >>=
    fun value => pure (.delivering value next)) = _
  rw [result_eq]
  rfl

/-- The text of the value of an expression is printed, after what its evaluation prints. -/
theorem Gives.print {argument : Node} (known : settings.builtin? "print" = some .print)
    (gives : argument.Gives settings steps value lines)
    (lined : (Node.call line "print" [argument]).Lined) :
    (Node.call line "print" [argument]).Gives settings (steps + 2) .undefined
      (value.print :: lines) := by
  intro machine scope next
  obtain ⟨between, run, printed⟩ := gives (machine.entered settings (.call line "print" [argument]))
    scope (.argument line (.builtin .print) [] [] scope next)
  have begun : State.step settings
      ⟨machine, .evaluating (.call line "print" [argument]) scope next⟩ =
        ⟨machine.entered settings (.call line "print" [argument]),
          .evaluating argument scope (.argument line (.builtin .print) [] [] scope next)⟩ := by
    refine (State.after_enter lined settings machine).trans ?_
    simp only [State.beginCall, known]
    rfl
  refine ⟨{ between.marked line with printed := value.print :: between.printed }, ?_, ?_⟩
  -- The last step passes the only argument, which is printed.
  · show State.advance settings (steps + 1) (State.step settings _) = _
    rw [begun, State.advance_succ, run]
    show (⟨{ between.marked line with
      printed := value.print :: (between.marked line).printed }, _⟩ : State) = _
    rw [Machine.printed_marked]
  · rw [Machine.printed_entered] at printed
    exact congrArg (value.print :: ·) printed

end Node

/-- A program that is one call ends once the call has a value, within four more steps than that
takes. -/
theorem Machine.run_of_gives {settings : Settings} {name : String} {arguments : List Node}
    {line : Int} {steps : Nat} {value : Value} {lines : List String}
    (gives : (Node.call line name arguments).Gives settings steps value lines) {limit : Nat}
    (enough : steps + 4 ≤ limit) (machine : Machine) :
    (machine.run settings limit [.call line name arguments]).1 = .ended ∧
      (machine.run settings limit [.call line name arguments]).2.printed =
        lines ++ machine.printed := by
  let root := (machine.store.createRoot Store.rootName).1
  let started : Machine :=
    { machine with store := (machine.store.createRoot Store.rootName).2, root := some root, line }
  obtain ⟨between, run, printed⟩ :=
    gives (started.marked line) root (.discarding (.program [] root))
  -- Two steps lead into the call, and two from its value to the end of the run.
  have halted : (State.start [.call line name arguments] machine).advance settings (steps + 4) =
      ⟨{ between with store := between.store.clear, root := none }, .halted none⟩ := by
    show State.advance settings (steps + 2) ⟨started.marked line,
      .evaluating (.call line name arguments) root (.discarding (.program [] root))⟩ = _
    rw [State.advance_succ, State.advance_succ, run]
    rfl
  have last := State.advance_of_isHalted enough (by rw [halted]; rfl)
  rw [halted] at last
  simp only [Machine.run, last]
  refine ⟨rfl, ?_⟩
  rw [Machine.printed_marked] at printed
  exact printed

end Scriptlet
