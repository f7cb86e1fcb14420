import Scriptlet.Proofs.Machine.Discipline
import Scriptlet.Proofs.Machine.Origin
import Scriptlet.Proofs.Machine.Stay

/-! # What a step does

A step begins a part of what it takes apart, goes on with what is left to do, or raises an error.
Each way to do so is said once here, together with the line that is the current one after the step;
what holds of all runs follows from it case by case, without another look at the actions.

Main definitions:

* `State.lineAfter`: the current line after the next step.
* `State.Raises`: the causes for which the next step may raise an error.
* `State.Stifles`: the next step has an integer to write that cannot be written.
* `State.Moves`: what the next step may come to otherwise.
* `State.Steps`: what a step is.

* `Machine.Fails`: a step of a run raises an error.

Main statements: `State.step_steps` for a step, and `Machine.exists_fails` and
`Machine.exists_stifles` for the failures of a run. -/

namespace Scriptlet

/-! ## Nodes and loops -/

/-- Whether the value of a node, once nothing inside it is left to do, is there on the node's own
line: it is a literal, a name or a call. -/
def Node.isAtomic : Node → Bool
  | integer .. | float .. | text .. | reference .. | call .. => true
  | _ => false

/-- What a loop that goes on with its test comes to. -/
inductive Loop.Tests (loop : Loop) (next : Continuation .completion) : Control → Prop
  | test {condition : Node} (given : loop.condition = some condition) :
      Tests loop next (.evaluating condition loop.scope (.testing condition.line loop next))
  | round {inner : Handle} :
      Tests loop next (State.inSequence loop.body inner (.leaving inner (.looping loop next)))

namespace State

/-- The current line after the next step, unless the step ends the run. -/
def lineAfter : State → Int
  | ⟨machine, .evaluating node _ _⟩ => machine.markedLine node.line
  | ⟨machine, .executing node _ _⟩ => machine.markedLine node.line
  | ⟨machine, .delivering _ (.rightOperand line _ _ _)⟩ => machine.markedLine line
  | ⟨machine, .delivering _ (.operand line _ _)⟩ => machine.markedLine line
  | ⟨machine, .delivering _ (.argument line _ _ [] _ _)⟩ => machine.markedLine line
  | ⟨_, .completing .normal (.calling _ _ _ callerLine _)⟩ => callerLine
  | ⟨_, .completing (.returned _) (.calling _ _ _ callerLine _)⟩ => callerLine
  | ⟨_, .completing .normal (.program (node :: _) _)⟩ => node.line
  | ⟨machine, _⟩ => machine.line

/-! ## Errors -/

/-- The causes for which the next step may raise an error. -/
inductive Raises (settings : Settings) : State → Cause → Prop
  /-- A name is looked up that is bound nowhere. -/
  | unbound {machine : Machine} {line : Int} {name : String} {scope : Handle}
      {next : Continuation .value} :
      Raises settings ⟨machine, .evaluating (.reference line name) scope next⟩ (.unbound name)
  /-- Something is assigned to that is no name. -/
  | target {machine : Machine} {line : Int} {target right : Node} {scope : Handle}
      {next : Continuation .value}
      (other : ∀ targetLine name, target ≠ .reference targetLine name) :
      Raises settings ⟨machine, .evaluating (.binary line "=" target right) scope next⟩ .notVariable
  /-- A node is evaluated that is no expression. -/
  | misplaced {machine : Machine} {node : Node} {scope : Handle} {next : Continuation .value}
      (foreign : node.isEvaluable = false) :
      Raises settings ⟨machine, .evaluating node scope next⟩ (.notExpression node.typeName)
  /-- A function is called by a name that is bound nowhere. -/
  | missing {machine : Machine} {line : Int} {name : String} {arguments : List Node}
      {scope : Handle} {next : Continuation .value} :
      Raises settings ⟨machine, .evaluating (.call line name arguments) scope next⟩ (.unbound name)
  /-- A value is called that is no function. -/
  | callee {machine : Machine} {line : Int} {name : String} {arguments : List Node}
      {scope : Handle} {next : Continuation .value} {value : Value}
      (other : ∀ closure, value ≠ .function closure) :
      Raises settings ⟨machine, .evaluating (.call line name arguments) scope next⟩
        (.notCallable name value.typeName)
  /-- A function is called with the wrong number of arguments. -/
  | arity {machine : Machine} {line : Int} {name function : String} {arguments : List Node}
      {scope : Handle} {next : Continuation .value} {expected : Nat}
      (wrong : arguments.length ≠ expected) :
      Raises settings ⟨machine, .evaluating (.call line name arguments) scope next⟩
        (.wrongArity function expected arguments.length)
  /-- A declared function is called beyond the limit on nested calls. -/
  | deep {before : State} {line limit : Int} {closure : Closure}
      (calls : before.Calls settings line closure) (limited : settings.depthLimit = some limit) :
      Raises settings before (.tooDeep limit closure.name)
  /-- A declared function is called for which there is no room. -/
  | crowded {before : State} {line : Int} {closure : Closure}
      (calls : before.Calls settings line closure) : Raises settings before .noRoom
  /-- An operator is applied to two values that it has no result for. -/
  | joined {machine : Machine} {line : Int} {operator : String} {left right : Value}
      {next : Continuation .value} {cause : Cause}
      (failed : Operator.binary operator left right = .error (.error cause)) :
      Raises settings ⟨machine, .delivering right (.rightOperand line operator left next)⟩ cause
  /-- An operator is applied to a value that it has no result for. -/
  | signed {machine : Machine} {line : Int} {operator : String} {operand : Value}
      {next : Continuation .value} {cause : Cause}
      (failed : Operator.unary operator operand = .error (.error cause)) :
      Raises settings ⟨machine, .delivering operand (.operand line operator next)⟩ cause
  /-- A jump comes to the top level. -/
  | stray {machine : Machine} {completion : Completion} {rest : List Node} {root : Handle}
      {jump : Jump} (jumps : completion.jump? = some jump) :
      Raises settings ⟨machine, .completing completion (.program rest root)⟩ (.strayJump jump)
  /-- A jump out of a loop comes to the end of a function. -/
  | escaped {machine : Machine} {completion : Completion} {name : String} {scope : Handle}
      {callerFrame : Option Handle} {callerLine : Int} {next : Continuation .value} {jump : Jump}
      (jumps : completion.jump? = some jump) (other : jump ≠ .returning) :
      Raises settings ⟨machine, .completing completion (.calling name scope callerFrame callerLine
        next)⟩ (.escapedJump jump name)

/-- The next step may tell of an event that mentions a line. -/
inductive Tells : State → Event → Prop
  | evaluated {machine : Machine} {node : Node} {scope : Handle} {next : Continuation .value} :
      Tells ⟨machine, .evaluating node scope next⟩
        (.evaluated (machine.markedLine node.line) node.typeName)
  | branched {machine : Machine} {value : Value} {line : Int} {thenBranch : List Node}
      {elseBranch : Option (List Node)} {scope : Handle} {next : Continuation .completion} :
      Tells ⟨machine, .delivering value (.branching line thenBranch elseBranch scope next)⟩
        (.branched line value)
  | tested {machine : Machine} {value : Value} {line : Int} {loop : Loop}
      {next : Continuation .completion} :
      Tells ⟨machine, .delivering value (.testing line loop next)⟩ (.tested line value.isTruthy)

/-- The next step may have an integer to write that cannot be written. -/
inductive Stifles (settings : Settings) (before : State) : Prop
  /-- In the report of an error. -/
  | report {cause : Cause} (raises : before.Raises settings cause)
      (unwritable : Error.isWritable ⟨cause, before.lineAfter⟩ = false) : Stifles settings before
  /-- In a trace. -/
  | event {event : Event} (tells : before.Tells event) (fails : ¬event.Passes settings) :
      Stifles settings before

/-! ## Moves -/

/-- What the next step may come to, if it raises no error and is not on its way out with one. -/
inductive Moves (settings : Settings) : State → Control → Prop
  /-- An expression has its value at once. -/
  | value {machine : Machine} {node : Node} {scope : Handle} {next : Continuation .value}
      {value : Value} (atomic : node.isAtomic = true) :
      Moves settings ⟨machine, .evaluating node scope next⟩ (.delivering value next)
  | assignment {machine : Machine} {line targetLine : Int} {name : String} {right : Node}
      {scope : Handle} {next : Continuation .value} :
      Moves settings
        ⟨machine, .evaluating (.binary line "=" (.reference targetLine name) right) scope next⟩
        (.evaluating right scope (.assigning name scope next))
  | conjunction {machine : Machine} {line : Int} {left right : Node} {scope : Handle}
      {next : Continuation .value} :
      Moves settings ⟨machine, .evaluating (.binary line "&&" left right) scope next⟩
        (.evaluating left scope (.conjunction right scope next))
  | disjunction {machine : Machine} {line : Int} {left right : Node} {scope : Handle}
      {next : Continuation .value} :
      Moves settings ⟨machine, .evaluating (.binary line "||" left right) scope next⟩
        (.evaluating left scope (.disjunction right scope next))
  | operation {machine : Machine} {line : Int} {operator : String} {left right : Node}
      {scope : Handle} {next : Continuation .value} (notAssignment : operator ≠ "=")
      (notConjunction : operator ≠ "&&") (notDisjunction : operator ≠ "||") :
      Moves settings ⟨machine, .evaluating (.binary line operator left right) scope next⟩
        (.evaluating left scope (.leftOperand line operator right scope next))
  | sign {machine : Machine} {line : Int} {operator : String} {operand : Node} {scope : Handle}
      {next : Continuation .value} :
      Moves settings ⟨machine, .evaluating (.unary line operator operand) scope next⟩
        (.evaluating operand scope (.operand line operator next))
  | firstArgument {machine : Machine} {line : Int} {name : String} {argument : Node}
      {rest : List Node} {scope : Handle} {next : Continuation .value} {callee : Callee} :
      Moves settings ⟨machine, .evaluating (.call line name (argument :: rest)) scope next⟩
        (.evaluating argument scope (.argument line callee [] rest scope next))
  /-- The body of a function without parameters begins. -/
  | direct {machine : Machine} {line : Int} {name : String} {scope inner : Handle}
      {next : Continuation .value} {closure : Closure} {callerFrame : Option Handle}
      (calls : Calls settings ⟨machine, .evaluating (.call line name []) scope next⟩ line closure) :
      Moves settings ⟨machine, .evaluating (.call line name []) scope next⟩
        (inSequence closure.body inner
          (.calling closure.name inner callerFrame (machine.markedLine line) next))
  | function {machine : Machine} {line : Int} {name : String} {parameters : List String}
      {body : List Node} {scope : Handle} {next : Continuation .completion} :
      Moves settings ⟨machine, .executing (.function line name parameters body) scope next⟩
        (.completing .normal next)
  | initialized {machine : Machine} {line : Int} {name : String} {initializer : Node}
      {scope : Handle} {next : Continuation .completion} :
      Moves settings ⟨machine, .executing (.declaration line name (some initializer)) scope next⟩
        (.evaluating initializer scope (.declaring name scope next))
  | uninitialized {machine : Machine} {line : Int} {name : String} {scope : Handle}
      {next : Continuation .completion} :
      Moves settings ⟨machine, .executing (.declaration line name none) scope next⟩
        (.delivering .undefined (.declaring name scope next))
  | result {machine : Machine} {line : Int} {value : Node} {scope : Handle}
      {next : Continuation .completion} :
      Moves settings ⟨machine, .executing (.returning line (some value)) scope next⟩
        (.evaluating value scope (.returning next))
  | noResult {machine : Machine} {line : Int} {scope : Handle} {next : Continuation .completion} :
      Moves settings ⟨machine, .executing (.returning line none) scope next⟩
        (.delivering .undefined (.returning next))
  | breaking {machine : Machine} {line : Int} {scope : Handle} {next : Continuation .completion} :
      Moves settings ⟨machine, .executing (.breaking line) scope next⟩ (.completing .broken next)
  | continuing {machine : Machine} {line : Int} {scope : Handle}
      {next : Continuation .completion} :
      Moves settings ⟨machine, .executing (.continuing line) scope next⟩
        (.completing .continued next)
  | block {machine : Machine} {line : Int} {body : List Node} {scope inner : Handle}
      {next : Continuation .completion} :
      Moves settings ⟨machine, .executing (.block line body) scope next⟩
        (inSequence body inner (.leaving inner next))
  | conditional {machine : Machine} {line : Int} {condition : Node} {thenBranch : List Node}
      {elseBranch : Option (List Node)} {scope : Handle} {next : Continuation .completion} :
      Moves settings
        ⟨machine, .executing (.conditional line condition thenBranch elseBranch) scope next⟩
        (.evaluating condition scope (.branching line thenBranch elseBranch scope next))
  | whileLoop {machine : Machine} {line : Int} {condition : Node} {body : List Node}
      {scope : Handle} {next : Continuation .completion} {control : Control}
      (tests : Loop.Tests ⟨"while", some condition, none, body, scope⟩ next control) :
      Moves settings ⟨machine, .executing (.whileLoop line condition body) scope next⟩ control
  | doLoop {machine : Machine} {line : Int} {condition : Node} {body : List Node}
      {scope inner : Handle} {next : Continuation .completion} :
      Moves settings ⟨machine, .executing (.doLoop line condition body) scope next⟩
        (inSequence body inner
          (.leaving inner (.looping ⟨"do-while", some condition, none, body, scope⟩ next)))
  | start {machine : Machine} {line : Int} {start : Node} {condition step : Option Node}
      {body : List Node} {scope inner : Handle} {next : Continuation .completion} :
      Moves settings
        ⟨machine, .executing (.forLoop line (some start) condition step body) scope next⟩
        (.executing start inner
          (.starting ⟨"for-body", condition, step, body, inner⟩ (.leaving inner next)))
  | forLoop {machine : Machine} {line : Int} {condition step : Option Node} {body : List Node}
      {scope inner : Handle} {next : Continuation .completion} {control : Control}
      (tests : Loop.Tests ⟨"for-body", condition, step, body, inner⟩ (.leaving inner next) control) :
      Moves settings ⟨machine, .executing (.forLoop line none condition step body) scope next⟩
        control
  | expression {machine : Machine} {node : Node} {scope : Handle} {next : Continuation .completion}
      (other : node.isDirective = false) :
      Moves settings ⟨machine, .executing node scope next⟩
        (.evaluating node scope (.discarding next))
  | assigned {machine : Machine} {value : Value} {name : String} {scope : Handle}
      {next : Continuation .value} :
      Moves settings ⟨machine, .delivering value (.assigning name scope next)⟩
        (.delivering value next)
  /-- A conjunction goes on with its right operand. -/
  | both {machine : Machine} {value : Value} {right : Node} {scope : Handle}
      {next : Continuation .value} :
      Moves settings ⟨machine, .delivering value (.conjunction right scope next)⟩
        (.evaluating right scope (.truth next))
  /-- A conjunction is decided by its left operand. -/
  | notBoth {machine : Machine} {value result : Value} {right : Node} {scope : Handle}
      {next : Continuation .value} :
      Moves settings ⟨machine, .delivering value (.conjunction right scope next)⟩
        (.delivering result next)
  /-- A disjunction goes on with its right operand. -/
  | either {machine : Machine} {value : Value} {right : Node} {scope : Handle}
      {next : Continuation .value} :
      Moves settings ⟨machine, .delivering value (.disjunction right scope next)⟩
        (.evaluating right scope (.truth next))
  /-- A disjunction is decided by its left operand. -/
  | oneOf {machine : Machine} {value result : Value} {right : Node} {scope : Handle}
      {next : Continuation .value} :
      Moves settings ⟨machine, .delivering value (.disjunction right scope next)⟩
        (.delivering result next)
  | truth {machine : Machine} {value result : Value} {next : Continuation .value} :
      Moves settings ⟨machine, .delivering value (.truth next)⟩ (.delivering result next)
  | rightOperand {machine : Machine} {value : Value} {line : Int} {operator : String} {right : Node}
      {scope : Handle} {next : Continuation .value} :
      Moves settings ⟨machine, .delivering value (.leftOperand line operator right scope next)⟩
        (.evaluating right scope (.rightOperand line operator value next))
  | joined {machine : Machine} {value left result : Value} {line : Int} {operator : String}
      {next : Continuation .value} :
      Moves settings ⟨machine, .delivering value (.rightOperand line operator left next)⟩
        (.delivering result next)
  | signed {machine : Machine} {value result : Value} {line : Int} {operator : String}
      {next : Continuation .value} :
      Moves settings ⟨machine, .delivering value (.operand line operator next)⟩
        (.delivering result next)
  | argument {machine : Machine} {value : Value} {line : Int} {callee : Callee}
      {finished : List Value} {argument : Node} {rest : List Node} {scope : Handle}
      {next : Continuation .value} :
      Moves settings
        ⟨machine, .delivering value (.argument line callee finished (argument :: rest) scope next)⟩
        (.evaluating argument scope (.argument line callee (value :: finished) rest scope next))
  /-- A built-in function is called with its last argument. -/
  | builtin {machine : Machine} {value result : Value} {line : Int} {builtin : Builtin}
      {finished : List Value} {scope : Handle} {next : Continuation .value} :
      Moves settings
        ⟨machine, .delivering value (.argument line (.builtin builtin) finished [] scope next)⟩
        (.delivering result next)
  /-- The body of a function begins. -/
  | passed {machine : Machine} {value : Value} {line : Int} {closure : Closure}
      {finished : List Value} {scope inner : Handle} {callerFrame : Option Handle}
      {next : Continuation .value} :
      Moves settings
        ⟨machine, .delivering value (.argument line (.declared closure) finished [] scope next)⟩
        (inSequence closure.body inner
          (.calling closure.name inner callerFrame (machine.markedLine line) next))
  | declared {machine : Machine} {value : Value} {name : String} {scope : Handle}
      {next : Continuation .completion} :
      Moves settings ⟨machine, .delivering value (.declaring name scope next)⟩
        (.completing .normal next)
  | returned {machine : Machine} {value : Value} {next : Continuation .completion} :
      Moves settings ⟨machine, .delivering value (.returning next)⟩
        (.completing (.returned value) next)
  | thenBranch {machine : Machine} {value : Value} {line : Int} {thenBranch : List Node}
      {elseBranch : Option (List Node)} {scope inner : Handle} {next : Continuation .completion} :
      Moves settings
        ⟨machine, .delivering value (.branching line thenBranch elseBranch scope next)⟩
        (inSequence thenBranch inner (.leaving inner next))
  | elseBranch {machine : Machine} {value : Value} {line : Int} {thenBranch elseBranch : List Node}
      {scope inner : Handle} {next : Continuation .completion} :
      Moves settings
        ⟨machine, .delivering value (.branching line thenBranch (some elseBranch) scope next)⟩
        (inSequence elseBranch inner (.leaving inner next))
  | noBranch {machine : Machine} {value : Value} {line : Int} {thenBranch : List Node}
      {scope : Handle} {next : Continuation .completion} :
      Moves settings ⟨machine, .delivering value (.branching line thenBranch none scope next)⟩
        (.completing .normal next)
  | round {machine : Machine} {value : Value} {line : Int} {loop : Loop} {inner : Handle}
      {next : Continuation .completion} :
      Moves settings ⟨machine, .delivering value (.testing line loop next)⟩
        (inSequence loop.body inner (.leaving inner (.looping loop next)))
  | finished {machine : Machine} {value : Value} {line : Int} {loop : Loop}
      {next : Continuation .completion} :
      Moves settings ⟨machine, .delivering value (.testing line loop next)⟩
        (.completing .normal next)
  | stepped {machine : Machine} {value : Value} {loop : Loop} {next : Continuation .completion}
      {control : Control} (tests : loop.Tests next control) :
      Moves settings ⟨machine, .delivering value (.stepping loop next)⟩ control
  | discarded {machine : Machine} {value : Value} {next : Continuation .completion} :
      Moves settings ⟨machine, .delivering value (.discarding next)⟩ (.completing .normal next)
  | follows {machine : Machine} {rest : List Node} {scope : Handle}
      {next : Continuation .completion} :
      Moves settings ⟨machine, .completing .normal (.sequence rest scope next)⟩
        (inSequence rest scope next)
  /-- A jump leaves statements out. -/
  | skips {machine : Machine} {completion : Completion} {rest : List Node} {scope : Handle}
      {next : Continuation .completion} {jump : Jump} (jumps : completion.jump? = some jump) :
      Moves settings ⟨machine, .completing completion (.sequence rest scope next)⟩
        (.completing completion next)
  | leaves {machine : Machine} {completion : Completion} {scope : Handle}
      {next : Continuation .completion} :
      Moves settings ⟨machine, .completing completion (.leaving scope next)⟩
        (.completing completion next)
  | starts {machine : Machine} {completion : Completion} {loop : Loop}
      {next : Continuation .completion} {control : Control} (tests : loop.Tests next control) :
      Moves settings ⟨machine, .completing completion (.starting loop next)⟩ control
  /-- A loop is left. -/
  | broken {machine : Machine} {loop : Loop} {next : Continuation .completion} :
      Moves settings ⟨machine, .completing .broken (.looping loop next)⟩ (.completing .normal next)
  /-- A loop is left together with its function. -/
  | returns {machine : Machine} {value : Value} {loop : Loop} {next : Continuation .completion} :
      Moves settings ⟨machine, .completing (.returned value) (.looping loop next)⟩
        (.completing (.returned value) next)
  | steps {machine : Machine} {completion : Completion} {loop : Loop} {step : Node}
      {next : Continuation .completion} (given : loop.step = some step) :
      Moves settings ⟨machine, .completing completion (.looping loop next)⟩
        (.evaluating step loop.scope (.stepping loop next))
  | again {machine : Machine} {completion : Completion} {loop : Loop}
      {next : Continuation .completion} {control : Control} (tests : loop.Tests next control) :
      Moves settings ⟨machine, .completing completion (.looping loop next)⟩ control
  /-- A call ends. -/
  | ended {machine : Machine} {completion : Completion} {name : String} {scope : Handle}
      {callerFrame : Option Handle} {callerLine : Int} {next : Continuation .value} {result : Value}
      (ends : completion.jump? = none ∨ completion.jump? = some .returning) :
      Moves settings
        ⟨machine, .completing completion (.calling name scope callerFrame callerLine next)⟩
        (.delivering result next)
  | statement {machine : Machine} {node : Node} {rest : List Node} {root : Handle} :
      Moves settings ⟨machine, .completing .normal (.program (node :: rest) root)⟩
        (.executing node root (.program rest root))
  | halted {machine : Machine} {root : Handle} :
      Moves settings ⟨machine, .completing .normal (.program [] root)⟩ (.halted none)

/-! ## Rules for actions -/

/-- A failure is one that the next step may come to. -/
structure Admits (settings : Settings) (before : State) (failure : Failure) : Prop where
  error : ∀ error, failure = .error error →
    error.line = before.lineAfter ∧ before.Raises settings error.cause
  unwritable : failure = .unwritable → before.Stifles settings

/-- An action comes to what the next step may come to, or raises an error that the next step may
raise. -/
def Comes (settings : Settings) (before : State) (action : Action Control) (machine : Machine) :
    Prop :=
  action.Yields machine
    (fun control after => after.line = before.lineAfter ∧ before.Moves settings control)
    fun failure after => after.line = before.lineAfter ∧ before.Admits settings failure

section Rules

variable {settings : Settings} {before : State} {machine : Machine}

/-- An action that goes on as a move does comes of it. -/
theorem comes_return {control : Control} (here : machine.line = before.lineAfter)
    (moves : before.Moves settings control) : before.Comes settings (pure control) machine :=
  ⟨here, moves⟩

/-- An error that a state raises comes of it. -/
theorem comes_fail {cause : Cause} (here : machine.line = before.lineAfter)
    (raises : before.Raises settings cause) :
    before.Comes settings (Action.fail cause) machine := by
  refine ⟨here, fun error raised => ?_, fun unwritten => ?_⟩
  · obtain ⟨rfl, -⟩ := Failure.ofError_eq_error_iff.mp raised
    exact ⟨here, raises⟩
  · refine .report raises ?_
    rw [← here]
    exact Failure.ofError_eq_unwritable_iff.mp unwritten

/-- An action comes first that leaves the line as it is. -/
theorem comes_bind {α : Type} {action : Action α} {following : α → Action Control}
    {causes : Cause → Prop} (stays : action.Stays causes) (here : machine.line = before.lineAfter)
    (raises : ∀ cause, causes cause → before.Raises settings cause)
    (follows : ∀ value after, action machine = .ok value after → after.line = before.lineAfter →
      before.Comes settings (following value) after) :
    before.Comes settings (action >>= following) machine := by
  have stays := stays machine
  refine Action.yields_bind.mpr ?_
  rw [Action.Yields] at stays ⊢
  cases run : action machine with
  | ok value after =>
    rw [run] at stays
    exact follows value after run (Eq.trans stays here)
  | error failure after =>
    rw [run] at stays
    obtain ⟨same, blames⟩ := stays
    refine ⟨same.trans here, fun error raised => ?_, fun unwritten => ?_⟩
    · obtain ⟨line_eq, caused⟩ := blames.error error raised
      exact ⟨line_eq.trans here, raises _ caused⟩
    · obtain ⟨cause, caused, unwritable⟩ := blames.unwritable unwritten
      rw [here] at unwritable
      exact .report (raises _ caused) unwritable

/-- An action comes first that leaves the line as it is and raises no error. -/
theorem comes_still {α : Type} {action : Action α} {following : α → Action Control}
    (still : action.Still) (here : machine.line = before.lineAfter)
    (follows : ∀ value after, action machine = .ok value after → after.line = before.lineAfter →
      before.Comes settings (following value) after) :
    before.Comes settings (action >>= following) machine :=
  comes_bind still here (fun _ => False.elim) follows

/-- An event is recorded first that mentions a line. -/
theorem comes_record {event : Event} {following : Unit → Action Control}
    (tells : before.Tells event) (here : machine.line = before.lineAfter)
    (follows : event.Passes settings → ∀ traced,
      before.Comes settings (following ()) { machine with traced }) :
    before.Comes settings (Action.record settings event >>= following) machine := by
  obtain ⟨passes, traced, run⟩ | ⟨fails, run⟩ := Action.record_cases settings event machine
  · exact Action.yields_bind.mpr (Action.yields_of_eq_ok run (follows passes traced))
  · rw [Comes, Action.yields_bind, Action.Yields, run]
    refine ⟨here, ?_, fun _ => .event tells fails⟩
    rintro error ⟨⟩

/-- A line is marked first. -/
theorem comes_mark {line : Int} {following : Unit → Action Control}
    (marked : machine.markedLine line = before.lineAfter)
    (follows : ∀ after, machine.SameScopes after → after.line = before.lineAfter →
      before.Comes settings (following ()) after) :
    before.Comes settings (Action.mark line >>= following) machine :=
  Action.yields_bind.mpr
    (Action.yields_of_eq_ok (Action.mark_eq line machine) (follows _ ⟨rfl, rfl, rfl⟩ marked))

/-! ## Statements, loops and calls -/

/-- A body is entered in a new scope. -/
theorem comes_enter {name : String} {nodes : List Node} {around : Handle}
    {next : Continuation .completion} (here : machine.line = before.lineAfter)
    (moves : ∀ inner, before.Moves settings (inSequence nodes inner (.leaving inner next))) :
    before.Comes settings (enter name nodes around next) machine :=
  comes_still (Action.still_createChild _ _) here fun inner _ _ here =>
    comes_return here (moves inner)

/-- A loop goes on to its test. -/
theorem comes_test {loop : Loop} {next : Continuation .completion}
    (here : machine.line = before.lineAfter)
    (moves : ∀ control, loop.Tests next control → before.Moves settings control) :
    before.Comes settings (test loop next) machine := by
  rw [test]
  cases given : loop.condition with
  | some condition => exact comes_return here (moves _ (.test given))
  | none => exact comes_enter here fun _ => moves _ .round

/-- A call gives the value of a builtin, or enters the body of a declared function. -/
theorem comes_call {callee : Callee} {arguments : List Value} {next : Continuation .value}
    (here : machine.line = before.lineAfter)
    (builtin : ∀ builtin, callee = .builtin builtin →
      ∀ value, before.Moves settings (.delivering value next))
    (declared : ∀ closure, callee = .declared closure →
      (∃ line, before.Calls settings line closure) ∧
      ∀ inner callerFrame, before.Moves settings (inSequence closure.body inner
        (.calling closure.name inner callerFrame before.lineAfter next))) :
    before.Comes settings (call settings callee arguments next) machine := by
  cases callee with
  | builtin function =>
    refine comes_still (Action.still_callBuiltin _ _) here fun value _ _ here => ?_
    exact comes_return here (builtin function rfl value)
  | declared closure =>
    obtain ⟨⟨line, calls⟩, moves⟩ := declared closure rfl
    refine comes_bind (Action.stays_checkDepth _ _) here ?_ fun _ machine _ here => ?_
    · rintro cause (⟨limit, limited, rfl⟩ | rfl)
      · exact .deep calls limited
      · exact .crowded calls
    refine Action.yields_bind.mpr (Action.yields_of_eq_ok rfl ?_)
    -- the line to go back to is the one on which the call is blamed
    rw [here]
    refine comes_still (Action.still_createChild _ _) here fun inner _ _ here => ?_
    refine comes_still (Action.still_bindParameters _ _ _) here fun _ _ _ here => ?_
    refine Action.yields_bind.mpr (Action.yields_of_eq_ok rfl ?_)
    refine comes_still (Action.still_record _ _ rfl) here fun _ _ _ here => ?_
    refine comes_still (Action.still_enterCall _) here fun callerFrame _ _ here => ?_
    exact comes_return here (moves inner callerFrame)

/-! ## Into nodes -/

/-- A call that begins looks its function up before its arguments are evaluated. -/
theorem comes_beginCall {machine after : Machine} {line : Int} {name : String}
    {arguments : List Node} {scope : Handle} {next : Continuation .value}
    (same : machine.SameScopes after) (here : after.line = machine.markedLine line)
    (told : (Event.evaluated (machine.markedLine line) "Call").Passes settings) :
    Comes settings ⟨machine, .evaluating (.call line name arguments) scope next⟩
      (beginCall settings line name arguments scope next) after := by
  -- marking the line once more changes nothing
  have again : ∀ {other : Machine}, other.line = machine.markedLine line →
      other.markedLine line = machine.markedLine line := by
    intro other here
    by_cases zero : line = 0
    · rw [Machine.markedLine, if_pos zero, here]
    · rw [Machine.markedLine_of_ne _ zero, Machine.markedLine_of_ne _ zero]
  rw [beginCall]
  cases declared : settings.builtin? name with
  -- a name of a built-in function is not looked up
  | some builtin =>
    refine comes_bind (Action.stays_checkArity _ _ _) here ?_ fun _ after _ here => ?_
    · rintro cause ⟨count, -, wrong, rfl⟩
      exact .arity wrong
    cases arguments with
    | cons argument rest => exact comes_return here .firstArgument
    | nil =>
      refine comes_mark (again here) fun after _ here => comes_call here ?_ ?_
      · exact fun _ _ value => .value rfl
      · rintro closure ⟨⟩
  | none =>
    refine comes_bind (Action.stays_lookup _ _) here ?_ fun value after looked here => ?_
    · rintro cause rfl
      exact .missing
    obtain ⟨rfl, holder, finds, holds⟩ := Action.finds_of_lookup looked
    rw [same.store_eq] at finds holds
    cases value with
    | function closure =>
      refine comes_bind (Action.stays_checkArity _ _ _) here ?_ fun _ after fits here => ?_
      · rintro cause ⟨count, -, wrong, rfl⟩
        exact .arity wrong
      cases arguments with
      | cons argument rest => exact comes_return here .firstArgument
      | nil =>
        have none_expected := Action.eq_of_checkArity fits
        have calls : Calls settings ⟨machine, .evaluating (.call line name []) scope next⟩ line
            closure :=
          .direct told declared finds holds (List.length_eq_zero_iff.mp none_expected.symm)
        refine comes_mark (again here) fun after _ here => comes_call here ?_ ?_
        · rintro builtin ⟨⟩
        · rintro _ ⟨rfl⟩
          exact ⟨⟨line, calls⟩, fun inner callerFrame => .direct calls⟩
    | integer | float | text | undefined | builtin | null =>
      refine comes_fail here (.callee ?_)
      rintro closure ⟨⟩

/-- An expression is evaluated. -/
theorem comes_evaluate {machine : Machine} {node : Node} {scope : Handle}
    {next : Continuation .value} :
    Comes settings ⟨machine, .evaluating node scope next⟩ (evaluate settings node scope next)
      machine := by
  refine comes_mark rfl fun marked same here => ?_
  refine Action.yields_bind.mpr (Action.yields_of_eq_ok rfl ?_)
  rw [here]
  refine comes_record .evaluated here fun told traced => ?_
  -- the cases are those of the evaluation, in its order
  split
  case h_1 | h_2 | h_3 => exact comes_return here (.value rfl)
  case h_4 =>
    refine comes_bind (Action.stays_lookup _ _) here ?_ fun _ _ _ here =>
      comes_return here (.value rfl)
    rintro cause rfl
    exact .unbound
  case h_5 => exact comes_return here .assignment
  case h_6 other => exact comes_fail here (.target fun _ _ same => other _ _ same)
  case h_7 => exact comes_return here .conjunction
  case h_8 => exact comes_return here .disjunction
  case h_9 notAssignment notConjunction notDisjunction =>
    exact comes_return here (.operation notAssignment notConjunction notDisjunction)
  case h_10 => exact comes_return here .sign
  case h_11 => exact comes_beginCall (same.trans ⟨rfl, rfl, rfl⟩) here told
  case h_12 notInteger notFloat notText notReference _ _ _ _ notBinary notUnary notCall =>
    exact comes_fail here (.misplaced (Node.isEvaluable_eq_false notInteger notFloat notText
      notReference notBinary notUnary notCall))

/-- A statement is executed. -/
theorem comes_execute {machine : Machine} {node : Node} {scope : Handle}
    {next : Continuation .completion} :
    Comes settings ⟨machine, .executing node scope next⟩ (execute settings node scope next)
      machine := by
  refine comes_mark rfl fun after _ here => ?_
  -- the cases are those of the execution, in its order; all that is no directive is evaluated
  split
  case h_1 =>
    refine comes_still (Action.still_declareFunction _ _ _ _) here fun _ _ _ here => ?_
    refine comes_still (Action.still_query _) here fun _ _ _ here => ?_
    exact comes_still (Action.still_record _ _ rfl) here fun _ _ _ here =>
      comes_return here .function
  case h_2 => exact comes_return here .initialized
  case h_3 => exact comes_return here .uninitialized
  case h_4 => exact comes_return here .result
  case h_5 => exact comes_return here .noResult
  case h_6 => exact comes_return here .breaking
  case h_7 => exact comes_return here .continuing
  case h_8 => exact comes_enter here fun _ => .block
  case h_9 => exact comes_return here .conditional
  case h_10 => exact comes_test here fun _ => .whileLoop
  case h_11 => exact comes_enter here fun _ => .doLoop
  case h_12 start condition step body =>
    refine comes_still (Action.still_createChild _ _) here fun inner _ _ here => ?_
    cases start with
    | some start => exact comes_return here .start
    | none => exact comes_test here fun _ => .forLoop
  case h_13 notFunction notInitialized notDeclaration notReturningOf notReturning notBreaking
      notContinuing notBlock notConditional notWhile notDo notFor =>
    exact comes_return here (.expression (Node.isDirective_eq_false notFunction notInitialized
      notDeclaration notReturningOf notReturning notBreaking notContinuing notBlock notConditional
      notWhile notDo notFor))

/-! ## Out of nodes -/

/-- A value is delivered. -/
theorem comes_deliver {machine : Machine} {value : Value} {next : Continuation .value} :
    Comes settings ⟨machine, .delivering value next⟩ (deliver settings value next) machine := by
  -- One move for each kind of what waits for the value; an operator may raise in its place.
  cases next with
  | assigning name scope next =>
    exact comes_still (Action.still_assign _ _ _ _) rfl fun _ _ _ here => comes_return here .assigned
  | conjunction right scope next =>
    rw [deliver]
    split
    · exact comes_return rfl .both
    · exact comes_return rfl .notBoth
  | disjunction right scope next =>
    rw [deliver]
    split
    · exact comes_return rfl .oneOf
    · exact comes_return rfl .either
  | truth next => exact comes_return rfl .truth
  | leftOperand line operator right scope next => exact comes_return rfl .rightOperand
  | rightOperand line operator left next =>
    refine comes_mark rfl fun after _ here => ?_
    exact comes_bind (Action.stays_ofProblem _) here (fun _ => .joined) fun _ _ _ here =>
      comes_return here .joined
  | operand line operator next =>
    refine comes_mark rfl fun after _ here => ?_
    exact comes_bind (Action.stays_ofProblem _) here (fun _ => .signed) fun _ _ _ here =>
      comes_return here .signed
  | argument line callee finished rest scope next =>
    cases rest with
    | cons argument rest => exact comes_return rfl .argument
    | nil =>
      refine comes_mark rfl fun after _ here => comes_call here ?_ ?_
      · rintro builtin rfl result
        exact .builtin
      · rintro closure rfl
        exact ⟨⟨line, .passed⟩, fun inner callerFrame => .passed⟩
  | declaring name scope next =>
    refine comes_still (Action.still_bind _ _ _) rfl fun _ _ _ here => ?_
    exact comes_still (Action.still_record _ _ rfl) here fun _ _ _ here =>
      comes_return here .declared
  | returning next =>
    exact comes_still (Action.still_keepResult _) rfl fun _ _ _ here => comes_return here .returned
  | branching line thenBranch elseBranch scope next =>
    refine comes_record .branched rfl fun _ _ => ?_
    split
    · exact comes_enter rfl fun _ => .thenBranch
    · cases elseBranch with
      | some elseBranch => exact comes_enter rfl fun _ => .elseBranch
      | none => exact comes_return rfl .noBranch
  | testing line loop next =>
    refine comes_record .tested rfl fun _ _ => ?_
    split
    · exact comes_enter rfl fun _ => .round
    · exact comes_return rfl .finished
  | stepping loop next => exact comes_test rfl fun _ => .stepped
  | discarding next => exact comes_return rfl .discarded

/-- A call ends whose scope is live. -/
theorem comes_finishCall {name : String} {scope : Handle} {callerFrame : Option Handle}
    {callerLine : Int} {result : Value} {next : Continuation .value}
    (releases : settings.releases = true) (live : machine.store.IsLive scope)
    (back : callerLine = before.lineAfter)
    (moves : before.Moves settings (.delivering result next)) :
    before.Comes settings (finishCall settings name scope callerFrame callerLine result next)
      machine := by
  have run := Action.failure?_eq (Action.leaveCall_eq callerFrame releases live)
  refine Action.yields_bind.mpr (Action.yields_of_eq_ok run ?_)
  obtain ⟨after, recorded, -⟩ := Action.exists_record_eq settings (.returned name result) rfl _
  refine Action.yields_bind.mpr (Action.yields_of_eq_ok recorded ?_)
  exact Action.yields_bind.mpr (Action.yields_of_eq_ok rfl (comes_return back moves))

/-- A statement has completed. -/
theorem comes_complete {machine : Machine} {completion : Completion}
    {next : Continuation .completion} (releases : settings.releases = true)
    (orderly : machine.Orderly (completion.stakes ++ next.stakes)) :
    Comes settings ⟨machine, .completing completion next⟩ (complete settings completion next)
      machine := by
  have rest := orderly_uncompleted orderly
  -- a scope that is released here is live, so there is no failure but that of a jump
  cases next with
  | sequence rest scope next =>
    cases completion with
    | normal => exact comes_return rfl .follows
    | broken | continued | returned => exact comes_return rfl (.skips rfl)
  | leaving scope next =>
    have run := Action.failure?_eq (Action.release_eq releases
      (rest.owned_isLive (List.mem_cons_self ..)))
    refine Action.yields_bind.mpr (Action.yields_of_eq_ok run ?_)
    cases completion with
    | normal | broken | continued | returned => exact comes_return rfl .leaves
  | starting loop next =>
    cases completion with
    | normal | broken | continued | returned => exact comes_test rfl fun _ => .starts
  | looping loop next =>
    cases completion with
    | broken => exact comes_return rfl .broken
    | returned value => exact comes_return rfl .returns
    | normal | continued =>
      rw [complete]
      cases given : loop.step with
      | some step => exact comes_return rfl (.steps given)
      | none => exact comes_test rfl fun _ => .again
  | calling name scope callerFrame callerLine next =>
    have live := rest.owned_isLive (List.mem_cons_self ..)
    cases completion with
    | normal => exact comes_finishCall releases live rfl (.ended (Or.inl rfl))
    | returned value => exact comes_finishCall releases live rfl (.ended (Or.inr rfl))
    | broken | continued => exact comes_fail rfl (.escaped rfl (by decide))
  | program nodes root =>
    cases completion with
    | normal =>
      cases nodes with
      | nil => exact Action.yields_bind.mpr (Action.yields_of_eq_ok rfl (comes_return rfl .halted))
      | cons node nodes =>
        exact Action.yields_bind.mpr (Action.yields_of_eq_ok rfl (comes_return rfl .statement))
    | broken | continued | returned => exact comes_fail rfl (.stray rfl)

/-- A failure leaves a part of what is left to do, or ends the run. -/
theorem unwind_yields {failure : Failure} {awaited : Awaited} {next : Continuation awaited}
    (releases : settings.releases = true) (orderly : machine.Orderly next.stakes) :
    (unwind settings failure next).Yields machine
      (fun control _ => control = .halted (some failure) ∨
        ∃ (outer : Awaited) (rest : Continuation outer), control = .unwinding failure rest)
      fun _ _ => False := by
  cases next with
  | leaving scope next =>
    have run := Action.failure?_eq (Action.release_eq releases
      (orderly.owned_isLive (List.mem_cons_self ..)))
    exact Action.yields_bind.mpr (Action.yields_of_eq_ok run (Or.inr ⟨_, next, rfl⟩))
  | calling name scope callerFrame callerLine next =>
    have run := Action.failure?_eq (Action.leaveCall_eq callerFrame releases
      (orderly.owned_isLive (List.mem_cons_self ..)))
    exact Action.yields_bind.mpr (Action.yields_of_eq_ok run (Or.inr ⟨_, next, rfl⟩))
  | program => exact Or.inl rfl
  | assigning | conjunction | disjunction | truth | leftOperand | rightOperand | operand | argument
  | declaring | returning | branching | testing | stepping | discarding | sequence | starting
  | looping => exact Or.inr ⟨_, _, rfl⟩

end Rules

/-! ## Steps -/

/-- What a step is: it moves on, raises an error, leaves a part of what is left to do with a failure,
or comes after the end of the run. -/
inductive Steps (settings : Settings) (before after : State) : Prop
  | moves (line_eq : after.machine.line = before.lineAfter)
      (moves : before.Moves settings after.control)
  | raises {failure : Failure} {awaited : Awaited} {next : Continuation awaited}
      (control_eq : after.control = .unwinding failure next)
      (admits : before.Admits settings failure)
  | unwinds {failure : Failure} {awaited : Awaited} {next : Continuation awaited}
      (unwinding : before.control = .unwinding failure next)
      (unwinds : after.control = .halted (some failure) ∨
        ∃ (outer : Awaited) (rest : Continuation outer), after.control = .unwinding failure rest)
  | stays {failure : Option Failure} (halted : before.control = .halted failure)
      (stays : after = before)

variable {settings : Settings}

/-- What comes of a state is what it steps to. -/
theorem steps_after {before : State} {machine : Machine} {awaited : Awaited}
    {next : Continuation awaited} {action : Action Control}
    (comes : before.Comes settings action machine) :
    before.Steps settings (after machine next action) := by
  rw [Comes, Action.Yields] at comes
  rw [after]
  cases run : action machine with
  | ok control last =>
    rw [run] at comes
    exact .moves comes.1 comes.2
  | error failure last =>
    rw [run] at comes
    exact .raises rfl comes.2

/-- What a step is, if the scopes are in order. -/
theorem step_steps {state : State} (releases : settings.releases = true) (orderly : state.Orderly) :
    state.Steps settings (state.step settings) := by
  obtain ⟨machine, control⟩ := state
  cases control with
  | evaluating node scope next => exact steps_after comes_evaluate
  | executing node scope next => exact steps_after comes_execute
  | delivering value next => exact steps_after comes_deliver
  | completing completion next => exact steps_after (comes_complete releases orderly)
  | halted failure => exact .stays rfl rfl
  | unwinding failure next =>
    refine .unwinds rfl ?_
    have yields := @unwind_yields settings machine failure _ next releases orderly
    rw [Action.Yields] at yields
    have step_eq : step settings ⟨machine, .unwinding failure next⟩ =
        after machine next (unwind settings failure next) := rfl
    rw [step_eq, after]
    cases run : unwind settings failure next machine with
    | ok control last =>
      rw [run] at yields
      exact yields
    | error other last =>
      rw [run] at yields
      exact yields.elim

end State

/-! ## Moments of a run -/

/-- Whether a failure is on its way out. -/
def Control.failure? : Control → Option Failure
  | .unwinding failure _ => some failure
  | .halted failure => failure
  | _ => none

/-- Statements that are to be executed are no failure. -/
@[simp] theorem State.failure?_inSequence {nodes : List Node} {scope : Handle}
    {next : Continuation .completion} : (inSequence nodes scope next).failure? = none := by
  cases nodes <;> rfl

/-- A move is no failure. -/
theorem State.Moves.failure?_eq {settings : Settings} {before : State} {control : Control}
    (moves : before.Moves settings control) : control.failure? = none := by
  have tested : ∀ {loop : Loop} {next : Continuation .completion} {control : Control},
      loop.Tests next control → control.failure? = none := by
    intro loop next control tests
    cases tests with
    | test given => rfl
    | round => exact failure?_inSequence
  cases moves with
  | whileLoop tests | forLoop tests | stepped tests | starts tests | again tests =>
    exact tested tests
  | direct | passed | block | doLoop | thenBranch | elseBranch | round | follows =>
    exact failure?_inSequence
  | _ => rfl

/-- Whether a run goes on without a failure. -/
def Control.isGoing : Control → Bool
  | .evaluating .. | .executing .. | .delivering .. | .completing .. => true
  | .unwinding .. | .halted _ => false

/-- A move starts from a state that goes on. -/
theorem State.Moves.isGoing {settings : Settings} {before : State} {control : Control}
    (moves : before.Moves settings control) : before.control.isGoing = true := by
  cases moves <;> rfl

/-- An error is raised only by a run that goes on. -/
theorem State.Raises.isGoing {settings : Settings} {before : State} {cause : Cause}
    (raises : before.Raises settings cause) : before.control.isGoing = true := by
  cases raises with
  | deep calls _ | crowded calls => cases calls <;> rfl
  | _ => rfl

/-- Only a run that goes on has something to write. -/
theorem State.Stifles.isGoing {settings : Settings} {before : State}
    (stifles : before.Stifles settings) : before.control.isGoing = true := by
  cases stifles with
  | report raises _ => exact raises.isGoing
  | event tells _ => cases tells <;> rfl

/-- A run that goes on has no failure. -/
theorem Control.failure?_of_isGoing {control : Control} (going : control.isGoing = true) :
    control.failure? = none := by
  cases control with
  | evaluating | executing | delivering | completing => rfl
  | unwinding | halted => cases going

namespace Machine

variable {settings : Settings} {body : List Node} {machine : Machine}

/-- A run that goes on after a step has moved with it. -/
theorem course_moves (releases : settings.releases = true) (rest : machine.AtRest) {now : Nat}
    (going : (machine.course settings body (now + 1)).control.isGoing = true) :
    (machine.course settings body (now + 1)).machine.line =
        (machine.course settings body now).lineAfter ∧
      (machine.course settings body now).Moves settings
        (machine.course settings body (now + 1)).control := by
  have steps := State.step_steps releases (course_orderly releases rest body now)
  rw [← course_succ] at steps
  cases steps with
  | moves line_eq moves => exact ⟨line_eq, moves⟩
  | raises control_eq =>
    rw [control_eq] at going
    cases going
  | unwinds unwinding unwinds =>
    obtain halted | ⟨outer, below, further⟩ := unwinds
    · rw [halted] at going
      cases going
    · rw [further] at going
      cases going
  | stays halted stays =>
    rw [stays, halted] at going
    cases going

/-- At a moment of a run, a step raises an error. -/
structure Fails (settings : Settings) (body : List Node) (machine : Machine) (moment : Nat)
    (error : Error) : Prop where
  raises : (machine.course settings body moment).Raises settings error.cause
  /-- There was no failure before the step. -/
  before : (machine.course settings body moment).control.failure? = none
  /-- The error is on its way out after the step. -/
  after : (machine.course settings body (moment + 1)).control.failure? = some (.error error)

/-- A failure that a run has ended with, or that is on its way out, came about in the step after an
earlier moment, which may come to it. -/
theorem exists_admits (releases : settings.releases = true) (rest : machine.AtRest) {now : Nat}
    {failure : Failure} (failed : (machine.course settings body now).control.failure? = some failure) :
    ∃ moment < now, (machine.course settings body moment).Admits settings failure ∧
      (machine.course settings body (moment + 1)).control.failure? = some failure := by
  induction now with
  | zero => cases failed
  | succ now ih =>
    have steps := State.step_steps releases (course_orderly releases rest body now)
    rw [← course_succ] at steps
    have earlier : (machine.course settings body now).control.failure? = some failure →
        ∃ moment < now + 1, (machine.course settings body moment).Admits settings failure ∧
          (machine.course settings body (moment + 1)).control.failure? = some failure := by
      intro failing
      obtain ⟨moment, before, admits⟩ := ih failing
      exact ⟨moment, Nat.lt_succ_of_lt before, admits⟩
    -- The failure arises at this step or was there before: unwinding and staying only pass it on.
    cases steps with
    | moves line_eq moves =>
      rw [moves.failure?_eq] at failed
      cases failed
    | raises control_eq admits =>
      have same := failed
      rw [control_eq] at same
      cases same
      exact ⟨now, Nat.lt_succ_self now, admits, failed⟩
    | unwinds unwinding unwinds =>
      refine earlier ?_
      rw [unwinding]
      obtain halted | ⟨outer, rest, further⟩ := unwinds
      · rw [halted] at failed
        exact failed
      · rw [further] at failed
        exact failed
    | stays halted stays =>
      rw [stays] at failed
      exact earlier failed

/-- An error that a run has ended with, or that is on its way out, was raised at an earlier moment,
and blamed on the line that was the current one after that step. -/
theorem exists_fails (releases : settings.releases = true) (rest : machine.AtRest) {now : Nat}
    {error : Error}
    (failed : (machine.course settings body now).control.failure? = some (.error error)) :
    ∃ moment < now, machine.Fails settings body moment error ∧
      error.line = (machine.course settings body moment).lineAfter := by
  obtain ⟨moment, before, admits, failing⟩ := exists_admits releases rest failed
  obtain ⟨line_eq, raised⟩ := admits.error error rfl
  exact ⟨moment, before, ⟨raised, Control.failure?_of_isGoing raised.isGoing, failing⟩, line_eq⟩

/-- A run that has come to an integer that cannot be written had it to write at an earlier moment. -/
theorem exists_stifles (releases : settings.releases = true) (rest : machine.AtRest) {now : Nat}
    (failed : (machine.course settings body now).control.failure? = some .unwritable) :
    ∃ moment < now, (machine.course settings body moment).Stifles settings ∧
      (machine.course settings body (moment + 1)).control.failure? = some .unwritable := by
  obtain ⟨moment, before, admits, failing⟩ := exists_admits releases rest failed
  exact ⟨moment, before, admits.unwritable rfl, failing⟩

/-- So it is with an error that the outcome of a run tells of. -/
theorem exists_fails_of_run (releases : settings.releases = true) (rest : machine.AtRest)
    {steps : Nat} {error : Error}
    (failed : (machine.run settings steps body).1 = .failed (.error error)) :
    ∃ moment < steps, machine.Fails settings body moment error ∧
      error.line = (machine.course settings body moment).lineAfter := by
  refine exists_fails releases rest ?_
  rw [course, control_of_failed failed]
  rfl

end Machine

end Scriptlet
