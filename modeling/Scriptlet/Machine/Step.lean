import Scriptlet.Machine.Action
import Scriptlet.Machine.Continuation

/-! # Steps of a run

A step goes from a state to the next one and does not call itself: what is inside an expression or a
statement becomes the new control, and what is around it becomes its continuation.  An action that
fails turns into a failure that leaves the continuation piece by piece, so that every scope is released
and every call is left on the way.

Main definitions:

* `evaluate`, `execute`: the step into an expression or a statement.
* `deliver`, `complete`, `unwind`: the step out of one, with a value, a completion or a failure.
* `step`: the next state. -/

namespace Scriptlet.State

open Scriptlet.Action

/-! ## Statements, loops and calls -/

/-- Goes on with statements, one after the other. -/
def inSequence (nodes : List Node) (scope : Handle) (next : Continuation .completion) : Control :=
  match nodes with
  | [] => .completing .normal next
  | node :: rest => .executing node scope (.sequence rest scope next)

/-- Goes on with statements in a scope of their own. -/
def enter (name : String) (nodes : List Node) (around : Handle)
    (next : Continuation .completion) : Action Control := do
  let scope ← createChild around name
  return inSequence nodes scope (.leaving scope next)

/-- Goes on with a round of a loop. -/
def round (loop : Loop) (next : Continuation .completion) : Action Control :=
  enter loop.name loop.body loop.scope (.looping loop next)

/-- Goes on with the test of a loop. -/
def test (loop : Loop) (next : Continuation .completion) : Action Control :=
  match loop.condition with
  | some condition => return .evaluating condition loop.scope (.testing condition.line loop next)
  | none => round loop next

/-- Goes on with a function and its arguments. -/
def call (settings : Settings) (callee : Callee) (arguments : List Value)
    (next : Continuation .value) : Action Control :=
  match callee with
  | .builtin builtin => return .delivering (← callBuiltin builtin arguments) next
  | .declared closure => do
    checkDepth settings closure.name
    let callerLine ← currentLine
    let scope ← createChild closure.scope closure.name
    bindParameters scope closure.parameters arguments
    record settings (.called closure.name arguments ((← get).callDepth + 1))
    let callerFrame ← enterCall scope
    return inSequence closure.body scope
      (.calling closure.name scope callerFrame callerLine next)

/-- Goes on with the arguments of a call that are not yet evaluated, and with the call after them. -/
def passArguments (settings : Settings) (line : Int) (callee : Callee) (finished : List Value)
    (rest : List Node) (scope : Handle) (next : Continuation .value) : Action Control :=
  match rest with
  | argument :: rest =>
    return .evaluating argument scope (.argument line callee finished rest scope next)
  | [] => do
    mark line
    call settings callee finished.reverse next

/-! ## Into nodes -/

/-- Begins a call of a function by its name: its arguments come first. -/
def beginCall (settings : Settings) (line : Int) (name : String) (arguments : List Node)
    (scope : Handle) (next : Continuation .value) : Action Control :=
  match settings.builtin? name with
  | some builtin => do
    checkArity builtin.name builtin.arity? arguments.length
    passArguments settings line (.builtin builtin) [] arguments scope next
  | none => do
    match ← lookup name scope with
    | .function closure =>
      checkArity closure.name closure.parameters.length arguments.length
      passArguments settings line (.declared closure) [] arguments scope next
    | value => fail (.notCallable name value.typeName)

/-- Begins to evaluate an expression in a scope. -/
def evaluate (settings : Settings) (node : Node) (scope : Handle) (next : Continuation .value) :
    Action Control := do
  mark node.line
  record settings (.evaluated (← currentLine) node.typeName)
  match node with
  | .integer _ value => return .delivering (.integer (Word.wrap value)) next
  | .float _ value => return .delivering (.float value) next
  | .text _ value => return .delivering (.text value) next
  | .reference _ name => return .delivering (← lookup name scope) next
  | .binary _ "=" (.reference _ name) right =>
    return .evaluating right scope (.assigning name scope next)
  | .binary _ "=" _ _ => fail .notVariable
  | .binary _ "&&" left right => return .evaluating left scope (.conjunction right scope next)
  | .binary _ "||" left right => return .evaluating left scope (.disjunction right scope next)
  | .binary line operator left right =>
    return .evaluating left scope (.leftOperand line operator right scope next)
  | .unary line operator operand =>
    return .evaluating operand scope (.operand line operator next)
  | .call line name arguments => beginCall settings line name arguments scope next
  | _ => fail (.notExpression node.typeName)

/-- Declares a function and goes on. -/
def define (settings : Settings) (name : String) (parameters : List String) (body : List Node)
    (scope : Handle) (next : Continuation .completion) : Action Control := do
  declareFunction name parameters body scope
  record settings (.defined name parameters (← query fun store => .ok (store.scope scope)))
  return .completing .normal next

/-- Begins a loop with a start, a test and a step, in a scope of its own. -/
def beginFor (start condition step : Option Node) (body : List Node) (around : Handle)
    (next : Continuation .completion) : Action Control := do
  let scope ← createChild around "for"
  let loop : Loop := { name := "for-body", condition, step, body, scope }
  match start with
  | some start => return .executing start scope (.starting loop (.leaving scope next))
  | none => test loop (.leaving scope next)

/-- Begins to execute a statement in a scope. -/
def execute (settings : Settings) (node : Node) (scope : Handle)
    (next : Continuation .completion) : Action Control := do
  mark node.line
  match node with
  | .function _ name parameters body => define settings name parameters body scope next
  | .declaration _ name (some initializer) =>
    return .evaluating initializer scope (.declaring name scope next)
  | .declaration _ name none => return .delivering .undefined (.declaring name scope next)
  | .returning _ (some value) => return .evaluating value scope (.returning next)
  | .returning _ none => return .delivering .undefined (.returning next)
  | .breaking _ => return .completing .broken next
  | .continuing _ => return .completing .continued next
  | .block _ body => enter "block" body scope next
  | .conditional line condition thenBranch elseBranch =>
    return .evaluating condition scope (.branching line thenBranch elseBranch scope next)
  | .whileLoop _ condition body =>
    test { name := "while", condition := some condition, step := none, body, scope } next
  | .doLoop _ condition body =>
    round { name := "do-while", condition := some condition, step := none, body, scope } next
  | .forLoop _ start condition step body => beginFor start condition step body scope next
  | _ => return .evaluating node scope (.discarding next)

/-! ## Out of nodes -/

/-- Goes on with the value of an expression. -/
def deliver (settings : Settings) (value : Value) : Continuation .value → Action Control
  | .assigning name scope next => do
    assign settings name value scope
    return .delivering value next
  | .conjunction right scope next =>
    if value.isTruthy then return .evaluating right scope (.truth next)
    else return .delivering (.ofBool false) next
  | .disjunction right scope next =>
    if value.isTruthy then return .delivering (.ofBool true) next
    else return .evaluating right scope (.truth next)
  | .truth next => return .delivering (.ofBool value.isTruthy) next
  | .leftOperand line operator right scope next =>
    return .evaluating right scope (.rightOperand line operator value next)
  | .rightOperand line operator left next => do
    mark line
    return .delivering (← ofProblem (Operator.binary operator left value)) next
  | .operand line operator next => do
    mark line
    return .delivering (← ofProblem (Operator.unary operator value)) next
  | .argument line callee finished rest scope next =>
    passArguments settings line callee (value :: finished) rest scope next
  | .declaring name scope next => do
    bind scope name value
    record settings (.declared name value)
    return .completing .normal next
  | .returning next => do
    keepResult value
    return .completing (.returned value) next
  | .branching line thenBranch elseBranch scope next => do
    record settings (.branched line value)
    if value.isTruthy then enter "if" thenBranch scope next
    else match elseBranch with
      | some elseBranch => enter "else" elseBranch scope next
      | none => return .completing .normal next
  | .testing line loop next => do
    record settings (.tested line value.isTruthy)
    if value.isTruthy then round loop next else return .completing .normal next
  | .stepping loop next => test loop next
  | .discarding next => return .completing .normal next

/-- Goes on with the result of a call that has ended. -/
def finishCall (settings : Settings) (name : String) (scope : Handle)
    (callerFrame : Option Handle) (callerLine : Int) (result : Value)
    (next : Continuation .value) : Action Control := do
  match ← failure? (leaveCall settings scope callerFrame) with
  | some failure => return .unwinding failure next
  | none =>
    record settings (.returned name result)
    setLine callerLine
    return .delivering result next

/-- Goes on with the statements of a program that are not yet executed, and ends the run after them. -/
def goOn (rest : List Node) (root : Handle) : Action Control :=
  match rest with
  | node :: rest => do
    setLine node.line
    return .executing node root (.program rest root)
  | [] => do
    clear
    return .halted none

/-- Goes on with the completion of a statement. -/
def complete (settings : Settings) (completion : Completion) :
    Continuation .completion → Action Control
  | .sequence rest scope next =>
    match completion with
    | .normal => return inSequence rest scope next
    | _ => return .completing completion next
  | .leaving scope next => do
    match ← failure? (release settings scope) with
    | some failure => return .unwinding failure next
    | none => return .completing completion next
  | .starting loop next => test loop next
  | .looping loop next =>
    match completion with
    | .broken => return .completing .normal next
    | .returned value => return .completing (.returned value) next
    | .normal | .continued =>
      match loop.step with
      | some step => return .evaluating step loop.scope (.stepping loop next)
      | none => test loop next
  | .calling name scope callerFrame callerLine next =>
    match completion with
    | .normal => finishCall settings name scope callerFrame callerLine .undefined next
    | .returned value => finishCall settings name scope callerFrame callerLine value next
    | .broken => fail (.escapedJump .breaking name)
    | .continued => fail (.escapedJump .continuing name)
  | .program rest root =>
    match completion.jump? with
    | some jump => fail (.strayJump jump)
    | none => goOn rest root

/-- Goes on with a failure; if a scope cannot be released on the way, that is the failure from there
on. -/
def unwind (settings : Settings) (failure : Failure) {awaited : Awaited} :
    Continuation awaited → Action Control
  | .leaving scope next => do
    let other ← failure? (release settings scope)
    return .unwinding (other.getD failure) next
  | .calling _ scope callerFrame _ next => do
    let other ← failure? (leaveCall settings scope callerFrame)
    return .unwinding (other.getD failure) next
  | .program .. => do
    clear
    return .halted (some failure)
  | .assigning _ _ next | .conjunction _ _ next | .disjunction _ _ next | .truth next
  | .leftOperand _ _ _ _ next | .rightOperand _ _ _ next | .operand _ _ next
  | .argument _ _ _ _ _ next => return .unwinding failure next
  | .declaring _ _ next | .returning next | .branching _ _ _ _ next | .testing _ _ next
  | .stepping _ next | .discarding next | .sequence _ _ next | .starting _ next
  | .looping _ next => return .unwinding failure next

/-! ## States -/

/-- The state after an action, which unwinds a continuation if it fails. -/
def after (machine : Machine) {awaited : Awaited} (next : Continuation awaited)
    (action : Action Control) : State :=
  match action machine with
  | .ok control machine => ⟨machine, control⟩
  | .error failure machine => ⟨machine, .unwinding failure next⟩

/-- The next state; a run that is over stays as it is. -/
def step (settings : Settings) : State → State
  | ⟨machine, .evaluating node scope next⟩ =>
    after machine next (evaluate settings node scope next)
  | ⟨machine, .executing node scope next⟩ =>
    after machine next (execute settings node scope next)
  | ⟨machine, .delivering value next⟩ => after machine next (deliver settings value next)
  | ⟨machine, .completing completion next⟩ =>
    after machine next (complete settings completion next)
  | ⟨machine, .unwinding failure next⟩ => after machine next (unwind settings failure next)
  | ⟨machine, .halted failure⟩ => ⟨machine, .halted failure⟩

end Scriptlet.State
