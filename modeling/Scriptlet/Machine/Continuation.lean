import Scriptlet.Machine.Basic

/-! # What is left to do

A run is a sequence of states.  Each one has a machine, a control that says what is being done now, and
in the control a continuation that says what is to be done after it.  A continuation waits either for
the value of an expression or for the completion of a statement, which its type tells.

Main definitions:

* `Completion`: how a statement ends.
* `Loop`: a loop that is being executed.
* `Continuation`: what is to be done with a value or a completion.
* `Control`: what is being done now.
* `State`: a machine and its control. -/

namespace Scriptlet

/-- How a statement ends. -/
inductive Completion
  /-- The next statement follows. -/
  | normal
  /-- The innermost loop ends. -/
  | broken
  /-- The innermost loop goes on with its next round. -/
  | continued
  /-- The innermost call ends with a result. -/
  | returned (value : Value)
deriving Repr, Inhabited

/-- The jump by which a statement ends, if it is one. -/
def Completion.jump? : Completion → Option Jump
  | normal => none
  | broken => some .breaking
  | continued => some .continuing
  | returned _ => some .returning

/-- A loop that is being executed: rounds as long as the condition holds, each followed by the step. -/
structure Loop where
  /-- What the scope of a round is created for. -/
  name : String
  /-- The condition; without one, rounds go on until a jump. -/
  condition : Option Node
  /-- What is evaluated between a round and the next test. -/
  step : Option Node
  /-- The statements of a round. -/
  body : List Node
  /-- The scope of the condition and the step, around those of the rounds. -/
  scope : Handle
deriving Repr, Inhabited

/-- A function that is being called. -/
inductive Callee
  /-- A built-in function. -/
  | builtin (builtin : Builtin)
  /-- A declared function. -/
  | declared (closure : Closure)
deriving Repr, Inhabited

/-- What a continuation waits for. -/
inductive Awaited
  /-- The value of an expression. -/
  | value
  /-- The completion of a statement. -/
  | completion
deriving Repr, DecidableEq, Inhabited

/-- What is to be done with a value or a completion, and after it. -/
inductive Continuation : Awaited → Type
  /-- The value is assigned to a name, seen from a scope. -/
  | assigning (name : String) (scope : Handle) (next : Continuation .value) : Continuation .value
  /-- The left operand of a conjunction is awaited. -/
  | conjunction (right : Node) (scope : Handle) (next : Continuation .value) : Continuation .value
  /-- The left operand of a disjunction is awaited. -/
  | disjunction (right : Node) (scope : Handle) (next : Continuation .value) : Continuation .value
  /-- What the value counts as is the result. -/
  | truth (next : Continuation .value) : Continuation .value
  /-- The left operand of an operator is awaited. -/
  | leftOperand (line : Int) (operator : String) (right : Node) (scope : Handle)
      (next : Continuation .value) : Continuation .value
  /-- The right operand of an operator is awaited. -/
  | rightOperand (line : Int) (operator : String) (left : Value) (next : Continuation .value) :
      Continuation .value
  /-- The only operand of an operator is awaited. -/
  | operand (line : Int) (operator : String) (next : Continuation .value) : Continuation .value
  /-- An argument of a call is awaited, after the finished ones, which are last first. -/
  | argument (line : Int) (callee : Callee) (finished : List Value) (rest : List Node)
      (scope : Handle) (next : Continuation .value) : Continuation .value
  /-- The value of a new variable of a scope is awaited. -/
  | declaring (name : String) (scope : Handle) (next : Continuation .completion) :
      Continuation .value
  /-- The result of the innermost call is awaited. -/
  | returning (next : Continuation .completion) : Continuation .value
  /-- The value that decides between two branches is awaited. -/
  | branching (line : Int) (thenBranch : List Node) (elseBranch : Option (List Node))
      (scope : Handle) (next : Continuation .completion) : Continuation .value
  /-- The value that decides whether a loop goes on is awaited. -/
  | testing (line : Int) (loop : Loop) (next : Continuation .completion) : Continuation .value
  /-- The next test of a loop follows, whatever the value. -/
  | stepping (loop : Loop) (next : Continuation .completion) : Continuation .value
  /-- The statement is complete, whatever the value. -/
  | discarding (next : Continuation .completion) : Continuation .value
  /-- Statements follow, unless there is a jump. -/
  | sequence (rest : List Node) (scope : Handle) (next : Continuation .completion) :
      Continuation .completion
  /-- A scope is released. -/
  | leaving (scope : Handle) (next : Continuation .completion) : Continuation .completion
  /-- The first test of a loop follows, whatever the completion. -/
  | starting (loop : Loop) (next : Continuation .completion) : Continuation .completion
  /-- A round of a loop ends. -/
  | looping (loop : Loop) (next : Continuation .completion) : Continuation .completion
  /-- A call ends. -/
  | calling (name : String) (scope : Handle) (callerFrame : Option Handle) (callerLine : Int)
      (next : Continuation .value) : Continuation .completion
  /-- Statements of a program follow, and the end of the run after them. -/
  | program (rest : List Node) (root : Handle) : Continuation .completion

/-- What is being done now. -/
inductive Control
  /-- An expression is evaluated in a scope. -/
  | evaluating (node : Node) (scope : Handle) (next : Continuation .value)
  /-- A statement is executed in a scope. -/
  | executing (node : Node) (scope : Handle) (next : Continuation .completion)
  /-- An expression has a value. -/
  | delivering (value : Value) (next : Continuation .value)
  /-- A statement has ended. -/
  | completing (completion : Completion) (next : Continuation .completion)
  /-- A failure leaves all that is being done, the innermost first. -/
  | unwinding (failure : Failure) {awaited : Awaited} (next : Continuation awaited)
  /-- The run is over, with a failure or without. -/
  | halted (failure : Option Failure)

/-- A state of a run. -/
structure State where
  /-- The machine. -/
  machine : Machine
  /-- What is being done now. -/
  control : Control

end Scriptlet
