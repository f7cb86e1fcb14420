import Scriptlet.Decimal.Numeral
import Scriptlet.Value

/-! # Traces

What a trace of a run tells of.

Main definitions:

* `Event`: what a trace can tell of.
* `Event.level`: the verbosity from which on an event is told of.
* `Event.isWritable`: whether an event can be told of.
* `Event.text`: the line that tells of an event. -/

namespace Scriptlet

/-- What a trace can tell of. -/
inductive Event
  /-- A call begins, as the given number of nested calls. -/
  | called (name : String) (arguments : List Value) (depth : Nat)
  /-- A call ends. -/
  | returned (name : String) (result : Value)
  /-- A function is declared in a scope. -/
  | defined (name : String) (parameters : List String) (scope : Scope Value)
  /-- A variable is declared. -/
  | declared (name : String) (value : Value)
  /-- A variable of a scope is assigned. -/
  | assigned (name : String) (value : Value) (scope : Scope Value)
  /-- A choice is made. -/
  | branched (line : Int) (condition : Value)
  /-- The test of a loop is made. -/
  | tested (line : Int) (holds : Bool)
  /-- A node is evaluated. -/
  | evaluated (line : Int) (typeName : String)
deriving Repr, Inhabited

/-- A truth value in a trace. -/
def Event.truth (condition : Bool) : String :=
  if condition then "True" else "False"

/-- The least verbosity at which an event is told of. -/
def Event.level : Event → Nat
  | called .. | returned .. => 1
  | defined .. | declared .. | assigned .. => 2
  | branched .. | tested .. => 3
  | evaluated .. => 4

/-- Whether the line of a trace that tells of an event can be written: a line number may be too long
for that. -/
def Event.isWritable : Event → Bool
  | .branched line _ | .tested line _ | .evaluated line _ => Decimal.isWritable line
  | .called .. | .returned .. | .defined .. | .declared .. | .assigned .. => true

/-- The line of a trace that tells of an event that can be told of. -/
def Event.text : Event → String
  | called name arguments depth =>
    let shown := ", ".intercalate (arguments.map Value.display)
    s!"call {name}({shown}) depth={depth}"
  | returned name result => s!"return {name} -> {result.display}"
  | defined name parameters scope =>
    let shown := ", ".intercalate parameters
    s!"define function {name}({shown}) in {scope.display}"
  | declared name value => s!"declare {name}: {value.typeName} = {value.display}"
  | assigned name value scope => s!"assign {name} = {value.display} in {scope.display}"
  | branched line condition =>
    s!"line {line}: if condition {condition.display} -> {Event.truth condition.isTruthy}"
  | tested line holds => s!"line {line}: loop condition -> {Event.truth holds}"
  | evaluated line typeName => s!"line {line}: eval {typeName}"

end Scriptlet
