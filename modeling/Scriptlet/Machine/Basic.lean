import Scriptlet.Machine.Builtin
import Scriptlet.Machine.Event
import Scriptlet.Operator
import Scriptlet.Scope.Store

/-! # The machine that runs programs

Where a run stands apart from what is left to do, and the type of the actions that change it.

Main definitions:

* `Settings`: what is fixed while a program runs.
* `Machine`: the scopes, the current line, the active calls and what has been brought about so far.
* `Failure`: why a run stops before its end; `Failure.ofError`, how it stops with an error.
* `Action`: a change of the machine, which has a result or fails. -/

namespace Scriptlet

/-- What is fixed while a program runs. -/
structure Settings where
  /-- The verbosity of the trace; nothing is traced at zero and below. -/
  verbosity : Int
  /-- The most nested calls that a program may make, if there is such a limit. -/
  depthLimit : Option Int
  /-- The number of nested calls that there is room for, if it is bounded. -/
  room : Option Nat
  /-- The built-in functions. -/
  builtins : List Builtin
  /-- Whether scopes are released when what they were created for has ended. -/
  releases : Bool
deriving Repr, Inhabited

/-- The built-in function of a name. -/
def Settings.builtin? (settings : Settings) (name : String) : Option Builtin :=
  settings.builtins.find? (·.name = name)

/-- Where a run stands, apart from what is left to do. -/
structure Machine where
  /-- The scopes. -/
  store : Store Value
  /-- The line that an error would be blamed on. -/
  line : Int
  /-- The number of calls that are active. -/
  callDepth : Nat
  /-- The scope of the innermost active call. -/
  frame : Option Handle
  /-- The outermost scope of the run that is going on. -/
  root : Option Handle
  /-- The number of functions declared so far. -/
  functions : Nat
  /-- The printed lines, last first. -/
  printed : List String
  /-- The traced events, last first. -/
  traced : List Event
  /-- The notes of built-in functions, last first. -/
  noted : List Note
deriving Inhabited

/-- The machine before any run. -/
def Machine.initial : Machine :=
  { store := .empty, line := 0, callDepth := 0, frame := none, root := none, functions := 0
    printed := [], traced := [], noted := [] }

/-- Why a run stops before its end. -/
inductive Failure
  /-- An error of the program. -/
  | error (error : Error)
  /-- A store used amiss, which no program brings about. -/
  | fault (fault : Store.Fault)
  /-- An integer past the largest double, which no program computes. -/
  | tooLarge
  /-- An integer with too many digits to be written in the report of an error or in a trace. -/
  | unwritable
deriving Repr, DecidableEq, Inhabited

/-- How a run stops with an error: its report is written at once, which can fail. -/
def Failure.ofError (error : Error) : Failure :=
  if error.isWritable then .error error else .unwritable

/-- A change of the machine, which has a result or fails. -/
abbrev Action := EStateM Failure Machine

end Scriptlet
