import Scriptlet.Value

/-! # Built-in functions

Printing is built in; the others let a program look at its own run.

Main definitions:

* `Builtin`: the built-in functions, with their names and numbers of arguments.
* `Note`: what the functions that look at a run note down. -/

namespace Scriptlet

/-- The built-in functions. -/
inductive Builtin
  /-- Prints its argument. -/
  | print
  /-- Notes the number of live scopes. -/
  | track
  /-- Notes the live scopes with their bindings. -/
  | dump
  /-- Notes its arguments and gives their number. -/
  | argc
deriving Repr, DecidableEq, Inhabited

/-- The name that a built-in function is called by. -/
def Builtin.name : Builtin → String
  | print => "print"
  | track => "track"
  | dump => "dump"
  | argc => "argc"

/-- The number of arguments that a built-in function takes, `none` for any number. -/
def Builtin.arity? : Builtin → Option Nat
  | print => some 1
  | track => some 0
  | dump => some 0
  | argc => none

/-- What a note tells of a live scope. -/
structure ScopeView where
  /-- Its slot. -/
  id : Nat
  /-- Its place in the order of creation. -/
  serial : Nat
  /-- What it was created for. -/
  name : Option String
  /-- The slot of the scope around it. -/
  parent : Option Nat
  /-- Whether its slot is pinned. -/
  pinned : Bool
  /-- Its bindings, each value shown. -/
  bindings : List (String × String)
deriving Repr, DecidableEq, Inhabited

/-- What built-in functions note. -/
inductive Note
  | liveCount (count : Nat)
  | liveScopes (scopes : List ScopeView)
  | arguments (values : List Value)
deriving Repr, Inhabited

end Scriptlet
