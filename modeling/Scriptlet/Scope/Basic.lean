/-! # Scopes

A scope binds names to values and knows the slot of the scope around it.

Main definitions:

* `Handle`: which scope is meant, by order of creation.
* `Scope`: a scope; its bindings are kept in the order in which the names were first bound.
* `Scope.display`: the text that traces show a scope by. -/

namespace Scriptlet

/-- A scope, named by how many scopes were created before it. -/
structure Handle where
  /-- The number of scopes created before. -/
  index : Nat
deriving Repr, DecidableEq, Inhabited

/-- The place of a scope in the order of creation, counted from one. -/
def Handle.serial (handle : Handle) : Nat :=
  handle.index + 1

/-- Sets a name among bindings; a name keeps its place. -/
def bindName {α : Type} (name : String) (value : α) : List (String × α) → List (String × α)
  | [] => [(name, value)]
  | (other, former) :: bindings =>
    if other = name then (name, value) :: bindings
    else (other, former) :: bindName name value bindings

/-- A scope whose names are bound to values of a given type. -/
structure Scope (α : Type) where
  /-- The slot that the scope was created in. -/
  id : Nat
  /-- The slot of the scope around it. -/
  parent : Option Nat
  /-- What the scope was created for. -/
  name : Option String
  /-- The bindings, in the order in which the names were first bound. -/
  bindings : List (String × α)
deriving Repr

namespace Scope

variable {α : Type}

/-- A scope without bindings. -/
instance : Inhabited (Scope α) :=
  ⟨{ id := 0, parent := none, name := none, bindings := [] }⟩

/-- The value of a name. -/
def get? (scope : Scope α) (name : String) : Option α :=
  scope.bindings.lookup name

/-- Whether a name is bound. -/
def binds (scope : Scope α) (name : String) : Bool :=
  (scope.get? name).isSome

/-- Binds a name. -/
def bind (scope : Scope α) (name : String) (value : α) : Scope α :=
  { scope with bindings := bindName name value scope.bindings }

/-- What a scope is called if it was created for nothing in particular. -/
def label (scope : Scope α) : String :=
  match scope.name with
  | none | some "" => "scope"
  | some name => name

/-- The text that traces show a scope by. -/
def display (scope : Scope α) : String :=
  let parent := match scope.parent with
    | some id => toString id
    | none => "None"
  s!"<Environment #{scope.id} {scope.label} parent={parent}>"

end Scope

end Scriptlet
