import Scriptlet.Machine.Step

/-! # Runs

A run starts with the outermost scope and goes on step by step until it is over.  A program need not
end, so a run is taken with a bound on the number of its steps; a run that ends within the bound is the
same with any larger one.

Main definitions:

* `State.start`: the first state of a run.
* `State.advance`: a state after a number of steps.
* `Outcome`: how a run ends, if it does.
* `Machine.run`: the outcome of a run and the machine after it. -/

namespace Scriptlet

namespace State

/-- The first state in which a machine runs statements as a program. -/
def start (body : List Node) (machine : Machine) : State :=
  let (root, store) := machine.store.createRoot Store.rootName
  ⟨{ machine with store, root := some root }, .completing .normal (.program body root)⟩

/-- Whether a run is over. -/
def isHalted (state : State) : Bool :=
  match state.control with
  | .halted _ => true
  | _ => false

/-- The state after a number of steps, or the last one of a run that is over before. -/
def advance (settings : Settings) : Nat → State → State
  | 0, state => state
  | steps + 1, state =>
    if state.isHalted then state else advance settings steps (step settings state)

end State

/-- How a run ends. -/
inductive Outcome
  /-- All statements have been executed. -/
  | ended
  /-- A failure stopped it. -/
  | failed (failure : Failure)
  /-- It does not end within the number of steps that it may take. -/
  | unfinished
deriving Repr, DecidableEq, Inhabited

/-- How a run ends that has come to a state. -/
def State.outcome (state : State) : Outcome :=
  match state.control with
  | .halted none => .ended
  | .halted (some failure) => .failed failure
  | _ => .unfinished

/-- Runs statements as a program for at most a number of steps. -/
def Machine.run (settings : Settings) (steps : Nat) (body : List Node) (machine : Machine) :
    Outcome × Machine :=
  let state := (State.start body machine).advance settings steps
  (state.outcome, state.machine)

end Scriptlet
