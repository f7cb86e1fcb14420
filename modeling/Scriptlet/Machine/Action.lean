import Scriptlet.Machine.Basic

/-! # Actions

The changes of a machine that running a program is made of.

Main definitions:

* `fail`, `mark`, `record`: errors, lines and traces.
* `createChild`, `release`, `bind`, `lookup`, `assign`: scopes and names.
* `enterCall`, `leaveCall`, `callBuiltin`: calls. -/

namespace Scriptlet

namespace Action

variable {α : Type}

/-- Stops with an error, blamed on the current line. -/
def fail (cause : Cause) : Action α := fun machine =>
  .error (.ofError ⟨cause, machine.line⟩) machine

/-- Makes a line the current one, unless it is zero. -/
def mark (line : Int) : Action Unit := fun machine =>
  .ok () (if line = 0 then machine else { machine with line })

/-- Makes a line the current one. -/
def setLine (line : Int) : Action Unit := fun machine =>
  .ok () { machine with line }

/-- The current line. -/
def currentLine : Action Int := fun machine =>
  .ok machine.line machine

/-- Tells of an event, if the verbosity is high enough; fails if the event cannot be told of. -/
def record (settings : Settings) (event : Event) : Action Unit := fun machine =>
  if (event.level : Int) ≤ settings.verbosity then
    if event.isWritable then .ok () { machine with traced := event :: machine.traced }
    else .error .unwritable machine
  else .ok () machine

/-- Prints a line. -/
def printLine (line : String) : Action Unit := fun machine =>
  .ok () { machine with printed := line :: machine.printed }

/-- Notes something. -/
def note (note : Note) : Action Unit := fun machine =>
  .ok () { machine with noted := note :: machine.noted }

/-- The result of an operator. -/
def ofProblem : Except Operator.Problem α → Action α
  | .ok value => pure value
  | .error (.error cause) => fail cause
  | .error .tooLarge => fun machine => .error .tooLarge machine

/-- The failure of an action, if it fails. -/
def failure? (action : Action Unit) : Action (Option Failure) := fun machine =>
  match action machine with
  | .ok _ machine => .ok none machine
  | .error failure machine => .ok (some failure) machine

/-! ## Scopes -/

/-- What the store tells, failing if it is used amiss. -/
def query (question : Store Value → Except Store.Fault α) : Action α := fun machine =>
  match question machine.store with
  | .ok answer => .ok answer machine
  | .error fault => .error (.fault fault) machine

/-- Changes the store, failing if it is used amiss. -/
def update (change : Store Value → Except Store.Fault α × Store Value) : Action α := fun machine =>
  match change machine.store with
  | (result, store) =>
    let machine := { machine with store }
    match result with
    | .ok value => .ok value machine
    | .error fault => .error (.fault fault) machine

/-- Creates a scope inside another one. -/
def createChild (around : Handle) (name : String) : Action Handle := fun machine =>
  let (handle, store) := machine.store.createChild around (some name)
  .ok handle { machine with store }

/-- Releases a scope, if scopes are released at all. -/
def release (settings : Settings) (scope : Handle) : Action Unit :=
  if settings.releases then update (·.release scope) else pure ()

/-- Releases all scopes, the outermost one included. -/
def clear : Action Unit := fun machine =>
  .ok () { machine with store := machine.store.clear, root := none }

/-- Binds a name in a scope. -/
def setBinding (scope : Handle) (name : String) (value : Value) : Action Unit := fun machine =>
  .ok () { machine with store := machine.store.bind scope name value }

/-- Keeps the scope that a function was declared in, and all that it reaches. -/
def retain (closure : Closure) : Action Unit :=
  update (·.retain Value.scope? closure.scope)

/-- Whether a scope can be live after the scope that a function was declared in has been released. -/
def outlives (store : Store Value) (scope : Handle) (closure : Closure) : Bool :=
  !store.isPinned closure.scope &&
    (store.isPinned scope || scope.serial < closure.scope.serial)

/-- Binds a name in a scope; what a function needs is kept as long as the binding can be read. -/
def bind (scope : Handle) (name : String) (value : Value) : Action Unit := do
  match value with
  | .function closure =>
    if ← query fun store => .ok (outlives store scope closure) then retain closure
    setBinding scope name value
  | _ => setBinding scope name value

/-- The value of a name, seen from a scope. -/
def lookup (name : String) (scope : Handle) : Action Value := do
  match ← query (·.find? name scope) with
  | none => fail (.unbound name)
  | some holder =>
    match ← query fun store => .ok (store.get? holder name) with
    | some value => return value
    | none => fail (.unbound name)

/-- Assigns a name, seen from a scope; a name without a binding is bound in that scope. -/
def assign (settings : Settings) (name : String) (value : Value) (scope : Handle) :
    Action Unit := do
  let holder := (← query (·.find? name scope)).getD scope
  bind holder name value
  record settings (.assigned name value (← query fun store => .ok (store.scope holder)))

/-- Declares a function in a scope. -/
def declareFunction (name : String) (parameters : List String) (body : List Node) (scope : Handle) :
    Action Unit := fun machine =>
  let closure : Closure := { identity := machine.functions, name, parameters, body, scope }
  .ok () { machine with
    functions := machine.functions + 1
    store := machine.store.bind scope name (.function closure) }

/-! ## Calls -/

/-- Refuses a call with the wrong number of arguments. -/
def checkArity (name : String) (expected : Option Nat) (given : Nat) : Action Unit :=
  match expected with
  | some count => if given = count then pure () else fail (.wrongArity name count given)
  | none => pure ()

/-- Refuses a call for which there is no allowance or no room. -/
def checkDepth (settings : Settings) (name : String) : Action Unit := fun machine =>
  match settings.depthLimit with
  | some limit =>
    if limit ≤ machine.callDepth then fail (.tooDeep limit name) machine
    else checkRoom machine
  | none => checkRoom machine
where
  /-- Refuses a call for which there is no room. -/
  checkRoom : Action Unit := fun machine =>
    match settings.room with
    | some room => if room ≤ machine.callDepth then fail .noRoom machine else .ok () machine
    | none => .ok () machine

/-- Makes a scope that of the innermost call; gives the one that was before. -/
def enterCall (scope : Handle) : Action (Option Handle) := fun machine =>
  .ok machine.frame
    { machine with callDepth := machine.callDepth + 1, frame := some scope }

/-- Ends the innermost call. -/
def leaveCall (settings : Settings) (scope : Handle) (callerFrame : Option Handle) :
    Action Unit := do
  modify fun machine =>
    { machine with callDepth := machine.callDepth - 1, frame := callerFrame }
  release settings scope

/-- Keeps what a function needs that leaves the call in which it was declared. -/
def keepResult (value : Value) : Action Unit := fun machine =>
  match value, machine.frame with
  | .function closure, some frame =>
    if frame.serial ≤ closure.scope.serial then retain closure machine else .ok () machine
  | _, _ => .ok () machine

/-- Binds the parameters of a call. -/
def bindParameters (scope : Handle) : List String → List Value → Action Unit
  | name :: names, value :: values => do
    bind scope name value
    bindParameters scope names values
  | _, _ => pure ()

/-- What a note tells of a live scope. -/
def view (store : Store Value) (handle : Handle) : ScopeView :=
  let scope := store.scope handle
  { id := scope.id, serial := handle.serial, name := scope.name, parent := scope.parent
    pinned := store.isPinned handle
    bindings := scope.bindings.map fun (name, value) => (name, value.display) }

/-- Calls a built-in function. -/
def callBuiltin (builtin : Builtin) (arguments : List Value) : Action Value := do
  match builtin with
  | .print =>
    printLine ((arguments.head?.map Value.print).getD "")
    return .undefined
  | .track =>
    note (.liveCount (← query fun store => .ok store.size))
    return .undefined
  | .dump =>
    note (.liveScopes (← query fun store => .ok (store.live.map (view store))))
    return .undefined
  | .argc =>
    note (.arguments arguments)
    return .integer arguments.length

end Action

end Scriptlet
