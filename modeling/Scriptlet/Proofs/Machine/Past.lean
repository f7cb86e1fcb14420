import Scriptlet.Proofs.Machine.Course

/-! # Runs after earlier ones

A machine that has run programs before counts scopes and functions on from where the earlier runs
left off.  That changes what scopes and functions are called by, and nothing else: a machine with a
past goes through the same states, with every handle and every identity moved up.

Main definitions:

* `Past`: what earlier runs have left behind.
* `Past.store`, `Past.continuation`, `Past.control`, `Past.event`: the same thing with a past.
* `Past.nothing`: no earlier runs.

Main statements:

* `Past.find?_store`, `Past.create_store`, `Past.release_store`, `Past.retain_store`: a store works
  in the same way after a past.
* `Past.binary_value`: so do operators.
* `Past.text_event`: a trace does not tell of the past. -/

namespace Scriptlet

/-- What earlier runs have left behind: the scopes that they created, none of them live, and the
number of functions that they declared. -/
structure Past where
  /-- The scopes that were created before. -/
  scopes : Array (Scope Value)
  /-- The number of functions that were declared before. -/
  functions : Nat

/-- No earlier runs. -/
def Past.nothing : Past :=
  ⟨#[], 0⟩

namespace Past

variable (past : Past)

/-! ## Scopes and values with a past -/

/-- A scope, named by how many scopes were created before it, those of the past included. -/
def handle (handle : Handle) : Handle :=
  ⟨past.scopes.size + handle.index⟩

/-- A function, told apart from those of the past. -/
def closure (closure : Closure) : Closure :=
  { closure with
    identity := past.functions + closure.identity
    scope := past.handle closure.scope }

/-- A value after a past. -/
def value : Value → Value
  | .function closure => .function (past.closure closure)
  | value => value

/-- A scope after a past. -/
def scope (scope : Scope Value) : Scope Value :=
  { scope with bindings := scope.bindings.map fun binding => (binding.1, past.value binding.2) }

/-- A store in which the scopes of the past were created before all others. -/
def store (store : Store Value) : Store Value :=
  { store with
    scopes := past.scopes ++ store.scopes.map past.scope
    slots := store.slots.map (Option.map past.handle) }

/-- Handles stay apart after a past. -/
@[simp] theorem handle_inj {handle other : Handle} :
    past.handle handle = past.handle other ↔ handle = other := by
  obtain ⟨index⟩ := handle
  obtain ⟨otherIndex⟩ := other
  simp [Past.handle]

/-- Handles keep their order after a past. -/
@[simp] theorem serial_handle_le {handle other : Handle} :
    (past.handle handle).serial ≤ (past.handle other).serial ↔ handle.serial ≤ other.serial := by
  simp [Past.handle, Handle.serial]

/-- Handles keep their strict order after a past. -/
@[simp] theorem serial_handle_lt {handle other : Handle} :
    (past.handle handle).serial < (past.handle other).serial ↔ handle.serial < other.serial := by
  simp [Past.handle, Handle.serial]

/-- The scope that a function was declared in is counted on from the past. -/
@[simp] theorem scope_closure (closure : Closure) :
    (past.closure closure).scope = past.handle closure.scope := rfl

/-- The type of a value has no past. -/
@[simp] theorem typeName_value (value : Value) : (past.value value).typeName = value.typeName := by
  cases value <;> rfl

/-- What a trace shows of a value has no past. -/
@[simp] theorem display_value (value : Value) : (past.value value).display = value.display := by
  cases value <;> rfl

/-- What is printed of a value has no past. -/
@[simp] theorem print_value (value : Value) : (past.value value).print = value.print := by
  cases value <;> rfl

/-- Whether a value counts as true has no past. -/
@[simp] theorem isTruthy_value (value : Value) :
    (past.value value).isTruthy = value.isTruthy := by
  cases value <;> rfl

/-- Whether a value is a text has no past. -/
@[simp] theorem isText_value (value : Value) : (past.value value).isText = value.isText := by
  cases value <;> rfl

/-- A value links to the same scope as without the past, counted on. -/
@[simp] theorem scope?_value (value : Value) :
    (past.value value).scope? = value.scope?.map past.handle := by
  cases value <;> rfl

/-- A name has the same value in a scope after a past, counted on. -/
@[simp] theorem get?_scope (scope : Scope Value) (name : String) :
    (past.scope scope).get? name = (scope.get? name).map past.value :=
  Store.lookup_map past.value name scope.bindings

/-- A scope binds the same names after a past. -/
@[simp] theorem binds_scope (scope : Scope Value) (name : String) :
    (past.scope scope).binds name = scope.binds name := by
  simp [Scope.binds]

/-- A name is bound in a scope in the same way after a past. -/
theorem scope_bind (scope : Scope Value) (name : String) (value : Value) :
    past.scope (scope.bind name value) = (past.scope scope).bind name (past.value value) := by
  simp only [Past.scope, Scope.bind, Store.map_bindName]

/-! ## The store -/

/-- The slots are taken by the same scopes after a past. -/
@[simp] theorem slots_store (store : Store Value) :
    (past.store store).slots = store.slots.map (Option.map past.handle) := rfl

/-- A handle stands for the same scope after a past. -/
@[simp] theorem scope_store (store : Store Value) (handle : Handle) :
    (past.store store).scope (past.handle handle) = past.scope (store.scope handle) := by
  by_cases created : handle.index < store.scopes.size
  · simp [Store.scope, Past.store, Past.handle, Array.getD, created]
  · simp [Store.scope, Past.store, Past.handle, Array.getD, created]
    rfl

/-- The same scopes are pinned after a past. -/
@[simp] theorem isPinned_store (store : Store Value) (handle : Handle) :
    (past.store store).isPinned (past.handle handle) = store.isPinned handle := by
  rw [Store.isPinned, scope_store]
  rfl

/-- A name has the same value in a store after a past, counted on. -/
@[simp] theorem get?_store (store : Store Value) (handle : Handle) (name : String) :
    (past.store store).get? (past.handle handle) name =
      (store.get? handle name).map past.value := by
  simp [Store.get?]

/-- The scopes of a store bind the same names after a past. -/
@[simp] theorem binds_store (store : Store Value) (handle : Handle) (name : String) :
    (past.store store).binds (past.handle handle) name = store.binds handle name := by
  simp [Store.binds]

/-- As many scopes are live after a past. -/
@[simp] theorem size_store (store : Store Value) : (past.store store).size = store.size := by
  rw [Store.size, slots_store, Array.size_map]
  rfl

/-- A search may climb as far after a past. -/
@[simp] theorem walkLimit_store (store : Store Value) :
    (past.store store).walkLimit = store.walkLimit := by
  simp [Store.walkLimit]

/-- The same scopes are live after a past. -/
@[simp] theorem live_store (store : Store Value) :
    (past.store store).live = store.live.map past.handle := by
  simp [Store.live, List.filterMap_map, List.map_filterMap]

/-- An identifier stands for the same scope after a past. -/
theorem resolve_store (store : Store Value) (id : Int) :
    (past.store store).resolve id = (store.resolve id).map past.handle := by
  cases id with
  | negSucc index => rfl
  | ofNat index =>
    rw [Store.resolve, Store.resolve, slots_store, Array.getElem?_map]
    cases store.slots[index]? with
    | none => rfl
    | some occupant => cases occupant <;> rfl

/-- A scope has the same parent after a past. -/
theorem parent_store (store : Store Value) (handle : Handle) :
    (past.store store).parent (past.handle handle) =
      (store.parent handle).map (Option.map past.handle) := by
  simp only [Store.parent, scope_store, Past.scope]
  cases (store.scope handle).parent with
  | none => rfl
  | some id =>
    simp only [resolve_store]
    cases store.resolve id <;> rfl

/-- A name is found in the same scope after a past. -/
theorem find?_store (store : Store Value) (name : String) (handle : Handle) :
    (past.store store).find? name (past.handle handle) =
      (store.find? name handle).map (Option.map past.handle) := by
  rw [Store.find?, Store.find?, walkLimit_store]
  generalize store.walkLimit = limit
  induction limit generalizing handle with
  | zero => rfl
  | succ limit ih =>
    simp only [Store.findWithin?, binds_store, parent_store]
    split
    · rfl
    · cases store.parent handle with
      | error fault => rfl
      | ok around =>
        cases around with
        | none => rfl
        | some around => exact ih around

/-- A name is bound in a store in the same way after a past. -/
theorem bind_store (store : Store Value) (handle : Handle) (name : String) (value : Value) :
    (past.store store).bind (past.handle handle) name (past.value value) =
      past.store (store.bind handle name value) := by
  simp only [Store.bind, Past.store, Past.handle, Store.mk.injEq, and_true]
  refine Array.ext_getElem? fun index => ?_
  by_cases earlier : index < past.scopes.size
  · have other : past.scopes.size + handle.index ≠ index := by omega
    simp [Array.getElem?_modify, Array.getElem?_append, earlier, other]
  · obtain ⟨later, rfl⟩ := Nat.exists_eq_add_of_le (Nat.le_of_not_lt earlier)
    by_cases same : handle.index = later
    · simp [Array.getElem?_modify, Array.getElem?_append, earlier, same, Function.comp_def,
        scope_bind]
    · simp [Array.getElem?_modify, Array.getElem?_append, same]

/-- A scope is created in the same way after a past; only its handle is counted on. -/
theorem create_store (store : Store Value) (parent : Option Nat) (name : Option String) :
    (past.store store).create parent name =
      (past.handle (store.create parent name).1, past.store (store.create parent name).2) := by
  obtain ⟨scopes, slots, free, pinned⟩ := store
  cases free with
  | nil => simp [Store.create, Past.store, Past.handle, Past.scope]
  | cons id free => simp [Store.create, Past.store, Past.handle, Past.scope]

/-- A scope is created inside another one in the same way after a past. -/
theorem createChild_store (store : Store Value) (around : Handle) (name : Option String) :
    (past.store store).createChild (past.handle around) name =
      (past.handle (store.createChild around name).1,
        past.store (store.createChild around name).2) := by
  simp [Store.createChild, Past.scope, create_store]

/-- Nothing is live after a store has been cleared, with or without a past. -/
theorem clear_store (store : Store Value) :
    (past.store store).clear = past.store store.clear := by
  simp [Store.clear, Past.store]

/-- A scope is released in the same way after a past. -/
theorem release_store (store : Store Value) (handle : Handle) :
    (past.store store).release (past.handle handle) =
      ((store.release handle).1, past.store (store.release handle).2) := by
  have same : ∀ occupant : Option Handle,
      occupant.map past.handle = some (past.handle handle) ↔ occupant = some handle := by
    intro occupant
    cases occupant <;> simp
  have pins : (past.store store).pinned = store.pinned := rfl
  simp only [Store.release, scope_store, Past.scope, pins, slots_store, Array.getElem?_map]
  split
  · rfl
  · cases store.slots[(store.scope handle).id]? with
    | none => rfl
    | some occupant =>
      by_cases present : occupant = some handle
      · simp [present, Past.store]
      · simp [same, present]

/-- Slots are pinned in the same way after a past, up to a number of steps. -/
theorem pinWithin_store (store : Store Value) (limit : Nat) (id? : Option Nat) :
    (past.store store).pinWithin limit id? =
      ((store.pinWithin limit id?).1.map (List.map past.handle),
        past.store (store.pinWithin limit id?).2) := by
  induction limit generalizing store id? with
  | zero => rfl
  | succ limit ih =>
    cases id? with
    | none => rfl
    | some id =>
      by_cases pinned : store.pinned.contains id = true
      · have pins : (past.store store).pinned = store.pinned := rfl
        simp [Store.pinWithin, pins, pinned, Except.map]
      · have inserted : { past.store store with pinned := store.pinned.insert id } =
            past.store { store with pinned := store.pinned.insert id } := rfl
        have pins : (past.store store).pinned = store.pinned := rfl
        simp only [Store.pinWithin, pins, pinned, inserted, resolve_store, Bool.false_eq_true,
          if_false]
        cases Store.resolve { store with pinned := store.pinned.insert id } id with
        | error fault => rfl
        | ok handle =>
          simp only [Except.map, scope_store, Past.scope, ih]
          cases Store.pinWithin { store with pinned := store.pinned.insert id } limit _ with
          | mk result after => cases result <;> rfl

/-- A scope and those around it are pinned in the same way after a past. -/
theorem pin_store (store : Store Value) (handle : Handle) :
    (past.store store).pin (past.handle handle) =
      ((store.pin handle).1.map (List.map past.handle), past.store (store.pin handle).2) := by
  simp [Store.pin, Past.scope, pinWithin_store]

/-- Scopes link to the same unpinned scopes after a past. -/
theorem links_store (store : Store Value) (handles : List Handle) :
    (past.store store).links Value.scope? (handles.map past.handle) =
      (store.links Value.scope? handles).map past.handle := by
  have linked : ∀ handle, ((past.store store).scope (past.handle handle)).bindings.filterMap
      (fun binding => binding.2.scope?) = List.map past.handle
        ((store.scope handle).bindings.filterMap fun binding => binding.2.scope?) := by
    intro handle
    simp [Past.scope, List.filterMap_map, List.map_filterMap]
  have unpinned : (fun handle => !(past.store store).isPinned handle) ∘ past.handle =
      fun handle => !store.isPinned handle := by
    funext handle
    simp
  simp only [Store.links, List.flatMap_map, linked, ← List.map_flatMap, List.filter_map, unpinned,
    List.map_reverse]

/-- What a scope reaches is kept in the same way after a past. -/
theorem retain_store (store : Store Value) (handle : Handle) :
    (past.store store).retain Value.scope? (past.handle handle) =
      ((store.retain Value.scope? handle).1, past.store (store.retain Value.scope? handle).2) := by
  suffices within : ∀ (limit : Nat) (store : Store Value) (pending : List Handle),
      (past.store store).retainWithin Value.scope? limit (pending.map past.handle) =
        ((store.retainWithin Value.scope? limit pending).1,
          past.store (store.retainWithin Value.scope? limit pending).2) by
    simpa [Store.retain] using within (store.slots.size + 1) store [handle]
  -- By rounds of the worklist: each pins one scope and adds what its bindings link to.
  intro limit
  induction limit with
  | zero => intro store pending; rfl
  | succ limit ih =>
    intro store pending
    have pinnedAlike : (past.store store).isPinned ∘ past.handle = store.isPinned := by
      funext handle
      simp
    simp only [Store.retainWithin, List.dropWhile_map, pinnedAlike]
    cases pending.dropWhile store.isPinned with
    | nil => rfl
    | cons handle pending =>
      simp only [List.map_cons, pin_store]
      cases store.pin handle with
      | mk result after =>
        cases result with
        | error fault => rfl
        | ok handles =>
          simp only [Except.map, links_store, ← List.map_append, ih]

/-- A scope outlives that of a function after a past if it does without. -/
theorem outlives_store (store : Store Value) (scope : Handle) (closure : Closure) :
    Action.outlives (past.store store) (past.handle scope) (past.closure closure) =
      Action.outlives store scope closure := by
  simp [Action.outlives]

/-- A look at a scope shows the same after a past, except for when it was created. -/
theorem view_store (store : Store Value) (handle : Handle) :
    Action.view (past.store store) (past.handle handle) =
      { Action.view store handle with
        serial := past.scopes.size + (Action.view store handle).serial } := by
  have serial : (past.handle handle).serial = past.scopes.size + handle.serial := rfl
  simp [Action.view, Past.scope, Function.comp_def, serial]

/-! ## What is told and what is left to do -/

/-- An event after a past. -/
def event : Event → Event
  | .called name arguments depth => .called name (arguments.map past.value) depth
  | .returned name result => .returned name (past.value result)
  | .defined name parameters scope => .defined name parameters (past.scope scope)
  | .declared name value => .declared name (past.value value)
  | .assigned name value scope => .assigned name (past.value value) (past.scope scope)
  | .branched line condition => .branched line (past.value condition)
  | .tested line holds => .tested line holds
  | .evaluated line typeName => .evaluated line typeName

/-- A note after a past. -/
def note : Note → Note
  | .liveCount count => .liveCount count
  | .liveScopes scopes =>
    .liveScopes (scopes.map fun view => { view with serial := past.scopes.size + view.serial })
  | .arguments values => .arguments (values.map past.value)

/-- A completion after a past. -/
def completion : Completion → Completion
  | .returned value => .returned (past.value value)
  | completion => completion

/-- A loop after a past. -/
def loop (loop : Loop) : Loop :=
  { loop with scope := past.handle loop.scope }

/-- A function that is being called, after a past. -/
def callee : Callee → Callee
  | .builtin builtin => .builtin builtin
  | .declared closure => .declared (past.closure closure)

/-- What is left to do, after a past. -/
def continuation {awaited : Awaited} : Continuation awaited → Continuation awaited
  | .assigning name scope next => .assigning name (past.handle scope) (continuation next)
  | .conjunction right scope next => .conjunction right (past.handle scope) (continuation next)
  | .disjunction right scope next => .disjunction right (past.handle scope) (continuation next)
  | .truth next => .truth (continuation next)
  | .leftOperand line operator right scope next =>
    .leftOperand line operator right (past.handle scope) (continuation next)
  | .rightOperand line operator left next =>
    .rightOperand line operator (past.value left) (continuation next)
  | .operand line operator next => .operand line operator (continuation next)
  | .argument line callee finished rest scope next =>
    .argument line (past.callee callee) (finished.map past.value) rest (past.handle scope)
      (continuation next)
  | .declaring name scope next => .declaring name (past.handle scope) (continuation next)
  | .returning next => .returning (continuation next)
  | .branching line thenBranch elseBranch scope next =>
    .branching line thenBranch elseBranch (past.handle scope) (continuation next)
  | .testing line loop next => .testing line (past.loop loop) (continuation next)
  | .stepping loop next => .stepping (past.loop loop) (continuation next)
  | .discarding next => .discarding (continuation next)
  | .sequence rest scope next => .sequence rest (past.handle scope) (continuation next)
  | .leaving scope next => .leaving (past.handle scope) (continuation next)
  | .starting loop next => .starting (past.loop loop) (continuation next)
  | .looping loop next => .looping (past.loop loop) (continuation next)
  | .calling name scope callerFrame callerLine next =>
    .calling name (past.handle scope) (callerFrame.map past.handle) callerLine
      (continuation next)
  | .program rest root => .program rest (past.handle root)

/-- What is being done, after a past. -/
def control : Control → Control
  | .evaluating node scope next => .evaluating node (past.handle scope) (past.continuation next)
  | .executing node scope next => .executing node (past.handle scope) (past.continuation next)
  | .delivering value next => .delivering (past.value value) (past.continuation next)
  | .completing completion next =>
    .completing (past.completion completion) (past.continuation next)
  | .unwinding failure next => .unwinding failure (past.continuation next)
  | .halted failure => .halted failure

/-- A trace does not tell whether there were earlier runs. -/
@[simp] theorem text_event (event : Event) : (past.event event).text = event.text := by
  have shown : ∀ values : List Value,
      (values.map past.value).map Value.display = values.map Value.display := by
    simp [Function.comp_def]
  have named : ∀ scope : Scope Value, (past.scope scope).display = scope.display := fun _ => rfl
  unfold Event.text Past.event
  cases event <;> simp only [shown, named, display_value, typeName_value, isTruthy_value]

/-- An event is told of at the same verbosity after a past. -/
@[simp] theorem level_event (event : Event) : (past.event event).level = event.level := by
  cases event <;> rfl

/-- An event can be told of after a past if it can be without. -/
@[simp] theorem isWritable_event (event : Event) :
    (past.event event).isWritable = event.isWritable := by
  cases event <;> rfl


/-! ## Operators -/

/-- Operators with one operand do not depend on the past. -/
theorem unary_value (operator : String) (operand : Value) :
    Operator.unary operator (past.value operand) =
      (Operator.unary operator operand).map past.value := by
  unfold Operator.unary
  split
  · rw [isTruthy_value]
    rfl
  · cases operand <;> rfl
  · cases operand <;> rfl
  · cases operand <;> rfl
  · rfl

/-- Numbers and texts have no past. -/
theorem map_value {α : Type} {make : α → Value}
    (plain : ∀ content, past.value (make content) = make content)
    (answer : Except Operator.Problem α) :
    make <$> answer = (make <$> answer).map past.value := by
  cases answer with
  | ok content => exact congrArg Except.ok (plain content).symm
  | error problem => rfl

/-- Arithmetic does not depend on the past. -/
theorem arithmetic_value (operation : Operator.Arithmetic) (operator : String)
    (left right : Value) :
    operation.apply operator (past.value left) (past.value right) =
      (operation.apply operator left right).map past.value := by
  cases left with
  | integer =>
    cases right with
    | integer => exact past.map_value (fun _ => rfl) _
    | float => exact past.map_value (fun _ => rfl) _
    | text | undefined | function | builtin | null => rfl
  | float =>
    cases right with
    | integer => exact past.map_value (fun _ => rfl) _
    | float | text | undefined | function | builtin | null => rfl
  | text | undefined | function | builtin | null => cases right <;> rfl

/-- Values are equal after a past if they are without; functions keep apart. -/
theorem equal_value (left right : Value) :
    Operator.equal (past.value left) (past.value right) = Operator.equal left right := by
  cases left with
  | function closure =>
    cases right with
    | function other => simp [Operator.equal, Past.value, Past.closure]
    | integer | float | text | undefined | builtin | null => rfl
  | integer | float | text | undefined | builtin | null => cases right <;> rfl

/-- The order of values does not depend on the past. -/
theorem order_value (operator : String) (left right : Value) :
    Operator.order operator (past.value left) (past.value right) =
      Operator.order operator left right := by
  cases left <;> cases right <;> rfl

/-- Comparisons by size do not depend on the past. -/
theorem relational_value (operator : String) (holds : Ordering → Bool) (left right : Value) :
    Operator.relational operator holds (past.value left) (past.value right) =
      (Operator.relational operator holds left right).map past.value := by
  simp only [Operator.relational, order_value]
  cases Operator.order operator left right <;> rfl

/-- Bitwise operations do not depend on the past. -/
theorem bitwise_value (operation : Operator.Bitwise) (operator : String) (left right : Value) :
    operation.apply operator (past.value left) (past.value right) =
      (operation.apply operator left right).map past.value := by
  cases left with
  | integer =>
    cases right with
    | integer => exact past.map_value (fun _ => rfl) _
    | float | text | undefined | function | builtin | null => rfl
  | float | text | undefined | function | builtin | null => cases right <;> rfl

/-- Sums of numbers and of texts do not depend on the past. -/
theorem plus_value (left right : Value) :
    Operator.plus (past.value left) (past.value right) =
      (Operator.plus left right).map past.value := by
  simp only [Operator.plus, isText_value, print_value]
  split
  · rfl
  · exact past.arithmetic_value .add "+" left right

/-- Operators do not depend on the past: functions are told apart by their identities, which are all
moved up by the same number. -/
theorem binary_value (operator : String) (left right : Value) :
    Operator.binary operator (past.value left) (past.value right) =
      (Operator.binary operator left right).map past.value := by
  unfold Operator.binary
  split
  case h_1 => exact past.plus_value left right
  case h_2 | h_3 | h_4 | h_5 => exact past.arithmetic_value _ _ left right
  case h_6 | h_7 =>
    rw [equal_value]
    cases Operator.equal left right <;> rfl
  case h_8 | h_9 | h_10 | h_11 => exact past.relational_value _ _ left right
  case h_12 | h_13 | h_14 | h_15 | h_16 => exact past.bitwise_value _ _ left right
  case h_17 => rfl

/-! ## Without earlier runs -/

/-- Without earlier runs handles are not counted on. -/
@[simp] theorem handle_nothing : nothing.handle = id := by
  funext handle
  simp [Past.handle, nothing]

/-- Without earlier runs functions are not counted on. -/
@[simp] theorem closure_nothing : nothing.closure = id := by
  funext closure
  simp [Past.closure]
  simp [nothing]

/-- Without earlier runs values stay as they are. -/
@[simp] theorem value_nothing : nothing.value = id := by
  funext value
  cases value <;> simp [Past.value]

/-- Without earlier runs the values of a scope stay as they are. -/
@[simp] theorem scope_nothing : nothing.scope = id := by
  funext scope
  simp [Past.scope]

/-- Without earlier runs nothing in a store is counted on. -/
@[simp] theorem store_nothing : nothing.store = id := by
  funext store
  simp [Past.store]
  simp [nothing]

/-- Without earlier runs an event is told of as it is. -/
@[simp] theorem event_nothing : nothing.event = id := by
  funext event
  cases event <;> simp [Past.event]

/-- Without earlier runs a note is taken as it is. -/
@[simp] theorem note_nothing : nothing.note = id := by
  funext note
  cases note with
  | liveCount count => rfl
  | liveScopes scopes => simp [Past.note, nothing]
  | arguments given => simp [Past.note]

/-- Without earlier runs the same is left to do. -/
@[simp] theorem continuation_nothing {awaited : Awaited} (next : Continuation awaited) :
    nothing.continuation next = next := by
  induction next with
  | argument line callee finished rest scope next ih =>
    cases callee <;> simp [Past.continuation, Past.callee, ih]
  | testing line loop next ih | stepping loop next ih | starting loop next ih
  | looping loop next ih => simp [Past.continuation, Past.loop, ih]
  | program => simp [Past.continuation]
  | assigning | conjunction | disjunction | truth | leftOperand | rightOperand | operand | declaring
  | returning | branching | discarding | sequence | leaving | calling =>
    rename_i ih
    simp [Past.continuation, ih]

/-- Without earlier runs the same is being done. -/
@[simp] theorem control_nothing : nothing.control = id := by
  funext control
  cases control with
  | completing completion next => cases completion <;> simp [Past.control, Past.completion]
  | evaluating | executing | delivering | unwinding | halted => simp [Past.control]

end Past

end Scriptlet
