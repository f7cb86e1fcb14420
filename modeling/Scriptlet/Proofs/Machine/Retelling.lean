import Scriptlet.Proofs.Machine.Move
import Scriptlet.Proofs.Machine.Past

/-! # What a run has brought about can be retold

A program cannot look at the lines it has printed, at what has been traced, or at what earlier runs
have left behind.  So its run can be told in another way, after a past, with lines before those that
it prints or with events left out, and goes on as it would have gone on.  The one thing that leaving
an event out can change is that the event may be one that cannot be told of.

Main definitions:

* `Settings.withVerbosity`: the same settings with another verbosity.
* `Event.Omissible`: leaving an event out at another verbosity changes nothing.
* `Retelling`: another way to tell what a run has brought about, with `Retelling.machine` and
  `Retelling.state`.
* `Retelling.Follows`: what is told by one run is, retold, what is told at another verbosity.
* `Retelling.Retells`: an action does on a machine that is retold what another one does on the
  machine itself.
* `Machine.Stops`: after a moment, a run stops with a failure and prints nothing more.

Main statements:

* `Retelling.step_state`: a step from a state that is retold is the step from the state itself,
  retold.
* `Retelling.advance_state`: so is a number of steps.
* `Machine.course_printed_suffix`: what has been printed stays printed. -/

namespace Scriptlet

/-- The same settings with another verbosity. -/
def Settings.withVerbosity (settings : Settings) (verbosity : Int) : Settings :=
  { settings with verbosity }

/-- Leaving an event out at another verbosity changes nothing: if it is told of, then at the other
verbosity too, or it can be told of. -/
def Event.Omissible (settings : Settings) (verbosity : Int) (event : Event) : Prop :=
  (event.level : Int) ≤ settings.verbosity → verbosity < event.level → event.isWritable = true

/-- Another way to tell what a run has brought about, after earlier runs. -/
structure Retelling extends Past where
  /-- The printed lines, last first. -/
  printed : List String → List String
  /-- The traced events, last first. -/
  traced : List Event → List Event

namespace Retelling

/-- A machine that is retold. -/
def machine (retelling : Retelling) (machine : Machine) : Machine :=
  { machine with
    store := retelling.store machine.store
    frame := machine.frame.map retelling.handle
    root := machine.root.map retelling.handle
    functions := retelling.functions + machine.functions
    printed := retelling.printed machine.printed
    traced := retelling.traced machine.traced
    noted := machine.noted.map retelling.note }

/-- A state in which what has been brought about is retold. -/
def state (retelling : Retelling) (state : State) : State :=
  ⟨retelling.machine state.machine, retelling.control state.control⟩

/-- A line that is printed later is told in the same way, and an event that is recorded later is
told after the past, if the other verbosity is high enough. -/
structure Follows (retelling : Retelling) (settings : Settings) (verbosity : Int) : Prop where
  printed_cons : ∀ line lines, retelling.printed (line :: lines) = line :: retelling.printed lines
  traced_told : ∀ (event : Event) (events : List Event), (event.level : Int) ≤ settings.verbosity →
    retelling.traced (event :: events) =
      if (event.level : Int) ≤ verbosity then retelling.event event :: retelling.traced events
      else retelling.traced events
  untold : ∀ event : Event, ¬(event.level : Int) ≤ settings.verbosity →
    ¬(event.level : Int) ≤ verbosity

/-- Without earlier runs only what has been printed and traced is retold. -/
theorem state_nothing (printed : List String → List String) (traced : List Event → List Event)
    (machine : Machine) (control : Control) :
    (⟨.nothing, printed, traced⟩ : Retelling).state ⟨machine, control⟩ =
      ⟨{ machine with printed := printed machine.printed, traced := traced machine.traced },
        control⟩ := by
  have functions : Past.nothing.functions = 0 := rfl
  simp [state, Retelling.machine, functions]

variable {retelling : Retelling} {settings : Settings} {verbosity : Int}

/-- A run that is retold has the same outcome. -/
@[simp] theorem outcome_state (state : State) :
    (retelling.state state).outcome = state.outcome := by
  obtain ⟨machine, control⟩ := state
  cases control with
  | halted failure => cases failure <;> rfl
  | evaluating | executing | delivering | completing | unwinding => rfl

/-! ## Actions -/

section Actions

variable {α β γ δ : Type}

open Past Scriptlet.Action

/-- The result of an action, on a machine that is retold. -/
def result (retelling : Retelling) (give : α → β) :
    EStateM.Result Failure Machine α → EStateM.Result Failure Machine β
  | .ok value machine => .ok (give value) (retelling.machine machine)
  | .error failure machine => .error failure (retelling.machine machine)

/-- An action does on a machine that is retold what another one does on the machine itself. -/
def RetellsAt (retelling : Retelling) (give : α → β) (action : Action α) (other : Action β)
    (machine : Machine) : Prop :=
  other (retelling.machine machine) = retelling.result give (action machine)

/-- An action does on all machines that are retold what another one does on the machines
themselves. -/
def Retells (retelling : Retelling) (give : α → β) (action : Action α) (other : Action β) : Prop :=
  ∀ machine, retelling.RetellsAt give action other machine

/-- Actions follow those that do the same on a machine that is retold. -/
theorem retellsAt_bind (give : α → β) {give' : γ → δ} {action : Action α} {other : Action β}
    {following : α → Action γ} {otherFollowing : β → Action δ} {machine : Machine}
    (first : retelling.RetellsAt give action other machine)
    (follows : ∀ value after, action machine = .ok value after →
      retelling.RetellsAt give' (following value) (otherFollowing (give value)) after) :
    retelling.RetellsAt give' (action >>= following) (other >>= otherFollowing) machine := by
  show EStateM.bind other otherFollowing _ =
    retelling.result give' (EStateM.bind action following _)
  rw [EStateM.bind, EStateM.bind, show other (retelling.machine machine) = _ from first]
  cases run : action machine with
  | ok value after => exact follows value after run
  | error failure after => rfl

/-- Actions follow those that do the same on all machines that are retold. -/
theorem retells_bind (give : α → β) {give' : γ → δ} {action : Action α} {other : Action β}
    {following : α → Action γ} {otherFollowing : β → Action δ}
    (first : retelling.Retells give action other)
    (follows : ∀ value, retelling.Retells give' (following value) (otherFollowing (give value))) :
    retelling.Retells give' (action >>= following) (other >>= otherFollowing) :=
  fun machine => retellsAt_bind give (first machine) fun value after _ => follows value after

/-- Nothing is done. -/
theorem retells_pure (give : α → β) (value : α) :
    retelling.Retells give (pure value) (pure (give value)) :=
  fun _ => rfl

/-- An error is raised. -/
theorem retells_fail (give : α → β) (cause : Cause) :
    retelling.Retells give (fail cause) (fail cause) :=
  fun _ => rfl

/-- A line becomes the current one. -/
theorem retells_setLine (line : Int) : retelling.Retells id (setLine line) (setLine line) :=
  fun _ => rfl

/-- A line is marked. -/
theorem retells_mark (line : Int) : retelling.Retells id (mark line) (mark line) := by
  intro machine
  simp only [RetellsAt, mark, result]
  split <;> rfl

/-- The current line is looked at. -/
theorem retells_currentLine : retelling.Retells id currentLine currentLine :=
  fun _ => rfl

/-- An event is recorded after the past, or left out. -/
theorem retells_record (follows : retelling.Follows settings verbosity) {event : Event}
    (omissible : event.Omissible settings verbosity) :
    retelling.Retells id (record settings event)
      (record (settings.withVerbosity verbosity) (retelling.event event)) := by
  intro machine
  by_cases told : (event.level : Int) ≤ settings.verbosity
  · by_cases retold : (event.level : Int) ≤ verbosity
    · cases writable : event.isWritable with
      | true =>
        simp [RetellsAt, record, result, Retelling.machine, Settings.withVerbosity, told, retold,
          writable, follows.traced_told event _ told]
      | false =>
        simp [RetellsAt, record, result, Settings.withVerbosity, told, retold, writable]
    · have writable := omissible told (by omega)
      simp [RetellsAt, record, result, Retelling.machine, Settings.withVerbosity, told, retold,
        writable, follows.traced_told event _ told]
  · simp [RetellsAt, record, result, Settings.withVerbosity, told, follows.untold event told]

/-- A line is printed. -/
theorem retells_printLine (follows : retelling.Follows settings verbosity) (line : String) :
    retelling.Retells id (printLine line) (printLine line) := by
  intro machine
  simp only [RetellsAt, printLine, result, Retelling.machine, follows.printed_cons, id]

/-- An operator has a result or a problem. -/
theorem retells_ofProblem (give : α → β) (answer : Except Operator.Problem α) :
    retelling.Retells give (ofProblem answer) (ofProblem (answer.map give)) := by
  match answer with
  | .ok value => exact retells_pure give value
  | .error (.error cause) => exact retells_fail give cause
  | .error .tooLarge => exact fun _ => rfl

/-- The store is looked at, which shows the same after a past. -/
theorem retells_query {give : α → β} {question : Store Value → Except Store.Fault α}
    {other : Store Value → Except Store.Fault β}
    (alike : ∀ store, other (retelling.store store) = (question store).map give) :
    retelling.Retells give (query question) (query other) := by
  intro machine
  simp only [RetellsAt, query, Retelling.machine, alike]
  cases question machine.store <;> rfl

/-- The store is changed in the same way after a past. -/
theorem retells_update {give : α → β} {change : Store Value → Except Store.Fault α × Store Value}
    {other : Store Value → Except Store.Fault β × Store Value}
    (alike : ∀ store, other (retelling.store store) =
      ((change store).1.map give, retelling.store (change store).2)) :
    retelling.Retells give (update change) (update other) := by
  intro machine
  simp only [RetellsAt, update, Retelling.machine, alike]
  cases change machine.store with
  | mk result after => cases result <;> rfl

/-- The failure of an action is caught. -/
theorem retells_failure? {action other : Action Unit}
    (retells : retelling.Retells id action other) :
    retelling.Retells id (failure? action) (failure? other) := by
  intro machine
  have same : other (retelling.machine machine) = retelling.result id (action machine) :=
    retells machine
  rw [RetellsAt, failure?, failure?, same]
  cases action machine <;> rfl

/-! ### Scopes and names -/

/-- A scope is created. -/
theorem retells_createChild (around : Handle) (name : String) :
    retelling.Retells retelling.handle (createChild around name)
      (createChild (retelling.handle around) name) := by
  intro machine
  simp only [RetellsAt, createChild, Retelling.machine, createChild_store]
  rfl

/-- A scope is released, if scopes are released at all. -/
theorem retells_release (scope : Handle) :
    retelling.Retells id (release settings scope)
      (release (settings.withVerbosity verbosity) (retelling.handle scope)) := by
  show retelling.Retells id (release settings scope) (release settings (retelling.handle scope))
  rw [release, release]
  split
  · refine retells_update fun store => ?_
    rw [release_store]
    cases (store.release scope).1 <;> rfl
  · exact retells_pure id ()

/-- All scopes are released. -/
theorem retells_clear : retelling.Retells id clear clear := by
  intro machine
  simp only [RetellsAt, clear, Retelling.machine, clear_store]
  rfl

/-- A name is bound, and nothing is kept for it. -/
theorem retells_setBinding (scope : Handle) (name : String) (value : Value) :
    retelling.Retells id (setBinding scope name value)
      (setBinding (retelling.handle scope) name (retelling.value value)) := by
  intro machine
  simp only [RetellsAt, setBinding, Retelling.machine, bind_store]
  rfl

/-- What a function reaches is kept. -/
theorem retells_retain (closure : Closure) :
    retelling.Retells id (retain closure) (retain (retelling.closure closure)) := by
  refine retells_update fun store => ?_
  rw [scope_closure, retain_store]
  cases (store.retain Value.scope? closure.scope).1 <;> rfl

/-- A name is bound, and what a function needs is kept. -/
theorem retells_bindName (scope : Handle) (name : String) (value : Value) :
    retelling.Retells id (bind scope name value)
      (bind (retelling.handle scope) name (retelling.value value)) := by
  cases value with
  | function closure =>
    refine retells_bind id (retells_query fun store => ?_) fun kept => ?_
    · rw [outlives_store]
      rfl
    · cases kept with
      | true =>
        exact retells_bind id (retells_retain closure)
          fun _ => retells_setBinding scope name (.function closure)
      | false => exact retells_setBinding scope name (.function closure)
  | integer | float | text | undefined | builtin | null => exact retells_setBinding scope name _

/-- A name is looked up. -/
theorem retells_lookup (name : String) (scope : Handle) :
    retelling.Retells retelling.value (lookup name scope)
      (lookup name (retelling.handle scope)) := by
  refine retells_bind _ (retells_query fun store => find?_store retelling.toPast store name scope)
    fun found => ?_
  cases found with
  | none => exact retells_fail _ _
  | some holder =>
    refine retells_bind (Option.map retelling.value) (retells_query fun store => ?_) fun value => ?_
    · rw [get?_store]
      rfl
    · cases value with
      | none => exact retells_fail _ _
      | some value => exact retells_pure retelling.value value

/-- A look at a scope shows what it is after a retelling. -/
theorem retells_scope (handle : Handle) :
    retelling.Retells retelling.scope (query fun store => .ok (store.scope handle))
      (query fun store => .ok (store.scope (retelling.handle handle))) := by
  refine retells_query fun store => ?_
  rw [scope_store]
  rfl

/-- A name is assigned. -/
theorem retells_assign (follows : retelling.Follows settings verbosity) (name : String)
    (value : Value) (scope : Handle) :
    retelling.Retells id (assign settings name value scope)
      (assign (settings.withVerbosity verbosity) name (retelling.value value)
        (retelling.handle scope)) := by
  refine retells_bind _ (retells_query fun store => find?_store retelling.toPast store name scope)
    fun found => ?_
  rw [Option.getD_map]
  refine retells_bind id (retells_bindName (found.getD scope) name value) fun _ => ?_
  refine retells_bind _ (retells_scope (found.getD scope)) fun holder => ?_
  exact retells_record follows fun _ _ => rfl

/-- A function is declared, with an identity that is counted on from the past. -/
theorem retells_declareFunction (name : String) (parameters : List String) (body : List Node)
    (scope : Handle) :
    retelling.Retells id (declareFunction name parameters body scope)
      (declareFunction name parameters body (retelling.handle scope)) := by
  intro machine
  have bound := bind_store retelling.toPast machine.store scope name
    (.function ⟨machine.functions, name, parameters, body, scope⟩)
  simp only [RetellsAt, declareFunction, result, Retelling.machine, ← bound, Nat.add_assoc]
  rfl

/-! ### Calls -/

/-- The number of arguments is checked. -/
theorem retells_checkArity (name : String) (expected : Option Nat) (given : Nat) :
    retelling.Retells id (checkArity name expected given) (checkArity name expected given) := by
  cases expected with
  | none => exact retells_pure id ()
  | some count =>
    rw [checkArity]
    split
    · exact retells_pure id ()
    · exact retells_fail id _

/-- The number of active calls is checked. -/
theorem retells_checkDepth (name : String) :
    retelling.Retells id (checkDepth settings name)
      (checkDepth (settings.withVerbosity verbosity) name) := by
  show retelling.Retells id (checkDepth settings name) (checkDepth settings name)
  have room : retelling.Retells id (checkDepth.checkRoom settings)
      (checkDepth.checkRoom settings) := by
    intro machine
    simp only [RetellsAt, checkDepth.checkRoom]
    cases settings.room with
    | none => rfl
    | some room =>
      by_cases full : room ≤ machine.callDepth
      · simp [full, Retelling.machine, fail, result]
      · simp [full, Retelling.machine, result]
  intro machine
  simp only [RetellsAt, checkDepth]
  cases settings.depthLimit with
  | none => exact room machine
  | some limit =>
    by_cases deep : limit ≤ machine.callDepth
    · simp [deep, Retelling.machine, fail, result]
    · simpa [deep, Retelling.machine, RetellsAt] using room machine

/-- A call becomes active. -/
theorem retells_enterCall (scope : Handle) :
    retelling.Retells (Option.map retelling.handle) (enterCall scope)
      (enterCall (retelling.handle scope)) :=
  fun _ => rfl

/-- A call ends. -/
theorem retells_leaveCall (scope : Handle) (callerFrame : Option Handle) :
    retelling.Retells id (leaveCall settings scope callerFrame)
      (leaveCall (settings.withVerbosity verbosity) (retelling.handle scope)
        (callerFrame.map retelling.handle)) :=
  retells_bind id (fun _ => rfl) fun _ => retells_release scope

/-- The result of a call is kept. -/
theorem retells_keepResult (value : Value) :
    retelling.Retells id (keepResult value) (keepResult (retelling.value value)) := by
  intro machine
  cases value with
  | function closure =>
    cases frame : machine.frame with
    | none => simp [RetellsAt, keepResult, Retelling.machine, Past.value, frame, result]
    | some scope =>
      by_cases inside : scope.serial ≤ closure.scope.serial
      · simpa [RetellsAt, keepResult, Retelling.machine, Past.value, frame, inside] using
          retells_retain closure machine
      · simp [RetellsAt, keepResult, Retelling.machine, Past.value, frame, inside, result]
  | integer | float | text | undefined | builtin | null => rfl

/-- The parameters of a call are bound. -/
theorem retells_bindParameters (scope : Handle) (names : List String) (values : List Value) :
    retelling.Retells id (bindParameters scope names values)
      (bindParameters (retelling.handle scope) names (values.map retelling.value)) := by
  induction names generalizing values with
  | nil => exact retells_pure id ()
  | cons name names ih =>
    cases values with
    | nil => exact retells_pure id ()
    | cons value values =>
      exact retells_bind id (retells_bindName scope name value) fun _ => ih values

/-- Something is noted. -/
theorem retells_note (note : Note) :
    retelling.Retells id (Action.note note) (Action.note (retelling.note note)) :=
  fun _ => rfl

/-- A built-in function is called. -/
theorem retells_callBuiltin (follows : retelling.Follows settings verbosity) (builtin : Builtin)
    (arguments : List Value) :
    retelling.Retells retelling.value (callBuiltin builtin arguments)
      (callBuiltin builtin (arguments.map retelling.value)) := by
  cases builtin with
  | print =>
    have shown : ((arguments.map retelling.value).head?.map Value.print) =
        arguments.head?.map Value.print := by
      cases arguments <;> simp
    rw [callBuiltin, callBuiltin, shown]
    exact retells_bind id (retells_printLine follows _) fun _ => retells_pure retelling.value _
  | track =>
    refine retells_bind id (retells_query fun store => ?_) fun count => ?_
    · rw [size_store]
      rfl
    · exact retells_bind id (retells_note (.liveCount count)) fun _ _ => rfl
  | dump =>
    let moved (view : ScopeView) : ScopeView :=
      { view with serial := retelling.scopes.size + view.serial }
    refine retells_bind (List.map moved) (retells_query fun store => ?_) fun views => ?_
    · simp [view_store, Function.comp_def, Except.map, moved]
    · exact retells_bind id (retells_note (.liveScopes views)) fun _ _ => rfl
  | argc =>
    refine retells_bind id (retells_note (.arguments arguments)) fun _ => ?_
    rw [List.length_map]
    exact retells_pure retelling.value (.integer arguments.length)

end Actions

/-! ## Steps -/

section Steps

open Past Scriptlet.Action State

variable (follows : retelling.Follows settings verbosity)

/-- The first of some statements is executed, or all have completed. -/
theorem control_inSequence (retelling : Retelling) (nodes : List Node) (scope : Handle)
    (next : Continuation .completion) :
    inSequence nodes (retelling.handle scope) (retelling.continuation next) =
      retelling.control (inSequence nodes scope next) := by
  cases nodes <;> rfl

/-- Statements are executed in a new scope. -/
theorem retells_enter (name : String) (nodes : List Node) (around : Handle)
    (next : Continuation .completion) :
    retelling.Retells retelling.control (enter name nodes around next)
      (enter name nodes (retelling.handle around) (retelling.continuation next)) := by
  refine retells_bind _ (retells_createChild around name) fun scope => ?_
  have same := retelling.control_inSequence nodes scope (.leaving scope next)
  exact fun _ => congrArg (EStateM.Result.ok · _) same

/-- A loop goes through its body. -/
theorem retells_round (loop : Loop) (next : Continuation .completion) :
    retelling.Retells retelling.control (round loop next)
      (round (retelling.loop loop) (retelling.continuation next)) :=
  retells_enter loop.name loop.body loop.scope (.looping loop next)

/-- A loop tests its condition. -/
theorem retells_test (loop : Loop) (next : Continuation .completion) :
    retelling.Retells retelling.control (test loop next)
      (test (retelling.loop loop) (retelling.continuation next)) := by
  obtain ⟨name, condition, step, body, scope⟩ := loop
  cases condition with
  | none => exact retells_round _ next
  | some condition => exact fun _ => rfl

include follows

/-- A function is called. -/
theorem retells_call (callee : Callee) (arguments : List Value)
    (next : Continuation .value) :
    retelling.Retells retelling.control (call settings callee arguments next)
      (call (settings.withVerbosity verbosity) (retelling.callee callee)
        (arguments.map retelling.value) (retelling.continuation next)) := by
  cases callee with
  | builtin builtin =>
    exact retells_bind _ (retells_callBuiltin follows builtin arguments) fun _ _ => rfl
  | declared closure =>
    refine retells_bind id (retells_checkDepth closure.name) fun _ => ?_
    refine retells_bind id retells_currentLine fun callerLine => ?_
    refine retells_bind _ (retells_createChild closure.scope closure.name) fun scope => ?_
    refine retells_bind id (retells_bindParameters scope closure.parameters arguments)
      fun _ => ?_
    refine retells_bind retelling.machine (fun _ => rfl) fun machine => ?_
    refine retells_bind id (retells_record follows fun _ _ => rfl) fun _ => ?_
    refine retells_bind _ (retells_enterCall scope) fun callerFrame => ?_
    have same := retelling.control_inSequence closure.body scope
      (.calling closure.name scope callerFrame callerLine next)
    exact fun _ => congrArg (EStateM.Result.ok · _) same

/-- The arguments of a call are evaluated. -/
theorem retells_passArguments (line : Int) (callee : Callee)
    (finished : List Value) (rest : List Node) (scope : Handle) (next : Continuation .value) :
    retelling.Retells retelling.control
      (passArguments settings line callee finished rest scope next)
      (passArguments (settings.withVerbosity verbosity) line (retelling.callee callee)
        (finished.map retelling.value) rest (retelling.handle scope)
        (retelling.continuation next)) := by
  cases rest with
  | cons argument rest => exact fun _ => rfl
  | nil =>
    refine retells_bind id (retells_mark line) fun _ => ?_
    rw [← List.map_reverse]
    exact retells_call follows callee finished.reverse next

/-- A call begins. -/
theorem retells_beginCall (line : Int) (name : String) (arguments : List Node) (scope : Handle)
    (next : Continuation .value) :
    retelling.Retells retelling.control (beginCall settings line name arguments scope next)
      (beginCall (settings.withVerbosity verbosity) line name arguments (retelling.handle scope)
        (retelling.continuation next)) := by
  have same : (settings.withVerbosity verbosity).builtin? name = settings.builtin? name := rfl
  rw [beginCall, beginCall, same]
  cases settings.builtin? name with
  | some builtin =>
    exact retells_bind id (retells_checkArity _ _ _) fun _ =>
      retells_passArguments follows line (.builtin builtin) [] arguments scope next
  | none =>
    refine retells_bind _ (retells_lookup name scope) fun value => ?_
    cases value with
    | function closure =>
      exact retells_bind id (retells_checkArity _ _ _) fun _ =>
        retells_passArguments follows line (.declared closure) [] arguments scope next
    | integer | float | text | undefined | builtin | null => exact retells_fail _ _

/-- An expression is evaluated. -/
theorem retells_evaluate (node : Node) (scope : Handle) (next : Continuation .value)
    {machine : Machine}
    (omissible : (Event.evaluated (machine.markedLine node.line) node.typeName).Omissible settings
      verbosity) :
    retelling.RetellsAt retelling.control (evaluate settings node scope next)
      (evaluate (settings.withVerbosity verbosity) node (retelling.handle scope)
        (retelling.continuation next)) machine := by
  refine retellsAt_bind id (retells_mark node.line machine) fun _ marked run => ?_
  rw [mark_eq] at run
  cases run
  -- the line that is told of is the one that has just been marked
  refine retellsAt_bind id (retells_currentLine _) fun line between run => ?_
  cases run
  refine retellsAt_bind id (retells_record follows omissible _) fun _ after _ => ?_
  split
  case h_1 | h_2 | h_3 => rfl
  case h_4 => exact retellsAt_bind _ (retells_lookup _ scope after) fun _ _ _ => rfl
  case h_5 | h_7 | h_8 | h_9 | h_10 => rfl
  case h_6 | h_12 => exact retells_fail _ _ after
  case h_11 => exact retells_beginCall follows _ _ _ scope next after

/-- A function is declared. -/
theorem retells_define (name : String) (parameters : List String)
    (body : List Node) (scope : Handle) (next : Continuation .completion) :
    retelling.Retells retelling.control (define settings name parameters body scope next)
      (define (settings.withVerbosity verbosity) name parameters body (retelling.handle scope)
        (retelling.continuation next)) := by
  refine retells_bind id (retells_declareFunction name parameters body scope) fun _ => ?_
  refine retells_bind _ (retells_scope scope) fun holder => ?_
  exact retells_bind id (retells_record follows fun _ _ => rfl) fun _ _ => rfl

omit follows in
/-- A loop with a scope of its own begins. -/
theorem retells_beginFor (start condition step : Option Node) (body : List Node)
    (around : Handle) (next : Continuation .completion) :
    retelling.Retells retelling.control (beginFor start condition step body around next)
      (beginFor start condition step body (retelling.handle around)
        (retelling.continuation next)) := by
  refine retells_bind _ (retells_createChild around "for") fun scope => ?_
  cases start with
  | some start => exact fun _ => rfl
  | none => exact retells_test ⟨"for-body", condition, step, body, scope⟩ (.leaving scope next)

/-- A statement is executed. -/
theorem retells_execute (node : Node) (scope : Handle)
    (next : Continuation .completion) :
    retelling.Retells retelling.control (execute settings node scope next)
      (execute (settings.withVerbosity verbosity) node (retelling.handle scope)
        (retelling.continuation next)) := by
  refine retells_bind id (retells_mark node.line) fun _ => ?_
  split
  case h_1 name parameters body => exact retells_define follows name parameters body scope next
  case h_2 | h_3 | h_4 | h_5 | h_6 | h_7 | h_9 | h_13 => exact fun _ => rfl
  case h_8 body => exact retells_enter "block" body scope next
  case h_10 condition body =>
    exact retells_test ⟨"while", some condition, none, body, scope⟩ next
  case h_11 condition body =>
    exact retells_round ⟨"do-while", some condition, none, body, scope⟩ next
  case h_12 start condition step body =>
    exact retells_beginFor start condition step body scope next

/-- A value is delivered. -/
theorem retells_deliver (value : Value) (next : Continuation .value) {machine : Machine}
    (omissible : ∀ event, Tells ⟨machine, .delivering value next⟩ event →
      event.Omissible settings verbosity) :
    retelling.RetellsAt retelling.control (deliver settings value next)
      (deliver (settings.withVerbosity verbosity) (retelling.value value)
        (retelling.continuation next)) machine := by
  -- Only a choice and a test are told of here; that these events may be left out is what is
  -- assumed.
  cases next with
  | assigning name scope next =>
    exact retellsAt_bind id (retells_assign follows name value scope machine) fun _ _ _ => rfl
  | conjunction right scope next | disjunction right scope next =>
    simp only [Past.continuation, deliver, isTruthy_value]
    split <;> rfl
  | truth next =>
    simp only [Past.continuation, deliver, isTruthy_value]
    rfl
  | leftOperand line operator right scope next => rfl
  | rightOperand line operator left next =>
    refine retells_bind id (retells_mark line) (fun _ => ?_) machine
    refine retells_bind retelling.value ?_ fun _ _ => rfl
    rw [binary_value]
    exact retells_ofProblem _ _
  | operand line operator next =>
    refine retells_bind id (retells_mark line) (fun _ => ?_) machine
    refine retells_bind retelling.value ?_ fun _ _ => rfl
    rw [unary_value]
    exact retells_ofProblem _ _
  | argument line callee finished rest scope next =>
    exact retells_passArguments follows line callee (value :: finished) rest scope next machine
  | declaring name scope next =>
    refine retells_bind id (retells_bindName scope name value) (fun _ => ?_) machine
    exact retells_bind id (retells_record follows fun _ _ => rfl) fun _ _ => rfl
  | returning next => exact retellsAt_bind id (retells_keepResult value machine) fun _ _ _ => rfl
  | branching line thenBranch elseBranch scope next =>
    refine retells_bind id (retells_record follows (omissible _ .branched)) (fun _ => ?_) machine
    simp only [isTruthy_value]
    split
    · exact retells_enter "if" thenBranch scope next
    · cases elseBranch with
      | some elseBranch => exact retells_enter "else" elseBranch scope next
      | none => exact fun _ => rfl
  | testing line loop next =>
    simp only [Past.continuation, deliver, isTruthy_value]
    refine retells_bind id (retells_record follows (omissible _ .tested)) (fun _ => ?_) machine
    split
    · exact retells_round loop next
    · exact fun _ => rfl
  | stepping loop next => exact retells_test loop next machine
  | discarding next => rfl

/-- A call ends with a result. -/
theorem retells_finishCall (name : String) (scope : Handle) (callerFrame : Option Handle)
    (callerLine : Int) (result : Value) (next : Continuation .value) :
    retelling.Retells retelling.control
      (finishCall settings name scope callerFrame callerLine result next)
      (finishCall (settings.withVerbosity verbosity) name (retelling.handle scope)
        (callerFrame.map retelling.handle) callerLine (retelling.value result)
        (retelling.continuation next)) := by
  refine retells_bind id (retells_failure? (retells_leaveCall scope callerFrame))
    fun failed => ?_
  cases failed with
  | some failure => exact fun _ => rfl
  | none =>
    refine retells_bind id (retells_record follows fun _ _ => rfl) fun _ => ?_
    exact retells_bind id (retells_setLine callerLine) fun _ _ => rfl

omit follows in
/-- The next statement of a program is executed, or the program ends. -/
theorem retells_goOn (rest : List Node) (root : Handle) :
    retelling.Retells retelling.control (goOn rest root) (goOn rest (retelling.handle root)) := by
  cases rest with
  | nil => exact retells_bind id retells_clear fun _ _ => rfl
  | cons node rest => exact retells_bind id (retells_setLine node.line) fun _ _ => rfl

/-- A statement has completed. -/
theorem retells_complete (completion : Completion) (next : Continuation .completion) :
    retelling.Retells retelling.control (complete settings completion next)
      (complete (settings.withVerbosity verbosity) (retelling.completion completion)
        (retelling.continuation next)) := by
  -- Nothing is told of but the end of a call.
  cases next with
  | sequence rest scope next =>
    cases completion with
    | normal =>
      exact fun _ => congrArg (EStateM.Result.ok · _) (retelling.control_inSequence rest scope next)
    | broken | continued | returned => exact fun _ => rfl
  | leaving scope next =>
    refine retells_bind id (retells_failure? (retells_release scope)) fun failed => ?_
    cases failed <;> exact fun _ => rfl
  | starting loop next => exact retells_test loop next
  | looping loop next =>
    obtain ⟨name, condition, step, body, scope⟩ := loop
    cases completion with
    | broken | returned => exact fun _ => rfl
    | normal | continued =>
      cases step with
      | some step => exact fun _ => rfl
      | none => exact retells_test ⟨name, condition, none, body, scope⟩ next
  | calling name scope callerFrame callerLine next =>
    cases completion with
    | normal => exact retells_finishCall follows name scope callerFrame callerLine .undefined next
    | returned value =>
      exact retells_finishCall follows name scope callerFrame callerLine value next
    | broken | continued => exact retells_fail _ _
  | program rest root =>
    cases completion with
    | normal => exact retells_goOn rest root
    | broken | continued | returned => exact retells_fail _ _

omit follows in
/-- A failure leaves what is left to do. -/
theorem retells_unwind (failure : Failure) {awaited : Awaited} (next : Continuation awaited) :
    retelling.Retells retelling.control (unwind settings failure next)
      (unwind (settings.withVerbosity verbosity) failure (retelling.continuation next)) := by
  cases next with
  | leaving scope next =>
    exact retells_bind id (retells_failure? (retells_release scope))
      fun _ _ => rfl
  | calling name scope callerFrame callerLine next =>
    exact retells_bind id (retells_failure? (retells_leaveCall scope callerFrame))
      fun _ _ => rfl
  | program rest root => exact retells_bind id retells_clear fun _ _ => rfl
  -- All others own no scope and are dropped.
  | assigning | conjunction | disjunction | truth | leftOperand | rightOperand | operand | argument
  | declaring | returning | branching | testing | stepping | discarding | sequence | starting
  | looping => exact fun _ => rfl

omit follows in
/-- What an action comes to on a machine that is retold is what it comes to on the machine itself,
retold. -/
theorem after_machine {awaited : Awaited} {next : Continuation awaited}
    {action other : Action Control} {machine : Machine}
    (retells : retelling.RetellsAt retelling.control action other machine) :
    after (retelling.machine machine) (retelling.continuation next) other =
      retelling.state (after machine next action) := by
  rw [after, after, show other (retelling.machine machine) = _ from retells]
  cases action machine <;> rfl

/-- A step from a state that is retold is the step from the state itself, retold, if it leaves no
event out that it should have failed to tell of. -/
theorem step_state {state : State}
    (omissible : ∀ event, state.Tells event → event.Omissible settings verbosity) :
    (retelling.state state).step (settings.withVerbosity verbosity) =
      retelling.state (state.step settings) := by
  obtain ⟨machine, control⟩ := state
  cases control with
  | evaluating node scope next =>
    exact after_machine (retells_evaluate follows node scope next (omissible _ .evaluated))
  | executing node scope next => exact after_machine (retells_execute follows node scope next _)
  | delivering value next => exact after_machine (retells_deliver follows value next omissible)
  | completing completion next =>
    exact after_machine (retells_complete follows completion next _)
  | unwinding failure next => exact after_machine (retells_unwind failure next _)
  | halted failure => rfl

/-- Any number of steps from a state that is retold are those from the state itself, retold, if they
leave no event out that they should have failed to tell of. -/
theorem advance_state {state : State} {steps : Nat}
    (omissible : ∀ earlier < steps, ∀ event, (state.advance settings earlier).Tells event →
      event.Omissible settings verbosity) :
    (retelling.state state).advance (settings.withVerbosity verbosity) steps =
      retelling.state (state.advance settings steps) := by
  induction steps with
  | zero => rfl
  | succ steps ih =>
    rw [State.advance_succ, State.advance_succ,
      ih fun earlier before => omissible earlier (Nat.lt_succ_of_lt before),
      step_state follows (omissible steps (Nat.lt_succ_self steps))]

end Steps

end Retelling

/-! ## What has been printed -/

/-- What has been printed stays printed: a run cannot look at it. -/
theorem State.printed_suffix_step (settings : Settings) (state : State) :
    state.machine.printed <:+ (state.step settings).machine.printed := by
  obtain ⟨machine, control⟩ := state
  let earlier : Retelling := ⟨.nothing, (· ++ machine.printed), id⟩
  have follows : earlier.Follows settings settings.verbosity := by
    refine ⟨fun _ _ => rfl, ?_, fun _ => id⟩
    intro event events told
    rw [if_pos told]
    exact congrArg (· :: events) (congrFun Past.event_nothing event).symm
  have retold := @Retelling.step_state earlier settings settings.verbosity follows
    ⟨{ machine with printed := [] }, control⟩ fun event _ told untold => by omega
  rw [Retelling.state_nothing] at retold
  exact ⟨_, congrArg (·.machine.printed) retold.symm⟩

namespace Machine

variable {settings : Settings} {body : List Node} {machine : Machine}

/-- What has been printed stays printed in a run. -/
theorem course_printed_suffix {earlier later : Nat} (ordered : earlier ≤ later) :
    (machine.course settings body earlier).machine.printed <:+
      (machine.course settings body later).machine.printed := by
  induction ordered with
  | refl => exact List.suffix_refl _
  | step ordered ih =>
    rw [course_succ]
    exact ih.trans (State.printed_suffix_step settings _)

/-- After a moment, a run stops with a failure and prints nothing more. -/
structure Stops (settings : Settings) (body : List Node) (machine : Machine) (moment : Nat)
    (failure : Failure) : Prop where
  ends : ∃ ending, ∀ later, ending ≤ later →
    (machine.course settings body later).outcome = .failed failure
  silent : ∀ later, moment ≤ later → (machine.course settings body later).machine.printed =
    (machine.course settings body moment).machine.printed

/-- A run stops with the failure with which it is on its way out. -/
theorem stops_of_unwinding (releases : settings.releases = true) (rest : machine.AtRest)
    {moment : Nat} {after : Machine} {failure : Failure} {awaited : Awaited}
    {next : Continuation awaited}
    (failing : machine.course settings body (moment + 1) = ⟨after, .unwinding failure next⟩)
    (printed : after.printed = (machine.course settings body moment).machine.printed) :
    machine.Stops settings body moment failure := by
  have orderly := course_orderly releases rest body (moment + 1)
  rw [failing] at orderly
  obtain ⟨steps, last, halted, silent⟩ :=
    @State.endsWith_unwinding settings after releases failure _ next orderly
  rw [← failing, ← course_add] at halted
  have ends : ∀ later, moment + 1 + steps ≤ later →
      machine.course settings body later = ⟨last, .halted (some failure)⟩ := by
    intro later past
    rw [course_of_isHalted past (by rw [halted]; rfl), halted]
  refine ⟨⟨moment + 1 + steps, fun later past => by rw [ends later past]; rfl⟩, ?_⟩
  -- What is printed between lies between what is printed first and last, which are the same.
  intro later ordered
  have lower := @course_printed_suffix settings body machine _ _ ordered
  have upper := @course_printed_suffix settings body machine later
    (max later (moment + 1 + steps)) (by omega)
  rw [ends (max later (moment + 1 + steps)) (by omega)] at upper
  refine (lower.eq_of_length_le ?_).symm
  rw [← printed, ← silent]
  exact upper.length_le

end Machine

end Scriptlet
