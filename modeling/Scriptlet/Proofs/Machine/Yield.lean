import Scriptlet.Machine.Step
import Scriptlet.Proofs.Machine.Order

/-! # What actions yield

An action yields a result and a machine, or a failure and a machine.  Actions that leave scopes and
calls as they are can be passed over when only those matter.

Main definitions:

* `Event.Passes`: the verbosity of a run and an event are such that recording the event does not fail.
* `Machine.markedLine`: the current line once a line has been marked.
* `Action.Yields`: what holds after an action, if it has a result and if it fails.
* `Action.Quiet`: an action leaves scopes and calls as they are. -/

namespace Scriptlet

/-! ## Failures -/

/-- A run that stops with an error stops with the one that was to be reported, which can be written. -/
theorem Failure.ofError_eq_error_iff {error other : Error} :
    Failure.ofError error = .error other ↔ error = other ∧ error.isWritable = true := by
  rw [ofError]
  split
  · rename_i writable
    simp [writable]
  · rename_i unwritable
    simp [unwritable]

/-- A run that stops with an error stops with another failure only if the error cannot be written. -/
theorem Failure.ofError_eq_unwritable_iff {error : Error} :
    Failure.ofError error = .unwritable ↔ error.isWritable = false := by
  rw [ofError]
  split
  · rename_i writable
    simp [writable]
  · rename_i unwritable
    simp [unwritable]

/-! ## Events and lines -/

/-- An event can be told of, if it is told of at all. -/
def Event.Passes (settings : Settings) (event : Event) : Prop :=
  (event.level : Int) ≤ settings.verbosity → event.isWritable = true

/-- The current line once a line has been marked. -/
def Machine.markedLine (machine : Machine) (line : Int) : Int :=
  if line = 0 then machine.line else line

/-- A line other than zero is the current one once it has been marked. -/
theorem Machine.markedLine_of_ne (machine : Machine) {line : Int} (nonzero : line ≠ 0) :
    machine.markedLine line = line :=
  if_neg nonzero

/-! ## Results of operators -/

namespace Operator

/-- A result is no function, if there is one. -/
def IsPlain (result : Except Problem Value) : Prop :=
  ∀ value, result = .ok value → value.scope? = none

/-- A value without a scope is plain. -/
theorem isPlain_ok {value : Value} (plain : value.scope? = none) : IsPlain (.ok value) := by
  intro other same
  cases same
  exact plain

/-- A failure is plain. -/
theorem isPlain_fail (cause : Cause) : IsPlain (fail cause) := by
  intro value impossible
  cases impossible

/-- What is only wrapped in a value without a scope is plain. -/
theorem isPlain_map {α : Type} (wrap : α → Value) (plain : ∀ content, (wrap content).scope? = none)
    (result : Except Problem α) : IsPlain (wrap <$> result) := by
  cases result with
  | ok content => exact isPlain_ok (plain content)
  | error problem =>
    intro value impossible
    cases impossible

/-- Arithmetic makes no functions. -/
theorem Arithmetic.isPlain_apply (operation : Arithmetic) (operator : String)
    (left right : Value) : IsPlain (operation.apply operator left right) := by
  unfold Arithmetic.apply
  split
  · exact isPlain_map _ (fun _ => rfl) _
  · exact isPlain_ok rfl
  · exact isPlain_map _ (fun _ => rfl) _
  · exact isPlain_map _ (fun _ => rfl) _
  · exact isPlain_fail _

/-- Nor do operations on bits. -/
theorem Bitwise.isPlain_apply (operation : Bitwise) (operator : String) (left right : Value) :
    IsPlain (operation.apply operator left right) := by
  unfold Bitwise.apply
  split
  · exact isPlain_map _ (fun _ => rfl) _
  · exact isPlain_fail _

/-- Nor does addition. -/
theorem isPlain_plus (left right : Value) : IsPlain (plus left right) := by
  unfold plus
  split
  · exact isPlain_ok rfl
  · exact Arithmetic.isPlain_apply _ _ _ _

/-- Nor does a comparison. -/
theorem isPlain_relational (operator : String) (holds : Ordering → Bool) (left right : Value) :
    IsPlain (relational operator holds left right) :=
  isPlain_map (fun order => .ofBool (Option.any holds order)) (fun _ => rfl) _

/-- The result of an operator between two values is no function. -/
theorem isPlain_binary (operator : String) (left right : Value) :
    IsPlain (binary operator left right) := by
  unfold binary
  split
  · exact isPlain_plus _ _
  iterate 4 exact Arithmetic.isPlain_apply _ _ _ _
  · exact isPlain_map .ofBool (fun _ => rfl) _
  · exact isPlain_map (fun same => .ofBool (!same)) (fun _ => rfl) _
  iterate 4 exact isPlain_relational _ _ _ _
  iterate 5 exact Bitwise.isPlain_apply _ _ _ _
  · exact isPlain_fail _

/-- The result of an operator in front of a value is no function. -/
theorem isPlain_unary (operator : String) (operand : Value) :
    IsPlain (unary operator operand) := by
  unfold unary
  split
  · exact isPlain_ok rfl
  · split
    · exact isPlain_ok rfl
    · exact isPlain_fail _
  · split
    · exact isPlain_ok rfl
    · exact isPlain_ok rfl
    · exact isPlain_fail _
  · split
    · cases operand with
      | integer | float => exact isPlain_ok rfl
      | text | undefined | function | builtin | null => contradiction
    · exact isPlain_fail _
  · exact isPlain_fail _

end Operator

namespace Action

variable {α β : Type}

/-- What holds after an action, if it has a result and if it fails. -/
def Yields (action : Action α) (machine : Machine) (normal : α → Machine → Prop)
    (failed : Failure → Machine → Prop) : Prop :=
  match action machine with
  | .ok result after => normal result after
  | .error failure after => failed failure after

variable {action : Action α} {machine : Machine} {normal : α → Machine → Prop}
  {failed : Failure → Machine → Prop}

/-- An action that another one follows. -/
theorem yields_bind {following : α → Action β} {result : β → Machine → Prop} :
    (action >>= following).Yields machine result failed ↔
      action.Yields machine (fun value after => (following value).Yields after result failed)
        failed := by
  show (match EStateM.bind action following machine with
    | .ok result' after => result result' after
    | .error failure after => failed failure after) ↔ _
  rw [EStateM.bind, Yields]
  cases action machine <;> rfl

/-- What holds after an action can be weakened. -/
theorem Yields.mono {weaker : α → Machine → Prop} {laxer : Failure → Machine → Prop}
    (yields : action.Yields machine normal failed)
    (onResult : ∀ value after, normal value after → weaker value after)
    (onFailure : ∀ failure after, failed failure after → laxer failure after) :
    action.Yields machine weaker laxer := by
  rw [Yields] at yields ⊢
  cases run : action machine with
  | ok value after =>
    rw [run] at yields
    exact onResult value after yields
  | error failure after =>
    rw [run] at yields
    exact onFailure failure after yields

/-- An action with a known result. -/
theorem yields_of_eq_ok {value : α} {after : Machine} (run : action machine = .ok value after)
    (holds : normal value after) : action.Yields machine normal failed := by
  rw [Yields, run]
  exact holds

/-- An action follows one with a known result. -/
theorem bind_of_eq_ok {following : α → Action β} {value : α} {after : Machine}
    (run : action machine = .ok value after) :
    (action >>= following) machine = following value after := by
  show EStateM.bind action following machine = _
  rw [EStateM.bind, run]

/-- After an action, two others have the same result if they have it for all that the action
yields. -/
theorem Yields.bind_congr {following other : α → Action β}
    (yields : action.Yields machine normal failed)
    (same : ∀ value after, normal value after → following value after = other value after) :
    (action >>= following) machine = (action >>= other) machine := by
  show EStateM.bind action following machine = EStateM.bind action other machine
  rw [EStateM.bind, EStateM.bind]
  rw [Yields] at yields
  cases run : action machine with
  | ok value after =>
    rw [run] at yields
    exact same value after yields
  | error failure after => rfl

/-! ## Quiet actions -/

/-- An action leaves scopes and calls as they are. -/
def Quiet (action : Action α) : Prop :=
  ∀ machine, action.Yields machine (fun _ => machine.SameScopes) fun _ => machine.SameScopes

/-- A value is given quietly. -/
theorem quiet_pure (result : α) : (pure result : Action α).Quiet :=
  fun machine => .refl machine

/-- Quiet actions can be put together. -/
theorem Quiet.bind {following : α → Action β} (first : action.Quiet)
    (second : ∀ value, (following value).Quiet) : (action >>= following).Quiet := by
  intro machine
  rw [yields_bind]
  refine (first machine).mono ?_ fun _ _ => id
  intro value between same
  exact (second value between).mono (fun _ _ => same.trans) fun _ _ => same.trans

/-- A failure is quiet. -/
theorem quiet_fail (cause : Cause) : (fail cause : Action α).Quiet :=
  fun machine => .refl machine

/-- Marking a node is quiet. -/
theorem quiet_mark (line : Int) : (mark line).Quiet := by
  intro machine
  show machine.SameScopes (if line = 0 then machine else { machine with line })
  split <;> exact ⟨rfl, rfl, rfl⟩

/-- Marking a line changes the current line and nothing else. -/
theorem mark_eq (line : Int) (machine : Machine) :
    mark line machine = .ok () { machine with line := machine.markedLine line } := by
  unfold mark Machine.markedLine
  split <;> rfl

/-- Marking a node succeeds, and the line is its own if it has one. -/
theorem exists_mark_eq (line : Int) (machine : Machine) :
    ∃ after, mark line machine = .ok () after ∧ machine.SameScopes after ∧
      after.printed = machine.printed ∧ (line ≠ 0 → after.line = line) := by
  refine ⟨_, rfl, ?_⟩
  split
  · rename_i zero
    exact ⟨.refl machine, rfl, fun nonzero => absurd zero nonzero⟩
  · exact ⟨⟨rfl, rfl, rfl⟩, rfl, fun _ => rfl⟩

/-- Asking for the line is quiet. -/
theorem quiet_currentLine : currentLine.Quiet :=
  fun machine => .refl machine

/-- What recording an event does: it changes the trace at most, unless the event cannot be told
of. -/
theorem record_cases (settings : Settings) (event : Event) (machine : Machine) :
    (event.Passes settings ∧ ∃ traced, record settings event machine =
      .ok () { machine with traced }) ∨
      (¬event.Passes settings ∧ record settings event machine = .error .unwritable machine) := by
  rw [record]
  split
  · rename_i told
    cases writable : event.isWritable with
    | true => exact Or.inl ⟨fun _ => writable, _, rfl⟩
    | false =>
      refine Or.inr ⟨fun passes => ?_, rfl⟩
      rw [passes told] at writable
      cases writable
  · rename_i untold
    exact Or.inl ⟨fun told => absurd told untold, machine.traced, rfl⟩

/-- Recording an event that passes does not fail, and prints nothing. -/
theorem exists_tell_eq {settings : Settings} {event : Event} (passes : event.Passes settings)
    (machine : Machine) :
    ∃ after, record settings event machine = .ok () after ∧ machine.SameScopes after ∧
      after.printed = machine.printed := by
  obtain ⟨-, traced, run⟩ | ⟨fails, -⟩ := record_cases settings event machine
  · exact ⟨_, run, ⟨rfl, rfl, rfl⟩, rfl⟩
  · exact absurd passes fails

/-- Recording an event that can be told of does not fail. -/
theorem exists_record_eq (settings : Settings) (event : Event) (writable : event.isWritable = true)
    (machine : Machine) :
    ∃ after, record settings event machine = .ok () after ∧ machine.SameScopes after := by
  obtain ⟨after, run, same, -⟩ := @exists_tell_eq settings event (fun _ => writable) machine
  exact ⟨after, run, same⟩

/-- Recording an event leaves scopes and calls as they are, and goes on only if the event passes. -/
theorem record_yields (settings : Settings) (event : Event) (machine : Machine) :
    (record settings event).Yields machine
      (fun _ after => event.Passes settings ∧ machine.SameScopes after)
      fun _ => machine.SameScopes := by
  rw [Yields]
  obtain ⟨passes, traced, run⟩ | ⟨-, run⟩ := record_cases settings event machine
  · rw [run]
    exact ⟨passes, rfl, rfl, rfl⟩
  · rw [run]
    exact .refl machine

/-- Recording an event leaves scopes and calls as they are. -/
theorem quiet_record (settings : Settings) (event : Event) : (record settings event).Quiet :=
  fun machine => (record_yields settings event machine).mono (fun _ _ => And.right) fun _ _ => id

/-- Printing is quiet. -/
theorem quiet_printLine (line : String) : (printLine line).Quiet :=
  fun _ => ⟨rfl, rfl, rfl⟩

/-- A note is quiet. -/
theorem quiet_note (noted : Note) : (note noted).Quiet :=
  fun _ => ⟨rfl, rfl, rfl⟩

/-- The result of an operator is no function. -/
theorem ofProblem_scope? {result : Except Operator.Problem Value}
    (plain : Operator.IsPlain result) (machine : Machine) :
    (ofProblem result).Yields machine
      (fun value after => value.scope? = none ∧ machine.SameScopes after)
      fun _ => machine.SameScopes := by
  match result with
  | .ok value => exact ⟨plain value rfl, .refl machine⟩
  | .error (.error cause) => exact .refl machine
  | .error .tooLarge => exact .refl machine

/-- A question to the store is quiet. -/
theorem quiet_query (question : Store Value → Except Store.Fault α) : (query question).Quiet := by
  intro machine
  rw [Yields, query]
  cases question machine.store <;> exact .refl machine

/-- Checking the number of arguments is quiet. -/
theorem quiet_checkArity (name : String) (expected : Option Nat) (given : Nat) :
    (checkArity name expected given).Quiet := by
  cases expected with
  | none => exact quiet_pure ()
  | some count =>
    show (if given = count then pure () else fail _ : Action Unit).Quiet
    split
    · exact quiet_pure ()
    · exact quiet_fail _

/-- The check of the number of arguments is passed only by the right one. -/
theorem checkArity_yields (name : String) (count given : Nat) (machine : Machine) :
    (checkArity name (some count) given).Yields machine
      (fun _ after => after = machine ∧ given = count) fun _ after => after = machine := by
  show (if given = count then pure () else fail _ : Action Unit).Yields machine _ _
  split
  · rename_i fits
    exact ⟨rfl, fits⟩
  · exact rfl

/-- The check of the depth of a call leaves the machine as it is. -/
theorem checkDepth_eq (settings : Settings) (name : String) (machine : Machine) :
    checkDepth settings name machine = .ok () machine ∨
      ∃ failure, checkDepth settings name machine = .error failure machine := by
  have room : checkDepth.checkRoom settings machine = .ok () machine ∨
      ∃ failure, checkDepth.checkRoom settings machine = .error failure machine := by
    rw [checkDepth.checkRoom]
    split
    · split
      · exact Or.inr ⟨_, rfl⟩
      · exact Or.inl rfl
    · exact Or.inl rfl
  rw [checkDepth]
  split
  · split
    · exact Or.inr ⟨_, rfl⟩
    · exact room
  · exact room

/-- Checking the depth of a call is quiet. -/
theorem quiet_checkDepth (settings : Settings) (name : String) :
    (checkDepth settings name).Quiet := by
  intro machine
  rw [Yields]
  obtain run | ⟨failure, run⟩ := checkDepth_eq settings name machine
  · rw [run]
    exact .refl machine
  · rw [run]
    exact .refl machine

/-- Calling a builtin is quiet. -/
theorem quiet_callBuiltin (builtin : Builtin) (arguments : List Value) :
    (callBuiltin builtin arguments).Quiet := by
  cases builtin with
  | print => exact (quiet_printLine _).bind fun _ => quiet_pure _
  | track =>
    exact (quiet_query _).bind fun _ => (quiet_note _).bind fun _ => quiet_pure _
  | dump =>
    exact (quiet_query _).bind fun _ => (quiet_note _).bind fun _ => quiet_pure _
  | argc => exact (quiet_note _).bind fun _ => quiet_pure _

/-- The result of a built-in function is no function. -/
theorem callBuiltin_scope? (builtin : Builtin) (arguments : List Value) (machine : Machine) :
    (callBuiltin builtin arguments).Yields machine
      (fun value after => value.scope? = none ∧ machine.SameScopes after)
      fun _ => machine.SameScopes := by
  have quiet := quiet_callBuiltin builtin arguments machine
  rw [Yields] at quiet ⊢
  cases builtin <;> exact ⟨rfl, quiet⟩

/-- Creating a scope does not fail. -/
theorem createChild_eq (around : Handle) (name : String) (machine : Machine) :
    createChild around name machine = .ok ⟨machine.store.scopes.size⟩
      { machine with store := (machine.store.createChild around (some name)).2 } := by
  rw [createChild, Store.createChild, ← Store.create_fst]

/-! ## Names -/

/-- A value that is looked up in bindings is among them. -/
theorem mem_of_lookup_eq_some {key : String} {value : α} {bindings : List (String × α)}
    (found : bindings.lookup key = some value) : (key, value) ∈ bindings := by
  induction bindings with
  | nil => cases found
  | cons binding rest inductionHypothesis =>
    obtain ⟨other, held⟩ := binding
    rw [List.lookup_cons] at found
    split at found
    · rename_i same
      cases found
      rw [beq_iff_eq.mp same]
      exact List.mem_cons_self ..
    · exact List.mem_cons_of_mem _ (inductionHypothesis found)

/-- A name has the value that it is bound to in the scope in which it is found. -/
theorem lookup_eq {name : String} {scope holder : Handle} {value : Value}
    (finds : machine.store.find? name scope = .ok (some holder))
    (holds : machine.store.get? holder name = some value) :
    lookup name scope machine = .ok value machine := by
  have found : query (·.find? name scope) machine = .ok (some holder) machine := by
    rw [query, finds]
  have read : query (fun store => .ok (store.get? holder name)) machine =
      .ok (some value) machine := by rw [query, holds]
  exact (bind_of_eq_ok found).trans (bind_of_eq_ok read)

/-- Looking a name up finds a value that is bound in a live scope, or fails because nothing binds the
name. -/
theorem lookup_yields {scope : Handle} (sound : machine.store.Sound Value.scope?)
    (live : machine.store.IsLive scope) (name : String) :
    (lookup name scope).Yields machine
      (fun value after => after = machine ∧ ∃ holder, machine.store.IsLive holder ∧
        machine.store.find? name scope = .ok (some holder) ∧
        machine.store.get? holder name = some value)
      fun failure after =>
        failure = .ofError ⟨.unbound name, machine.line⟩ ∧ after = machine := by
  obtain ⟨found, search, finds⟩ := Store.exists_find?_eq_ok sound.tidy sound.rooted live name
  have run : query (·.find? name scope) machine = .ok found machine := by
    rw [query, search]
  refine yields_bind.mpr (yields_of_eq_ok run ?_)
  cases found with
  | none => exact ⟨rfl, rfl⟩
  | some holder =>
    have holderLive := (finds.spec sound.tidy sound.rooted live).1
    have read : query (fun store => .ok (store.get? holder name)) machine =
        .ok (machine.store.get? holder name) machine := rfl
    refine yields_bind.mpr (yields_of_eq_ok read ?_)
    cases held : machine.store.get? holder name with
    | none => exact ⟨rfl, rfl⟩
    | some value => exact ⟨rfl, holder, holderLive, search, held⟩

/-! ## Bindings -/

/-- Keeping the scope of a function pins exactly what it reaches. -/
theorem exists_retain_eq {closure : Closure} (sound : machine.store.Sound Value.scope?)
    (live : machine.store.IsLive closure.scope) : ∃ pins,
      retain closure machine = .ok () { machine with store := machine.store.withPins pins } ∧
      ∀ id, pins.contains id = true ↔ machine.store.pinned.contains id = true ∨
        ∃ handle, machine.store.IsLive handle ∧ (machine.store.scope handle).id = id ∧
          machine.store.Reaches Value.scope? closure.scope handle := by
  obtain ⟨pins, run, contains_iff⟩ := sound.linked.exists_retain_eq live
  refine ⟨pins, ?_, contains_iff⟩
  rw [retain, update, run]

/-- What binding a name does to a store: before the name is bound, the scope of a function is kept
if the binding could be read after that scope is released. -/
inductive Binds (store : Store Value) (scope : Handle) (name : String) (value : Value) :
    Store Value → Prop
  /-- Nothing has to be kept. -/
  | plain : Binds store scope name value (store.bind scope name value)
  /-- What the scope of a function reaches is kept. -/
  | keeping {closure : Closure} {pins : Std.TreeSet Nat} (function : value = .function closure)
      (outlives : store.isPinned scope = true ∨ scope.serial < closure.scope.serial)
      (contains_iff : ∀ id, pins.contains id = true ↔ store.pinned.contains id = true ∨
        ∃ handle, store.IsLive handle ∧ (store.scope handle).id = id ∧
          store.Reaches Value.scope? closure.scope handle) :
      Binds store scope name value ((store.withPins pins).bind scope name value)

/-- Binding a name to a value that links to a live scope does not fail and keeps the store sound. -/
theorem exists_bind_eq (scope : Handle) {value : Value} (name : String)
    (sound : machine.store.Sound Value.scope?)
    (links : ∀ target, value.scope? = some target → machine.store.IsLive target) :
    ∃ store, bind scope name value machine = .ok () { machine with store } ∧
      store.Sound Value.scope? ∧ Binds machine.store scope name value store := by
  have plain : (∀ target, value.scope? = some target → machine.store.isPinned target = true ∨
      (machine.store.isPinned scope = false ∧ target.index ≤ scope.index)) →
      (machine.store.bind scope name value).Sound Value.scope? := fun kept =>
    sound.bind fun target link => ⟨links target link, kept target link⟩
  cases value with
  | function closure =>
    have live := links closure.scope rfl
    cases decision : outlives machine.store scope closure with
    -- The binding goes no later than the scope of the function, or that scope is pinned already.
    | false =>
      refine ⟨_, ?_, plain ?_, .plain⟩
      · show (if outlives machine.store scope closure = true then _ else _ : Action Unit) machine = _
        rw [decision]
        rfl
      · intro target link
        cases link
        cases pinned : machine.store.isPinned closure.scope with
        | true => exact Or.inl rfl
        | false =>
          rw [outlives, pinned, Bool.not_false, Bool.true_and, Bool.or_eq_false_iff] at decision
          have notYounger := of_decide_eq_false decision.2
          rw [Handle.serial, Handle.serial] at notYounger
          exact Or.inr ⟨decision.1, by omega⟩
    -- The scope of the function is kept before the name is bound.
    | true =>
      obtain ⟨pins, run, contains_iff⟩ := exists_retain_eq sound live
      have reached : (machine.store.withPins pins).isPinned closure.scope = true :=
        (contains_iff _).mpr (Or.inr ⟨closure.scope, live, rfl, .refl⟩)
      refine ⟨(machine.store.withPins pins).bind scope name (.function closure), ?_, ?_, ?_⟩
      · show (if outlives machine.store scope closure = true then
          (retain closure >>= fun _ => setBinding scope name (.function closure)) else
            setBinding scope name (.function closure) : Action Unit) machine = _
        rw [decision, if_pos rfl]
        show EStateM.bind _ _ machine = _
        rw [EStateM.bind, run]
        rfl
      · refine (sound.withPins contains_iff).bind ?_
        intro target link
        cases link
        exact ⟨live, Or.inl reached⟩
      · refine .keeping rfl ?_ contains_iff
        rw [outlives, Bool.and_eq_true, Bool.or_eq_true, decide_eq_true_eq] at decision
        exact decision.2
  | integer | float | text | undefined | builtin | null =>
    exact ⟨_, rfl, plain (fun _ link => by cases link), .plain⟩

/-- A function may be bound in the scope of its own declaration, which the binding does not outlive. -/
theorem sound_bind_declared {store : Store Value} {closure : Closure} {scope : Handle}
    {name : String} (sound : store.Sound Value.scope?) (live : store.IsLive scope)
    (declared : closure.scope = scope) :
    (store.bind scope name (.function closure)).Sound Value.scope? := by
  refine sound.bind fun target link => ?_
  obtain rfl : scope = target := declared.symm.trans (Option.some.inj link)
  refine ⟨live, ?_⟩
  cases store.isPinned scope with
  | true => exact Or.inl rfl
  | false => exact Or.inr ⟨rfl, Nat.le_refl _⟩

/-- Assigning a name does not fail: the name is bound in the scope in which it is found, or else in
the scope that it is seen from. -/
theorem exists_assign_eq (settings : Settings) {scope : Handle} {value : Value} (name : String)
    (sound : machine.store.Sound Value.scope?) (live : machine.store.IsLive scope)
    (links : ∀ target, value.scope? = some target → machine.store.IsLive target) :
    ∃ found store after, machine.store.find? name scope = .ok found ∧
      assign settings name value scope machine = .ok () after ∧
      Machine.SameScopes { machine with store } after ∧ store.Sound Value.scope? ∧
      Binds machine.store (found.getD scope) name value store := by
  obtain ⟨found, search, -⟩ := Store.exists_find?_eq_ok sound.tidy sound.rooted live name
  obtain ⟨store, run, bound, binds⟩ := exists_bind_eq (found.getD scope) name sound links
  obtain ⟨after, recorded, same⟩ := exists_record_eq settings
    (.assigned name value (store.scope (found.getD scope))) rfl { machine with store }
  refine ⟨found, store, after, search, ?_, same, bound, binds⟩
  show EStateM.bind (query (·.find? name scope)) _ machine = _
  rw [EStateM.bind, query, search]
  show EStateM.bind (bind (found.getD scope) name value) _ machine = _
  rw [EStateM.bind, run]
  exact recorded

/-- Binding the parameters of a call pins nothing: the arguments link to scopes that are older than
that of the call. -/
theorem exists_bindParameters_eq {scope : Handle} (names : List String) (values : List Value)
    (sound : machine.store.Sound Value.scope?) (unpinned : machine.store.isPinned scope = false)
    (links : ∀ value ∈ values, ∀ target, value.scope? = some target →
      machine.store.IsLive target ∧ target.index < scope.index) :
    ∃ store, bindParameters scope names values machine = .ok () { machine with store } ∧
      Store.SameShape machine.store store ∧ store.Sound Value.scope? := by
  induction names generalizing values machine with
  | nil => exact ⟨machine.store, rfl, .refl _, sound⟩
  | cons name names inductionHypothesis =>
    cases values with
    | nil => exact ⟨machine.store, rfl, .refl _, sound⟩
    | cons value values =>
      have here := links value (List.mem_cons_self ..)
      obtain ⟨store, run, between, binds⟩ :=
        exists_bind_eq scope name sound fun target link => (here target link).1
      -- No argument has to be kept: the scope of the call is unpinned and younger.
      have same : Store.SameShape machine.store store := by
        cases binds with
        | plain => exact .bind _ _ _ _
        | keeping function outlives =>
          subst function
          obtain pinned | younger := outlives
          · rw [unpinned] at pinned
            cases pinned
          · have older := (here _ rfl).2
            rw [Handle.serial, Handle.serial] at younger
            omega
      -- The hypotheses on the scope of the call go over to the rest, since no pin is added.
      obtain ⟨last, bound, shape, sound'⟩ :=
        @inductionHypothesis { machine with store } values between
          (by rw [same.isPinned_eq, unpinned])
          (by
            intro other mem target link
            rw [same.isLive_iff]
            exact links other (List.mem_cons_of_mem _ mem) target link)
      refine ⟨last, ?_, same.trans shape, sound'⟩
      show EStateM.bind (bind scope name value) _ machine = _
      rw [EStateM.bind, run]
      exact bound

/-- What binding a name does is to pin some slots, and to bind the name. -/
theorem Binds.exists_pins {store after : Store Value} {scope : Handle} {name : String}
    {value : Value} (binds : Binds store scope name value after) :
    ∃ pins, after = (store.withPins pins).bind scope name value := by
  cases binds with
  | plain => exact ⟨store.pinned, rfl⟩
  | @keeping closure pins => exact ⟨pins, rfl⟩

/-- Binding parameters to values that link to live scopes does not fail, and what pinning slots and
binding these values keeps true of a store holds after it. -/
theorem exists_bindParameters_of (holds : Store Value → Prop) {scope : Handle}
    (names : List String) (values : List Value) (sound : machine.store.Sound Value.scope?)
    (links : ∀ value ∈ values, ∀ target, value.scope? = some target →
      machine.store.IsLive target)
    (keeps : ∀ store pins name, ∀ value ∈ values, holds store →
      holds ((store.withPins pins).bind scope name value))
    (start : holds machine.store) :
    ∃ store, bindParameters scope names values machine = .ok () { machine with store } ∧
      holds store := by
  induction names generalizing values machine with
  | nil => exact ⟨_, rfl, start⟩
  | cons name names inductionHypothesis =>
    cases values with
    | nil => exact ⟨_, rfl, start⟩
    | cons value values =>
      obtain ⟨store, run, between, binds⟩ :=
        exists_bind_eq scope name sound (links value (List.mem_cons_self ..))
      obtain ⟨pins, rfl⟩ := binds.exists_pins
      obtain ⟨last, rest, lastHolds⟩ := @inductionHypothesis { machine with store := _ } values
        between
        (fun other mem target link => Store.bind_isLive_iff.mpr
          (links other (List.mem_cons_of_mem _ mem) target link))
        (fun store pins name other mem => keeps store pins name other (List.mem_cons_of_mem _ mem))
        (keeps _ pins name value (List.mem_cons_self ..) start)
      refine ⟨last, ?_, lastHolds⟩
      show EStateM.bind (bind scope name value) _ machine = _
      rw [EStateM.bind, run]
      exact rest

/-! ## Results and releases -/

/-- What keeping the result of a call does: nothing if no call is active or if the function was
declared outside the innermost one, and else all that the function reaches is pinned. -/
theorem keepResult_cases {value : Value} (sound : machine.store.Sound Value.scope?)
    (links : ∀ target, value.scope? = some target → machine.store.IsLive target) :
    (keepResult value machine = .ok () machine ∧ ∀ frame target, machine.frame = some frame →
      value.scope? = some target → target.index < frame.index) ∨
    ∃ closure frame pins, value = .function closure ∧ machine.frame = some frame ∧
      frame.serial ≤ closure.scope.serial ∧
      keepResult value machine = .ok () { machine with store := machine.store.withPins pins } ∧
      ∀ id, pins.contains id = true ↔ machine.store.pinned.contains id = true ∨
        ∃ handle, machine.store.IsLive handle ∧ (machine.store.scope handle).id = id ∧
          machine.store.Reaches Value.scope? closure.scope handle := by
  cases value with
  | function closure =>
    cases frame : machine.frame with
    | none =>
      refine Or.inl ⟨?_, fun _ _ impossible => by cases impossible⟩
      simp only [keepResult, frame]
    | some call =>
      by_cases inside : call.serial ≤ closure.scope.serial
      · obtain ⟨pins, run, contains_iff⟩ := exists_retain_eq sound (links closure.scope rfl)
        refine Or.inr ⟨closure, call, pins, rfl, rfl, inside, ?_, contains_iff⟩
        simp only [keepResult, frame, if_pos inside, run]
      · refine Or.inl ⟨?_, ?_⟩
        · simp only [keepResult, frame, if_neg inside]
        · intro _ _ same link
          cases same
          cases link
          rw [Handle.serial, Handle.serial] at inside
          omega
  | integer | float | text | undefined | builtin | null =>
    exact Or.inl ⟨rfl, fun _ _ _ link => by cases link⟩

/-- Keeping the result of a call pins slots at most. -/
theorem exists_keepResult_eq {value : Value} (sound : machine.store.Sound Value.scope?)
    (links : ∀ target, value.scope? = some target → machine.store.IsLive target) :
    ∃ pins, keepResult value machine =
        .ok () { machine with store := machine.store.withPins pins } ∧
      (machine.store.withPins pins).Sound Value.scope? := by
  obtain ⟨run, -⟩ | ⟨closure, frame, pins, -, -, -, run, contains_iff⟩ :=
    keepResult_cases sound links
  · exact ⟨machine.store.pinned, run, sound⟩
  · exact ⟨pins, run, sound.withPins contains_iff⟩

/-- The release of a live scope does not fail. -/
theorem release_eq {settings : Settings} {scope : Handle} (releases : settings.releases = true)
    (live : machine.store.IsLive scope) :
    release settings scope machine =
      .ok () { machine with store := (machine.store.release scope).2 } := by
  -- A live scope has a slot, which is all that a release can miss.
  have bound : (machine.store.scope scope).id < machine.store.slots.size :=
    (Array.getElem?_eq_some_iff.mp live).1
  have run : machine.store.release scope = (.ok (), (machine.store.release scope).2) :=
    Prod.ext (Store.release_fst_of_slot rfl bound) rfl
  rw [release, if_pos releases, update, run]

/-- The end of a call whose scope is live does not fail. -/
theorem leaveCall_eq {settings : Settings} {scope : Handle} (callerFrame : Option Handle)
    (releases : settings.releases = true) (live : machine.store.IsLive scope) :
    leaveCall settings scope callerFrame machine = .ok ()
      { machine with
        callDepth := machine.callDepth - 1
        frame := callerFrame
        store := (machine.store.release scope).2 } :=
  @release_eq { machine with callDepth := machine.callDepth - 1, frame := callerFrame } settings
    scope releases live

/-- An action that does not fail has no failure. -/
theorem failure?_eq {action : Action Unit} {after : Machine} (run : action machine = .ok () after) :
    failure? action machine = .ok none after := by
  rw [failure?, run]

end Action

end Scriptlet
