import Scriptlet.Proofs.Machine.Fits
import Scriptlet.Proofs.Machine.Lines
import Scriptlet.Proofs.Session.Isolation

/-! # Every failure is reported

A run ends normally, goes on, or stops with an error that names one of the six kinds of errors of a
run, unless an integer is in the way that is too long to be written: the line of a node, or the limit
on nested calls.  Scopes in order keep the store from being used amiss, and words that stay words keep
integers from growing past the largest double; all other failures are errors of the program.

Main definitions:

* `Store.Fits`, `Continuation.Fits`, `Control.Fits`: all integers that a run holds are words, and the
  failure that it is stopped by is reported, or comes of an integer that is too long.
* `Action.Proceeds`: an action leads to a control that fits, or fails in one of these ways.
* `Settings.Writes`: no integer that a run may have to write is too long.

Main statements:

* `State.step_fits`: a step keeps to this.
* `Machine.not_writes_of_unwritable`: a run fails for want of a report only if there is an integer
  that is too long.
* `Session.run_reported`: every run ends normally, goes on, or stops with an error of a run, unless
  there is such an integer. -/

namespace Scriptlet

/-! ## What a run holds -/

/-- Every value bound in a store fits. -/
def Store.Fits (store : Store Value) : Prop :=
  ∀ handle, ∀ binding ∈ (store.scope handle).bindings, binding.2.Fits

/-- The value with which a statement ends fits. -/
def Completion.Fits : Completion → Prop
  | .returned value => value.Fits
  | .normal | .broken | .continued => True

/-- A function that is being called is declared, or prints. -/
def Callee.Fits : Callee → Prop
  | .builtin function => function = .print
  | .declared _ => True

/-- The values that what is left to do holds fit. -/
def Continuation.Fits {awaited : Awaited} : Continuation awaited → Prop
  | .rightOperand _ _ left next => left.Fits ∧ next.Fits
  | .argument _ callee finished _ _ next =>
    callee.Fits ∧ (∀ value ∈ finished, value.Fits) ∧ next.Fits
  | .assigning _ _ next | .conjunction _ _ next | .disjunction _ _ next | .truth next
  | .leftOperand _ _ _ _ next | .operand _ _ next => next.Fits
  | .declaring _ _ next | .returning next | .branching _ _ _ _ next | .testing _ _ next
  | .stepping _ next | .discarding next | .sequence _ _ next | .leaving _ next
  | .starting _ next | .looping _ next => next.Fits
  | .calling _ _ _ _ next => next.Fits
  | .program _ _ => True

/-- The values that are at hand fit, and a failure is reported, or comes of an integer that is too
long. -/
def Control.Fits : Control → Prop
  | .evaluating _ _ next => next.Fits
  | .executing _ _ next => next.Fits
  | .delivering value next => value.Fits ∧ next.Fits
  | .completing completion next => completion.Fits ∧ next.Fits
  | .unwinding failure next => failure.IsReported ∧ next.Fits
  | .halted failure => ∀ cause, failure = some cause → cause.IsReported

namespace Store.Fits

variable {store : Store Value}

/-- A new scope holds no integers. -/
theorem create (fits : store.Fits) (parent : Option Nat) (name : Option String) :
    (store.create parent name).2.Fits := by
  intro handle binding mem
  rw [create_bindings] at mem
  exact fits handle binding mem

/-- A binding to a value that fits keeps to it. -/
theorem bind (fits : store.Fits) {value : Value} (fitting : value.Fits) (handle : Handle)
    (name : String) : (store.bind handle name value).Fits := by
  rintro other ⟨label, former⟩ mem
  rcases mem_bindings_bind mem with ⟨-, rfl⟩ | before
  · exact fitting
  · exact fits other _ before

/-- Releasing a scope keeps to it. -/
theorem release (fits : store.Fits) (handle : Handle) : (store.release handle).2.Fits := by
  intro other binding mem
  rw [release_scope] at mem
  exact fits other binding mem

/-- What is found in a store that fits does. -/
theorem get? (fits : store.Fits) {handle : Handle} {name : String} {value : Value}
    (found : store.get? handle name = some value) : value.Fits :=
  fits handle _ (Action.mem_of_lookup_eq_some found)

end Store.Fits

namespace Action

variable {α β : Type} {machine : Machine}

/-- What binding a name does to a store keeps its values fit. -/
theorem Binds.fits {store after : Store Value} {scope : Handle} {name : String} {value : Value}
    (binds : Binds store scope name value after) (fits : store.Fits) (fitting : value.Fits) :
    after.Fits := by
  obtain ⟨pins, rfl⟩ := binds.exists_pins
  have pinned : (store.withPins pins).Fits := fits
  exact pinned.bind fitting scope name

/-! ## Actions that look or tell -/

/-- An action leaves scopes and calls as they are, and fails with errors of a run only. -/
def Modest (action : Action α) : Prop :=
  ∀ machine, action.Yields machine (fun _ => machine.SameScopes)
    fun failure after => failure.IsReported ∧ machine.SameScopes after

/-- A value is given without a failure. -/
theorem modest_pure (value : α) : (pure value : Action α).Modest :=
  fun machine => .refl machine

/-- An error of a run is reported. -/
theorem modest_fail {cause : Cause} (runtime : cause.kind ≠ .grammar) :
    (fail cause : Action α).Modest :=
  fun machine => ⟨Failure.isReported_ofError (Cause.isRuntime_of_ne runtime), .refl machine⟩

/-- Setting the line does not fail. -/
theorem modest_setLine (line : Int) : (setLine line).Modest :=
  fun _ => ⟨rfl, rfl, rfl⟩

/-- Nor does marking a node. -/
theorem modest_mark (line : Int) : (mark line).Modest :=
  quiet_mark line

/-- Nor does asking for the line. -/
theorem modest_currentLine : currentLine.Modest :=
  quiet_currentLine

/-- An event is recorded, or its line is too long to be written. -/
theorem modest_record (settings : Settings) (event : Event) : (record settings event).Modest := by
  intro machine
  rw [Yields]
  obtain ⟨-, traced, run⟩ | ⟨-, run⟩ := record_cases settings event machine
  · rw [run]
    exact ⟨rfl, rfl, rfl⟩
  · rw [run]
    exact ⟨trivial, .refl machine⟩

/-- A wrong number of arguments is reported. -/
theorem modest_checkArity (name : String) (expected : Option Nat) (given : Nat) :
    (checkArity name expected given).Modest := by
  cases expected with
  | none => exact modest_pure ()
  | some count =>
    rw [checkArity]
    split
    · exact modest_pure ()
    · exact modest_fail (by simp [Cause.kind])

/-- A call past the limit is reported, unless the limit is too long to be written. -/
theorem modest_checkDepth (settings : Settings) (name : String) :
    (checkDepth settings name).Modest := by
  have noRoom : (fail .noRoom : Action Unit).Modest := modest_fail (by simp [Cause.kind])
  -- The host's own room for nested calls is asked for last, whatever the limit.
  have room : Modest (checkDepth.checkRoom settings) := by
    intro machine
    unfold Yields checkDepth.checkRoom
    cases settings.room with
    | none => exact .refl machine
    | some room =>
      by_cases full : room ≤ machine.callDepth
      · simp only [if_pos full]
        exact noRoom machine
      · simp only [if_neg full]
        exact .refl machine
  intro machine
  unfold Yields checkDepth
  cases settings.depthLimit with
  | none => exact room machine
  | some limit =>
    -- The message holds the limit, which is why failing may be the host's failure here.
    have tooDeep : (fail (.tooDeep limit name) : Action Unit).Modest :=
      modest_fail (by simp [Cause.kind])
    by_cases deep : limit ≤ machine.callDepth
    · simp only [if_pos deep]
      exact tooDeep machine
    · simp only [if_neg deep]
      exact room machine

/-- The result of an operator that settles. -/
theorem ofProblem_yields {result : Except Operator.Problem Value}
    (settles : Operator.Settles result) (machine : Machine) :
    (ofProblem result).Yields machine (fun value after => value.Fits ∧ machine.SameScopes after)
      fun failure after => failure.IsReported ∧ machine.SameScopes after := by
  match result with
  | .ok value => exact ⟨settles, .refl machine⟩
  | .error (.error cause) => exact ⟨Failure.isReported_ofError settles.1, .refl machine⟩
  | .error .tooLarge => exact absurd settles id

/-- Printing gives a value that fits. -/
theorem print_yields (arguments : List Value) (machine : Machine) :
    (callBuiltin .print arguments).Yields machine
      (fun value after => value.Fits ∧ machine.SameScopes after)
      fun failure after => failure.IsReported ∧ machine.SameScopes after :=
  ⟨trivial, rfl, rfl, rfl⟩

/-! ## Actions that lead on -/

/-- An action leads to a control that fits, or fails with an error of a run. -/
def Proceeds (action : Action Control) (machine : Machine) : Prop :=
  action.Yields machine (fun control after => after.store.Fits ∧ control.Fits)
    fun failure after => after.store.Fits ∧ failure.IsReported

/-- A control that fits is one to go on with. -/
theorem proceeds_return {control : Control} (fits : machine.store.Fits) (fitting : control.Fits) :
    (pure control : Action Control).Proceeds machine :=
  ⟨fits, fitting⟩

/-- An error of a run is one to stop with. -/
theorem proceeds_fail {cause : Cause} (fits : machine.store.Fits)
    (runtime : cause.kind ≠ .grammar) : (fail cause : Action Control).Proceeds machine :=
  ⟨fits, Failure.isReported_ofError (Cause.isRuntime_of_ne runtime)⟩

/-- An action with a known result comes first. -/
theorem proceeds_of_eq_ok {action : Action α} {following : α → Action Control} {value : α}
    {after : Machine} (run : action machine = .ok value after)
    (proceeds : (following value).Proceeds after) :
    (action >>= following).Proceeds machine :=
  yields_bind.mpr (yields_of_eq_ok run proceeds)

/-- A modest action comes first. -/
theorem proceeds_modest {before : Machine} {action : Action α} {following : α → Action Control}
    (modest : action.Modest) (fits : before.store.Fits) (same : before.SameScopes machine)
    (follows : ∀ value after, before.SameScopes after → (following value).Proceeds after) :
    (action >>= following).Proceeds machine := by
  refine yields_bind.mpr ((modest machine).mono ?_ ?_)
  · intro value after still
    exact follows value after (same.trans still)
  · rintro failure after ⟨reported, still⟩
    refine ⟨?_, reported⟩
    rw [(same.trans still).store_eq]
    exact fits

/-- A value that fits is computed, and is delivered. -/
theorem proceeds_value {before : Machine} {action : Action Value} {next : Continuation .value}
    (yields : ∀ machine, action.Yields machine
      (fun value after => value.Fits ∧ machine.SameScopes after)
      fun failure after => failure.IsReported ∧ machine.SameScopes after)
    (fits : before.store.Fits) (fitting : next.Fits) (same : before.SameScopes machine) :
    (action >>= fun value => pure (.delivering value next)).Proceeds machine := by
  refine yields_bind.mpr ((yields machine).mono ?_ ?_)
  · rintro value after ⟨valueFits, still⟩
    refine ⟨?_, valueFits, fitting⟩
    rw [(same.trans still).store_eq]
    exact fits
  · rintro failure after ⟨reported, still⟩
    refine ⟨?_, reported⟩
    rw [(same.trans still).store_eq]
    exact fits

/-- A name is looked up from a live scope. -/
theorem proceeds_lookup {scope : Handle} {following : Value → Action Control} (name : String)
    (sound : machine.store.Sound Value.scope?) (live : machine.store.IsLive scope)
    (fits : machine.store.Fits)
    (follows : ∀ value holder, value.Fits → machine.store.IsLive holder →
      machine.store.get? holder name = some value → (following value).Proceeds machine) :
    (lookup name scope >>= following).Proceeds machine := by
  refine yields_bind.mpr ((lookup_yields sound live name).mono ?_ ?_)
  · rintro value _ ⟨rfl, holder, holderLive, -, held⟩
    exact follows value holder (fits.get? held) holderLive held
  · rintro failure _ ⟨rfl, rfl⟩
    exact ⟨fits, Failure.isReported_ofError (Cause.isRuntime_of_ne (by simp [Cause.kind]))⟩

/-- A scope is created. -/
theorem proceeds_createChild {following : Handle → Action Control} {around : Handle}
    {name : String} (fits : machine.store.Fits)
    (follows : ∀ after : Machine, after.store.Fits →
      after.store = (machine.store.createChild around (some name)).2 →
      (following ⟨machine.store.scopes.size⟩).Proceeds after) :
    (createChild around name >>= following).Proceeds machine :=
  proceeds_of_eq_ok (createChild_eq around name machine) (follows _ (fits.create _ _) rfl)

/-- Parameters are bound to values that fit and that link to live scopes. -/
theorem exists_bindParameters_fits {scope : Handle} (names : List String) (values : List Value)
    (sound : machine.store.Sound Value.scope?) (fits : machine.store.Fits)
    (fitting : ∀ value ∈ values, value.Fits)
    (links : ∀ value ∈ values, ∀ target, value.scope? = some target →
      machine.store.IsLive target) :
    ∃ store, bindParameters scope names values machine = .ok () { machine with store } ∧
      store.Fits := by
  refine exists_bindParameters_of Store.Fits names values sound links ?_ fits
  intro store pins name value mem bound
  have pinned : (store.withPins pins).Fits := bound
  exact pinned.bind (fitting value mem) scope name

end Action

namespace State

open Scriptlet.Action

variable {settings : Settings} {machine : Machine}

/-! ## Statements, loops and calls -/

/-- Statements that are to be executed hold no integers. -/
theorem fits_inSequence {nodes : List Node} {scope : Handle} {next : Continuation .completion}
    (fitting : next.Fits) : (inSequence nodes scope next).Fits := by
  cases nodes with
  | nil => exact ⟨trivial, fitting⟩
  | cons node rest => exact fitting

/-- A body is entered with what follows it. -/
theorem proceeds_enter {name : String} {nodes : List Node} {around : Handle}
    {next : Continuation .completion} (fits : machine.store.Fits) (fitting : next.Fits) :
    (enter name nodes around next).Proceeds machine :=
  proceeds_createChild fits fun _ created _ => proceeds_return created (fits_inSequence fitting)

/-- A loop goes on to its test. -/
theorem proceeds_test {loop : Loop} {next : Continuation .completion}
    (fits : machine.store.Fits) (fitting : next.Fits) : (test loop next).Proceeds machine := by
  rw [test]
  cases loop.condition with
  | some condition => exact proceeds_return fits fitting
  | none => exact proceeds_enter fits fitting

/-- A function is called with arguments that fit. -/
theorem proceeds_call {callee : Callee} {arguments : List Value} {next : Continuation .value}
    (sound : machine.store.Sound Value.scope?) (fits : machine.store.Fits)
    (calleeFits : callee.Fits) (argumentsFit : ∀ value ∈ arguments, value.Fits)
    (fitting : next.Fits)
    (links : ∀ value ∈ callee.values ++ arguments, ∀ target, value.scope? = some target →
      machine.store.IsLive target) :
    (call settings callee arguments next).Proceeds machine := by
  cases callee with
  | builtin builtin =>
    cases calleeFits
    exact proceeds_value (print_yields arguments) fits fitting (.refl _)
  | declared closure =>
    refine proceeds_modest (modest_checkDepth _ _) fits (.refl _) fun _ _ same => ?_
    refine proceeds_modest modest_currentLine fits same fun callerLine machine same => ?_
    rw [← same.store_eq] at fits sound links
    refine proceeds_createChild fits fun after created store_eq => ?_
    -- The arguments link to scopes that are live before the new scope is created, hence also after.
    have sound' : after.store.Sound Value.scope? := by
      rw [store_eq]
      exact sound.createChild (links _ (List.mem_cons_self ..) _ rfl)
    obtain ⟨store, run, bound⟩ := exists_bindParameters_fits closure.parameters arguments sound'
      created argumentsFit (by
        intro value mem target link
        rw [store_eq]
        exact sound.tidy.create_isLive_iff.mpr
          (Or.inl (links value (List.mem_cons_of_mem _ mem) target link)))
    refine proceeds_of_eq_ok run (proceeds_of_eq_ok rfl ?_)
    refine proceeds_modest (modest_record _ _) bound (.refl _) fun _ last same => ?_
    refine proceeds_of_eq_ok rfl (proceeds_return ?_ (fits_inSequence fitting))
    show last.store.Fits
    rw [same.store_eq]
    exact bound

/-- The arguments of a call are evaluated, and the function is called. -/
theorem proceeds_passArguments {line : Int} {callee : Callee} {finished : List Value}
    {rest : List Node} {scope : Handle} {next : Continuation .value}
    (sound : machine.store.Sound Value.scope?) (fits : machine.store.Fits)
    (calleeFits : callee.Fits) (finishedFit : ∀ value ∈ finished, value.Fits)
    (fitting : next.Fits)
    (links : ∀ value ∈ callee.values ++ finished, ∀ target, value.scope? = some target →
      machine.store.IsLive target) :
    (passArguments settings line callee finished rest scope next).Proceeds machine := by
  cases rest with
  | cons argument rest => exact proceeds_return fits ⟨calleeFits, finishedFit, fitting⟩
  | nil =>
    refine proceeds_modest (modest_mark line) fits (.refl _) fun _ after same => ?_
    rw [← same.store_eq] at sound fits links
    refine proceeds_call sound fits calleeFits ?_ fitting ?_
    · intro value mem
      exact finishedFit value (List.mem_reverse.mp mem)
    · intro value mem
      exact links value (Callee.mem_passed_iff.mp mem)

/-! ## Into nodes -/

/-- A call begins. -/
theorem proceeds_beginCall {line : Int} {name : String} {arguments : List Node} {scope : Handle}
    {next : Continuation .value} (prints : ∀ builtin ∈ settings.builtins, builtin = .print)
    (sound : machine.store.Sound Value.scope?) (live : machine.store.IsLive scope)
    (fits : machine.store.Fits) (fitting : next.Fits) :
    (beginCall settings line name arguments scope next).Proceeds machine := by
  rw [beginCall]
  -- A builtin is found first; any other name has to be bound to a function.
  cases found : settings.builtin? name with
  | some builtin =>
    have calleeFits : (Callee.builtin builtin).Fits :=
      prints builtin (List.mem_of_find?_eq_some found)
    refine proceeds_modest (modest_checkArity _ _ _) fits (.refl _) fun _ after same => ?_
    rw [← same.store_eq] at sound fits
    refine proceeds_passArguments sound fits calleeFits ?_ fitting ?_
    · exact fun value mem => absurd mem List.not_mem_nil
    · exact fun value mem => absurd mem List.not_mem_nil
  | none =>
    refine proceeds_lookup name sound live fits fun value holder valueFits holderLive held => ?_
    cases value with
    | function closure =>
      have target : machine.store.IsLive closure.scope :=
        sound.bound_isLive holderLive (mem_of_lookup_eq_some held) rfl
      refine proceeds_modest (modest_checkArity _ _ _) fits (.refl _) fun _ after same => ?_
      rw [← same.store_eq] at sound fits target
      refine proceeds_passArguments sound fits trivial ?_ fitting ?_
      · exact fun value mem => absurd mem List.not_mem_nil
      · intro value mem handle link
        cases List.mem_singleton.mp mem
        cases link
        exact target
    | integer | float | text | undefined | builtin | null =>
      exact proceeds_fail fits (by simp [Cause.kind])

/-- An expression is evaluated. -/
theorem proceeds_evaluate {node : Node} {scope : Handle} {next : Continuation .value}
    (prints : ∀ builtin ∈ settings.builtins, builtin = .print)
    (sound : machine.store.Sound Value.scope?) (live : machine.store.IsLive scope)
    (fits : machine.store.Fits) (fitting : next.Fits) :
    (evaluate settings node scope next).Proceeds machine := by
  refine proceeds_modest (modest_mark _) fits (.refl _) fun _ _ same => ?_
  refine proceeds_modest modest_currentLine fits same fun line _ same => ?_
  refine proceeds_modest (modest_record _ _) fits same fun _ after same => ?_
  rw [← same.store_eq] at sound live fits
  split
  -- The literal of an integer may be of any size; its value is a word.
  case h_1 => exact proceeds_return fits ⟨Word.fits_wrap _, fitting⟩
  case h_2 | h_3 => exact proceeds_return fits ⟨trivial, fitting⟩
  case h_4 name =>
    refine proceeds_lookup name sound live fits fun value _ valueFits _ _ => ?_
    exact proceeds_return fits ⟨valueFits, fitting⟩
  case h_5 | h_7 | h_8 | h_9 | h_10 => exact proceeds_return fits fitting
  case h_6 | h_12 => exact proceeds_fail fits (by simp [Cause.kind])
  case h_11 => exact proceeds_beginCall prints sound live fits fitting

/-- A function is declared. -/
theorem proceeds_define {name : String} {parameters : List String} {body : List Node}
    {scope : Handle} {next : Continuation .completion} (fits : machine.store.Fits)
    (fitting : next.Fits) :
    (define settings name parameters body scope next).Proceeds machine := by
  have bound := fits.bind (Value.fits_function ⟨machine.functions, name, parameters, body, scope⟩)
    scope name
  refine proceeds_of_eq_ok rfl (proceeds_of_eq_ok rfl ?_)
  refine proceeds_modest (modest_record _ _) bound ⟨rfl, rfl, rfl⟩ fun _ after same => ?_
  refine proceeds_return ?_ ⟨trivial, fitting⟩
  rw [same.store_eq]
  exact bound

/-- A statement is executed. -/
theorem proceeds_execute {node : Node} {scope : Handle} {next : Continuation .completion}
    (fits : machine.store.Fits) (fitting : next.Fits) :
    (execute settings node scope next).Proceeds machine := by
  refine proceeds_modest (modest_mark _) fits (.refl _) fun _ after same => ?_
  rw [← same.store_eq] at fits
  split
  case h_1 => exact proceeds_define fits fitting
  case h_2 | h_4 | h_9 | h_13 => exact proceeds_return fits fitting
  case h_3 | h_5 | h_6 | h_7 => exact proceeds_return fits ⟨trivial, fitting⟩
  case h_8 => exact proceeds_enter fits fitting
  case h_10 => exact proceeds_test fits fitting
  case h_11 => exact proceeds_enter fits fitting
  case h_12 start condition step body =>
    refine proceeds_createChild fits fun after created _ => ?_
    cases start with
    | some start => exact proceeds_return created fitting
    | none => exact proceeds_test created fitting

/-! ## Out of nodes -/

/-- A value is delivered. -/
theorem proceeds_deliver {value : Value} {next : Continuation .value}
    (orderly : machine.Orderly (.holds [value] :: next.stakes)) (fits : machine.store.Fits)
    (valueFits : value.Fits) (fitting : next.Fits) :
    (deliver settings value next).Proceeds machine := by
  have rest := orderly.held
  have kept := orderly.valid.1 value (List.mem_cons_self ..)
  have links : ∀ target, value.scope? = some target → machine.store.IsLive target :=
    fun target => orderly.isLive_of_keptBy kept
  -- What waited for the value goes on with it; only operators and calls can fail here.
  cases next with
  | assigning name scope next =>
    obtain ⟨found, store, after, -, run, same, -, binds⟩ :=
      exists_assign_eq settings name orderly.sound rest.isLive_of_resumes links
    refine proceeds_of_eq_ok run (proceeds_return ?_ ⟨valueFits, fitting⟩)
    rw [same.store_eq]
    exact binds.fits fits valueFits
  | conjunction right scope next =>
    rw [deliver]
    split
    · exact proceeds_return fits fitting
    · exact proceeds_return fits ⟨Value.fits_ofBool _, fitting⟩
  | disjunction right scope next =>
    rw [deliver]
    split
    · exact proceeds_return fits ⟨Value.fits_ofBool _, fitting⟩
    · exact proceeds_return fits fitting
  | truth next => exact proceeds_return fits ⟨Value.fits_ofBool _, fitting⟩
  | leftOperand line operator right scope next =>
    exact proceeds_return fits ⟨valueFits, fitting⟩
  | rightOperand line operator left next =>
    refine proceeds_modest (modest_mark line) fits (.refl _) fun _ after same => ?_
    have settles := Operator.settles_binary operator fitting.1 valueFits
    exact proceeds_value (ofProblem_yields settles) fits fitting.2 same
  | operand line operator next =>
    refine proceeds_modest (modest_mark line) fits (.refl _) fun _ after same => ?_
    have settles := Operator.settles_unary operator valueFits
    exact proceeds_value (ofProblem_yields settles) fits fitting same
  | argument line callee finished nodes scope next =>
    obtain ⟨calleeFits, finishedFit, fitting⟩ := fitting
    exact proceeds_passArguments orderly.sound fits calleeFits
      (List.forall_mem_cons.mpr ⟨valueFits, finishedFit⟩) fitting
      fun _ mem _ => orderly.isLive_of_passed mem
  | declaring name scope next =>
    obtain ⟨store, run, -, binds⟩ := exists_bind_eq scope name orderly.sound links
    have bound := binds.fits fits valueFits
    refine proceeds_of_eq_ok run ?_
    refine proceeds_modest (modest_record _ _) bound ⟨rfl, rfl, rfl⟩ fun _ after same => ?_
    refine proceeds_return ?_ ⟨trivial, fitting⟩
    rw [same.store_eq]
    exact bound
  | returning next =>
    obtain ⟨pins, run, -⟩ := exists_keepResult_eq orderly.sound links
    exact proceeds_of_eq_ok run (proceeds_return fits ⟨valueFits, fitting⟩)
  | branching line thenBranch elseBranch scope next =>
    refine proceeds_modest (modest_record _ _) fits (.refl _) fun _ after same => ?_
    rw [← same.store_eq] at fits
    split
    · exact proceeds_enter fits fitting
    · split
      · exact proceeds_enter fits fitting
      · exact proceeds_return fits ⟨trivial, fitting⟩
  | testing line loop next =>
    refine proceeds_modest (modest_record _ _) fits (.refl _) fun _ after same => ?_
    rw [← same.store_eq] at fits
    split
    · exact proceeds_enter fits fitting
    · exact proceeds_return fits ⟨trivial, fitting⟩
  | stepping loop next => exact proceeds_test fits fitting
  | discarding next => exact proceeds_return fits ⟨trivial, fitting⟩

/-- A call ends with a result. -/
theorem proceeds_finishCall {name : String} {scope : Handle} {callerFrame : Option Handle}
    {callerLine : Int} {result : Value} {next : Continuation .value}
    (releases : settings.releases = true) (live : machine.store.IsLive scope)
    (fits : machine.store.Fits) (resultFits : result.Fits) (fitting : next.Fits) :
    (finishCall settings name scope callerFrame callerLine result next).Proceeds machine := by
  have released := fits.release scope
  refine proceeds_of_eq_ok (failure?_eq (leaveCall_eq callerFrame releases live)) ?_
  refine proceeds_modest (modest_record _ _) released ⟨rfl, rfl, rfl⟩ fun _ _ same => ?_
  refine proceeds_modest (modest_setLine _) released same fun _ after same => ?_
  refine proceeds_return ?_ ⟨resultFits, fitting⟩
  rw [same.store_eq]
  exact released

/-- A statement has completed. -/
theorem proceeds_complete {completion : Completion} {next : Continuation .completion}
    (releases : settings.releases = true)
    (orderly : machine.Orderly (completion.stakes ++ next.stakes)) (fits : machine.store.Fits)
    (completionFits : completion.Fits) (fitting : next.Fits) :
    (complete settings completion next).Proceeds machine := by
  have rest := orderly_uncompleted orderly
  -- Only a jump that nothing receives fails here.
  cases next with
  | sequence nodes scope next =>
    cases completion with
    | normal => exact proceeds_return fits (fits_inSequence fitting)
    | broken | continued | returned => exact proceeds_return fits ⟨completionFits, fitting⟩
  | leaving scope next =>
    have live := rest.owned_isLive (List.mem_cons_self ..)
    refine proceeds_of_eq_ok (failure?_eq (release_eq releases live)) ?_
    exact proceeds_return (fits.release scope) ⟨completionFits, fitting⟩
  | starting loop next => exact proceeds_test fits fitting
  | looping loop next =>
    cases completion with
    | broken | returned => exact proceeds_return fits ⟨completionFits, fitting⟩
    | normal | continued =>
      rw [complete]
      split
      · exact proceeds_return fits fitting
      · exact proceeds_test fits fitting
  | calling name scope callerFrame callerLine next =>
    have live := rest.owned_isLive (List.mem_cons_self ..)
    cases completion with
    | normal => exact proceeds_finishCall releases live fits trivial fitting
    | returned value => exact proceeds_finishCall releases live fits completionFits fitting
    | broken | continued => exact proceeds_fail fits (by simp [Cause.kind])
  | program nodes root =>
    rw [complete]
    cases completion.jump? with
    | some jump => exact proceeds_fail fits (by simp [Cause.kind])
    | none =>
      cases nodes with
      | nil =>
        refine proceeds_of_eq_ok rfl (proceeds_return fits ?_)
        rintro failure ⟨⟩
      | cons node nodes => exact proceeds_of_eq_ok rfl (proceeds_return fits trivial)

/-- A failure leaves what is being done. -/
theorem proceeds_unwind {failure : Failure} {awaited : Awaited} {next : Continuation awaited}
    (releases : settings.releases = true) (orderly : machine.Orderly next.stakes)
    (fits : machine.store.Fits) (reported : failure.IsReported) (fitting : next.Fits) :
    (unwind settings failure next).Proceeds machine := by
  cases next with
  | leaving scope next =>
    have live := orderly.owned_isLive (List.mem_cons_self ..)
    refine proceeds_of_eq_ok (failure?_eq (release_eq releases live)) ?_
    exact proceeds_return (fits.release scope) ⟨reported, fitting⟩
  | calling name scope callerFrame callerLine next =>
    have live := orderly.owned_isLive (List.mem_cons_self ..)
    refine proceeds_of_eq_ok (failure?_eq (leaveCall_eq callerFrame releases live)) ?_
    exact proceeds_return (fits.release scope) ⟨reported, fitting⟩
  | program nodes root =>
    refine proceeds_of_eq_ok rfl (proceeds_return fits ?_)
    rintro cause ⟨⟩
    exact reported
  | rightOperand => exact proceeds_return fits ⟨reported, fitting.2⟩
  | argument => exact proceeds_return fits ⟨reported, fitting.2.2⟩
  | assigning | conjunction | disjunction | truth | leftOperand | operand | declaring | returning
  | branching | testing | stepping | discarding | sequence | starting | looping =>
    exact proceeds_return fits ⟨reported, fitting⟩

/-! ## Steps and runs -/

/-- All integers that a run holds are words, and a failure is reported, or comes of an integer that
is too long. -/
structure Fits (state : State) : Prop where
  store : state.machine.store.Fits
  control : state.control.Fits

/-- Whatever an action leads to fits, if the action proceeds. -/
theorem fits_after {awaited : Awaited} {next : Continuation awaited} {action : Action Control}
    (proceeds : action.Proceeds machine) (fitting : next.Fits) :
    (after machine next action).Fits := by
  rw [Proceeds, Yields] at proceeds
  rw [after]
  generalize action machine = result at proceeds ⊢
  cases result with
  | ok control after => exact ⟨proceeds.1, proceeds.2⟩
  | error failure after => exact ⟨proceeds.1, proceeds.2, fitting⟩

/-- A step keeps integers words and failures errors of a run. -/
theorem step_fits {state : State} (releases : settings.releases = true)
    (prints : ∀ builtin ∈ settings.builtins, builtin = .print) (orderly : state.Orderly)
    (fits : state.Fits) : (state.step settings).Fits := by
  obtain ⟨machine, control⟩ := state
  obtain ⟨fits, fitting⟩ := fits
  cases control with
  | evaluating node scope next =>
    exact fits_after
      (proceeds_evaluate prints orderly.sound orderly.isLive_of_resumes fits fitting) fitting
  | executing node scope next => exact fits_after (proceeds_execute fits fitting) fitting
  | delivering value next =>
    exact fits_after (proceeds_deliver orderly fits fitting.1 fitting.2) fitting.2
  | completing completion next =>
    exact fits_after (proceeds_complete releases orderly fits fitting.1 fitting.2) fitting.2
  | unwinding failure next =>
    exact fits_after (proceeds_unwind releases orderly fits fitting.1 fitting.2) fitting.2
  | halted failure => exact ⟨fits, fitting⟩

end State

namespace Machine

variable {settings : Settings} {machine : Machine}

/-- At every moment of a run, integers are words and failures are errors of a run. -/
theorem course_fits (releases : settings.releases = true)
    (prints : ∀ builtin ∈ settings.builtins, builtin = .print) (rest : machine.AtRest)
    (fits : machine.store.Fits) (body : List Node) (steps : Nat) :
    (machine.course settings body steps).Fits := by
  induction steps with
  | zero => exact ⟨fits.create _ _, trivial, trivial⟩
  | succ steps ih =>
    rw [course_succ]
    exact State.step_fits releases prints (course_orderly releases rest body steps) ih

/-- The first machine holds no values. -/
theorem fits_initial : Machine.initial.store.Fits := by
  intro handle binding mem
  simp [Machine.initial, Store.empty, Store.scope, Array.getD, default] at mem

/-- A run from the first machine stops only with failures that are reported, or that come of an
integer that is too long. -/
theorem outcome_reported (releases : settings.releases = true)
    (prints : ∀ builtin ∈ settings.builtins, builtin = .print) (body : List Node) (steps : Nat)
    {failure : Failure}
    (failed : (Machine.initial.course settings body steps).outcome = .failed failure) :
    failure.IsReported := by
  obtain ⟨-, fits⟩ := course_fits releases prints atRest_initial fits_initial body steps
  rw [control_of_failed failed] at fits
  exact fits failure rfl

end Machine

/-! ## Integers that are too long -/

/-- No integer that a run may have to write is too long: neither the limit on nested calls nor the
line of any node. -/
structure Settings.Writes (settings : Settings) (body : List Node) : Prop where
  limit : ∀ limit ∈ settings.depthLimit, Decimal.isWritable limit = true
  lines : ∀ node ∈ body, node.All fun inner => Decimal.isWritable inner.line = true

/-- The cause of an error can be worded, if the limit on nested calls can be written: the integers
that a run holds are words. -/
theorem State.Raises.isWritable {settings : Settings} {state : State} {cause : Cause}
    (raises : state.Raises settings cause) (fits : state.Fits)
    (limit : ∀ limit ∈ settings.depthLimit, Decimal.isWritable limit = true) :
    cause.isWritable = true := by
  cases raises with
  | deep calls limited => exact limit _ limited
  | joined failed =>
    have settles := Operator.settles_binary ‹String› fits.control.2.1 fits.control.1
    rw [failed] at settles
    exact settles.2
  | signed failed =>
    have settles := Operator.settles_unary ‹String› fits.control.1
    rw [failed] at settles
    exact settles.2
  | unbound | target | misplaced | missing | callee | arity | crowded | stray | escaped => rfl

namespace Machine

variable {settings : Settings} {body : List Node}

/-- A run from the first machine fails for want of a report only if there is an integer that is too
long. -/
theorem not_writes_of_unwritable (releases : settings.releases = true)
    (prints : ∀ builtin ∈ settings.builtins, builtin = .print) {steps : Nat}
    (failed : (Machine.initial.course settings body steps).outcome = .failed .unwritable) :
    ¬settings.Writes body := by
  rintro ⟨limit, lines⟩
  have failing : (Machine.initial.course settings body steps).control.failure? =
      some .unwritable := by
    rw [control_of_failed failed]
    rfl
  obtain ⟨moment, -, stifles, -⟩ := exists_stifles releases atRest_initial failing
  let holds (line : Int) : Prop := Decimal.isWritable line = true
  -- The first machine stands at line 1; all later lines are lines of nodes of the program.
  have first : holds Machine.initial.line := by decide +kernel
  cases stifles with
  | report raises unwritable =>
    have fits := course_fits releases prints atRest_initial fits_initial body moment
    have line := course_lineAfter holds releases atRest_initial lines first raises.isGoing
    rw [Error.isWritable, line, raises.isWritable fits limit] at unwritable
    cases unwritable
  | event tells fails =>
    have mentions := course_tells holds releases atRest_initial lines first tells
    exact fails fun _ => Event.isWritable_of_mentions mentions

end Machine

namespace Session

/-- Failures of a run are reported: however many programs have been run in a session before, and
whatever the statements of the next one are, its run ends normally, goes on, or stops with an error
of one of the six kinds that a run can meet, whose report can be written.  It fails without a report
only if the limit on nested calls or the line of a node is too long to be written. -/
theorem run_reported {session : Session} (reached : session.Reached)
    (prints : session.settings.builtins = [.print]) (body : List Node) (steps : Nat) :
    (session.run steps body).1.outcome = .ended ∨
      (session.run steps body).1.outcome = .unfinished ∨
      (∃ error : Error, (session.run steps body).1.outcome = .failed (.error error) ∧
        error.cause.kind ∈ [.reference, .type, .argument, .controlFlow, .arithmetic, .range] ∧
        error.isWritable = true) ∨
      (session.run steps body).1.outcome = .failed .unwritable ∧ ¬session.settings.Writes body := by
  have ready := reached.ready
  -- Nothing that ran before in the session is seen: the run is one from the first machine.
  obtain ⟨isolated, -, -⟩ := Machine.course_isolated ready.rest ready.root_eq ready.printed_eq
    ready.traced_eq ready.noted_eq session.settings body steps
  have onlyPrint : ∀ builtin ∈ session.settings.builtins, builtin = .print := by
    simp [prints]
  rw [outcome_run, isolated]
  cases outcome : (Machine.initial.course session.settings body steps).outcome with
  | ended => exact Or.inl rfl
  | unfinished => exact Or.inr (Or.inl rfl)
  | failed failure =>
    have reported := Machine.outcome_reported ready.releases onlyPrint body steps outcome
    cases failure with
    | error error => exact Or.inr (Or.inr (Or.inl ⟨error, rfl, reported⟩))
    | unwritable =>
      have long := Machine.not_writes_of_unwritable ready.releases onlyPrint outcome
      exact Or.inr (Or.inr (Or.inr ⟨rfl, long⟩))
    | fault | tooLarge => exact absurd reported id

/-- Statements that no text denotes: an integer that is no word, a jump at the start of a loop, a
parameter that is repeated, an operator that does not exist. -/
def oddProgram : List Node :=
  [.declaration 1 "x" (some (.integer 1 (10 ^ 30))),
    .forLoop 2 (some (.breaking 2)) (some (.integer 2 0)) none [],
    .function 3 "f" ["a", "a"] [.returning 3 (some (.reference 3 "a"))],
    .binary 4 "**" (.call 4 "f" [.reference 4 "x", .float 4 0]) (.reference 4 "x")]

/-- Statements that no text denotes are run up to an error that is reported. -/
theorem oddProgram_reported :
    ∃ error : Error, ((Session.start (settingsFor 0 none [])).run 60 oddProgram).1.outcome =
      .failed (.error error) ∧
        error.cause.kind ∈ [.reference, .type, .argument, .controlFlow, .arithmetic, .range] ∧
        error.isWritable = true := by
  have reported := run_reported (.start (settingsFor 0 none []) rfl) rfl oddProgram 60
  rw [outcome_run] at reported ⊢
  rcases reported with ended | unfinished | failed | ⟨unwritable, -⟩
  · exact absurd ended (by decide +kernel)
  · exact absurd unfinished (by decide +kernel)
  · exact failed
  · exact absurd unwritable (by decide +kernel)

/-- A name that nothing binds, on a line with a number that is too long to be written. -/
def farProgram : List Node :=
  [.reference (10 ^ Decimal.digitLimit) "x"]

/-- The error of a node on a line that is too far down is not reported: the run fails in the attempt
to write its report. -/
theorem farProgram_unreported :
    (∃ steps, ((Session.start (settingsFor 0 none [])).run steps farProgram).1.outcome =
      .failed .unwritable) ∧
    ∀ steps error, ((Session.start (settingsFor 0 none [])).run steps farProgram).1.outcome ≠
      .failed (.error error) := by
  simp only [outcome_run]
  have fails : ((Session.start (settingsFor 0 none [])).machine.course (settingsFor 0 none [])
      farProgram 10).outcome = .failed .unwritable := by
    decide +kernel
  refine ⟨⟨10, fails⟩, fun steps error reported => ?_⟩
  cases Machine.outcome_unique fails reported (by simp) (by simp)

end Session

end Scriptlet
