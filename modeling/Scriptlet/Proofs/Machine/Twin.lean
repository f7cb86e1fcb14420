import Scriptlet.Proofs.Machine.Likeness
import Scriptlet.Proofs.Scope.Mirror

/-! # Releasing scopes cannot be observed

A run that releases scopes and one that keeps them all go through the same controls, print the same
lines and end in the same way.  Their machines differ in slots, pins, traces and notes, and mirror
each other in all else.

Main definitions: `Machine.Twin`, by which two machines agree in all that a program can observe.

Main statements: `Machine.run_keeping`: whether scopes are released makes no difference to the
outcome of a run and to what it prints. -/

namespace Scriptlet

/-- Two machines agree in all that a program can observe. -/
structure Machine.Twin (machine other : Machine) : Prop where
  sound : machine.store.Sound Value.scope?
  otherSound : other.store.Sound Value.scope?
  mirrors : machine.store.Mirrors other.store
  line_eq : other.line = machine.line
  depth_eq : other.callDepth = machine.callDepth
  frame_eq : other.frame = machine.frame
  functions_eq : other.functions = machine.functions
  printed_eq : other.printed = machine.printed

/-- A machine is its own twin. -/
theorem Machine.Twin.refl {machine : Machine} (sound : machine.store.Sound Value.scope?) :
    machine.Twin machine :=
  ⟨sound, sound, .refl _, rfl, rfl, rfl, rfl, rfl⟩

/-- The stores of two machines change, and nothing else. -/
theorem Machine.Twin.withStores {machine other : Machine} (twin : machine.Twin other)
    {store otherStore : Store Value} (sound : store.Sound Value.scope?)
    (otherSound : otherStore.Sound Value.scope?) (mirrors : store.Mirrors otherStore) :
    Machine.Twin { machine with store } { other with store := otherStore } :=
  ⟨sound, otherSound, mirrors, twin.line_eq, twin.depth_eq, twin.frame_eq, twin.functions_eq,
    twin.printed_eq⟩

/-- Machines that agree in all that a program can observe are alike: scopes and values are the same
in both. -/
instance : Likeness Machine.Twin id id where
  sound twin := twin.sound
  otherSound twin := twin.otherSound
  line_eq twin := twin.line_eq
  depth_eq twin := twin.depth_eq
  links twin links target link := twin.mirrors.isLive (links target link)
  find?_eq := by
    intro machine other scope name found twin live search
    rw [Option.map_id, id, id, twin.mirrors.find?_eq twin.sound twin.otherSound live, search]
  withLine twin _ := { twin with line_eq := rfl }
  withTraced twin _ _ := { twin with }
  withCalls twin _ frame :=
    { twin with depth_eq := rfl, frame_eq := congrFun Option.map_id frame }
  withPins twin sound otherSound :=
    twin.withStores sound otherSound (twin.mirrors.withPins _ _)
  bind twin scope name value sound otherSound :=
    twin.withStores sound otherSound ((twin.mirrors.withPins _ _).bind scope name value)
  release twin orderly top :=
    { twin with
      sound := orderly.sound.release (orderly.childless top) (orderly.unlinked top)
      mirrors := twin.mirrors.release twin.sound (orderly.childless top) }

namespace Action

variable {α β : Type} {machine other : Machine}

/-- Other actions follow a look at the store, which may show different things. -/
theorem agree_bind_look {look : Store Value → α} {following otherFollowing : α → Action β}
    (agree : Agree Machine.Twin Eq (following (look machine.store) machine)
      (otherFollowing (look other.store) other)) :
    Agree Machine.Twin Eq ((query (fun store => .ok (look store)) >>= following) machine)
      ((query (fun store => .ok (look store)) >>= otherFollowing) other) :=
  agree

/-- What is noted does not matter, and the results of built-in functions do not depend on scopes. -/
theorem alike_callBuiltin (builtin : Builtin) (arguments : List Value) :
    Alike Machine.Twin Eq (callBuiltin builtin arguments) (callBuiltin builtin arguments) := by
  intro machine other twin
  cases builtin with
  | print => exact ⟨rfl, { twin with printed_eq := congrArg (List.cons _) twin.printed_eq }⟩
  | track | dump | argc => exact ⟨rfl, { twin with }⟩

/-! ## Scopes and names -/

/-- A name has the same value, seen from a live scope. -/
theorem agree_lookup {scope : Handle} (twin : machine.Twin other)
    (live : machine.store.IsLive scope) (name : String) :
    Agree Machine.Twin Eq (lookup name scope machine) (lookup name scope other) := by
  -- Both searches climb through live scopes only, where the stores mirror each other.
  obtain ⟨found, search, -⟩ :=
    Store.exists_find?_eq_ok twin.sound.tidy twin.sound.rooted live name
  have otherSearch : other.store.find? name scope = .ok found := by
    rw [twin.mirrors.find?_eq twin.sound twin.otherSound live, search]
  have run : query (·.find? name scope) machine = .ok found machine := by rw [query, search]
  have otherRun : query (·.find? name scope) other = .ok found other := by
    rw [query, otherSearch]
  refine agree_bind_of_eq_ok run otherRun ?_
  cases found with
  | none => exact alike_fail _ machine other twin
  | some holder =>
    have otherRead : query (fun store => .ok (store.get? holder name)) other =
        .ok (machine.store.get? holder name) other := by
      rw [query, twin.mirrors.get?_eq]
    refine agree_bind_of_eq_ok rfl otherRead ?_
    cases machine.store.get? holder name with
    | none => exact alike_fail _ machine other twin
    | some value => exact ⟨rfl, twin⟩

/-- A scope is created in two machines that are twins, and is used in the same way. -/
theorem agree_bind_createChild {following otherFollowing : Handle → Action β} {around : Handle}
    {name : String} (twin : machine.Twin other) (live : machine.store.IsLive around)
    (follows : ∀ after otherAfter, after.Twin otherAfter →
      after.store = (machine.store.createChild around (some name)).2 →
      Agree Machine.Twin Eq (following ⟨machine.store.scopes.size⟩ after)
        (otherFollowing ⟨machine.store.scopes.size⟩ otherAfter)) :
    Agree Machine.Twin Eq ((createChild around name >>= following) machine)
      ((createChild around name >>= otherFollowing) other) := by
  -- Both machines have created as many scopes, so the new one has the same handle in both.
  have otherRun := createChild_eq around name other
  rw [twin.mirrors.size_eq] at otherRun
  refine agree_bind_of_eq_ok (createChild_eq around name machine) otherRun (follows _ _ ?_ rfl)
  exact twin.withStores (twin.sound.createChild live)
    (twin.otherSound.createChild (twin.mirrors.isLive live))
    (twin.mirrors.createChild twin.sound twin.otherSound live)

end Action

namespace State

open Scriptlet.Action

variable {settings : Settings} {machine other : Machine}

/-! ## Statements, loops and calls -/

/-- Twins enter a body alike. -/
theorem agree_enter {name : String} {nodes : List Node} {around : Handle}
    {next : Continuation .completion} (twin : machine.Twin other)
    (live : machine.store.IsLive around) :
    Agree Machine.Twin Eq (enter name nodes around next machine)
      (enter name nodes around next other) :=
  agree_bind_createChild twin live fun _ _ twins _ => ⟨rfl, twins⟩

/-- Twins test a loop alike. -/
theorem agree_test {loop : Loop} {next : Continuation .completion} (twin : machine.Twin other)
    (live : machine.store.IsLive loop.scope) :
    Agree Machine.Twin Eq (test loop next machine) (test loop next other) := by
  rw [test]
  cases loop.condition with
  | some condition => exact ⟨rfl, twin⟩
  | none => exact agree_enter twin live

/-- A function is called in two machines that are twins. -/
theorem agree_call {callee : Callee} {arguments : List Value} {next : Continuation .value}
    (twin : machine.Twin other)
    (links : ∀ value ∈ callee.values ++ arguments, ∀ target, value.scope? = some target →
      machine.store.IsLive target) :
    Agree Machine.Twin Eq (call settings callee arguments next machine)
      (call settings.keeping callee arguments next other) := by
  cases callee with
  | builtin builtin =>
    refine agree_bind_pure (alike_callBuiltin builtin arguments machine other twin) ?_
    exact fun value _ same => congrArg (Control.delivering · next) same
  | declared closure =>
    refine agree_bind_of_quiet (quiet_checkDepth settings closure.name)
      (alike_checkDepth settings closure.name) twin (.refl _) fun _ _ _ _ _ twin same => ?_
    refine agree_bind_of_quiet quiet_currentLine alike_currentLine twin same ?_
    rintro callerLine _ machine other rfl twin same
    have links : ∀ value ∈ .function closure :: arguments, ∀ target,
        value.scope? = some target → machine.store.IsLive target := by
      rw [same.store_eq]
      exact links
    refine agree_bind_createChild twin (links _ (List.mem_cons_self ..) _ rfl)
      fun after otherAfter twins store_eq => ?_
    -- The arguments link to scopes that are live before the new scope is created, hence also after.
    obtain ⟨store, otherStore, run, otherRun, twins⟩ := exists_bindParameters_alike
      closure.parameters arguments twins (by
        intro value mem target link
        rw [store_eq]
        exact twin.sound.tidy.create_isLive_iff.mpr
          (Or.inl (links value (List.mem_cons_of_mem _ mem) target link)))
    rw [List.map_id] at otherRun
    refine agree_bind_of_eq_ok run otherRun ?_
    refine agree_bind_of_eq_ok rfl rfl ?_
    refine agree_bind_of_quiet (quiet_record _ _) (alike_record settings (by rfl) (by rfl))
      twins (.refl _) fun _ _ _ _ _ twins _ => ?_
    refine agree_bind_of_eq_ok rfl (by rw [enterCall, twins.frame_eq]) ⟨rfl, ?_⟩
    exact { twins with depth_eq := congrArg (· + 1) twins.depth_eq, frame_eq := rfl }

/-- The arguments of a call are evaluated in two machines that are twins. -/
theorem agree_passArguments {line : Int} {callee : Callee} {finished : List Value}
    {rest : List Node} {scope : Handle} {next : Continuation .value} (twin : machine.Twin other)
    (links : ∀ value ∈ callee.values ++ finished, ∀ target, value.scope? = some target →
      machine.store.IsLive target) :
    Agree Machine.Twin Eq (passArguments settings line callee finished rest scope next machine)
      (passArguments settings.keeping line callee finished rest scope next other) := by
  cases rest with
  | cons argument rest => exact ⟨rfl, twin⟩
  | nil =>
    refine agree_bind_of_quiet (quiet_mark line) (alike_mark line) twin (.refl _)
      fun _ _ after otherAfter _ twins same => agree_call twins ?_
    intro value mem
    rw [same.store_eq]
    exact links value (Callee.mem_passed_iff.mp mem)

/-! ## Into nodes -/

/-- A call begins in two machines that are twins. -/
theorem agree_beginCall {line : Int} {name : String} {arguments : List Node} {scope : Handle}
    {next : Continuation .value} (twin : machine.Twin other)
    (live : machine.store.IsLive scope) :
    Agree Machine.Twin Eq (beginCall settings line name arguments scope next machine)
      (beginCall settings.keeping line name arguments scope next other) := by
  rw [beginCall, beginCall, show settings.keeping.builtin? name = settings.builtin? name from rfl]
  cases settings.builtin? name with
  | some builtin =>
    refine agree_bind_of_quiet (quiet_checkArity _ _ _) (alike_checkArity _ _ _) twin (.refl _)
      fun _ _ _ _ _ twins _ => agree_passArguments twins ?_
    exact fun value mem => absurd mem List.not_mem_nil
  | none =>
    refine agree_bind (lookup_yields twin.sound live name) (agree_lookup twin live name) ?_
    rintro value _ _ otherAfter rfl twins ⟨rfl, holder, holderLive, -, held⟩
    cases value with
    | function closure =>
      refine agree_bind_of_quiet (quiet_checkArity _ _ _) (alike_checkArity _ _ _) twins (.refl _)
        fun _ _ _ _ _ twins same => agree_passArguments twins ?_
      intro value mem target link
      rw [List.mem_singleton.mp mem] at link
      rw [same.store_eq]
      exact twin.sound.bound_isLive holderLive (mem_of_lookup_eq_some held) link
    | integer | float | text | undefined | builtin | null => exact alike_fail _ _ _ twins

/-- An expression is evaluated in two machines that are twins. -/
theorem agree_evaluate {node : Node} {scope : Handle} {next : Continuation .value}
    (twin : machine.Twin other) (live : machine.store.IsLive scope) :
    Agree Machine.Twin Eq (evaluate settings node scope next machine)
      (evaluate settings.keeping node scope next other) := by
  refine agree_bind_of_quiet (quiet_mark _) (alike_mark _) twin (.refl _)
    fun _ _ _ _ _ twin same => ?_
  refine agree_bind_of_quiet quiet_currentLine alike_currentLine twin same ?_
  rintro line _ _ _ rfl twin same
  refine agree_bind_of_quiet (quiet_record _ _) (alike_record settings (by rfl) (by rfl)) twin same
    fun _ _ _ _ _ twin same => ?_
  rw [← same.store_eq] at live
  split
  case h_1 | h_2 | h_3 => exact ⟨rfl, twin⟩
  case h_4 name =>
    refine agree_bind_pure (agree_lookup twin live name) ?_
    exact fun value _ same => congrArg (Control.delivering · next) same
  case h_5 | h_7 | h_8 | h_9 | h_10 => exact ⟨rfl, twin⟩
  case h_6 | h_12 => exact alike_fail _ _ _ twin
  case h_11 => exact agree_beginCall twin live

/-- A function is declared in two machines that are twins. -/
theorem agree_define {name : String} {parameters : List String} {body : List Node}
    {scope : Handle} {next : Continuation .completion} (twin : machine.Twin other)
    (live : machine.store.IsLive scope) :
    Agree Machine.Twin Eq (define settings name parameters body scope next machine)
      (define settings.keeping name parameters body scope next other) := by
  refine agree_bind_of_eq_ok rfl rfl (agree_bind_look ?_)
  refine agree_bind_pure (alike_record settings (by rfl) (by rfl) _ _ ?_) fun _ _ _ => rfl
  show Machine.Twin _ { other with
    functions := other.functions + 1
    store := other.store.bind scope name
      (.function ⟨other.functions, name, parameters, body, scope⟩) }
  rw [twin.functions_eq]
  have bound := twin.withStores (sound_bind_declared twin.sound live rfl)
    (sound_bind_declared twin.otherSound (twin.mirrors.isLive live) rfl)
    (twin.mirrors.bind scope name (.function ⟨machine.functions, name, parameters, body, scope⟩))
  exact { bound with functions_eq := rfl }

/-- A statement is executed in two machines that are twins. -/
theorem agree_execute {node : Node} {scope : Handle} {next : Continuation .completion}
    (twin : machine.Twin other) (live : machine.store.IsLive scope) :
    Agree Machine.Twin Eq (execute settings node scope next machine)
      (execute settings.keeping node scope next other) := by
  refine agree_bind_of_quiet (quiet_mark _) (alike_mark _) twin (.refl _)
    fun _ _ _ _ _ twin same => ?_
  rw [← same.store_eq] at live
  split
  case h_1 => exact agree_define twin live
  case h_2 | h_3 | h_4 | h_5 | h_6 | h_7 | h_9 | h_13 => exact ⟨rfl, twin⟩
  case h_8 => exact agree_enter twin live
  case h_10 => exact agree_test twin live
  case h_11 => exact agree_enter twin live
  case h_12 start condition step body =>
    refine agree_bind_createChild twin live fun after otherAfter twins store_eq => ?_
    cases start with
    | some start => exact ⟨rfl, twins⟩
    | none =>
      refine agree_test twins ?_
      show after.store.IsLive _
      rw [store_eq]
      exact twin.sound.tidy.create_isLive_iff.mpr (Or.inr rfl)

/-! ## Out of nodes -/

/-- A value is delivered in two machines that are twins. -/
theorem agree_deliver {value : Value} {next : Continuation .value} (twin : machine.Twin other)
    (orderly : machine.Orderly (.holds [value] :: next.stakes)) :
    Agree Machine.Twin Eq (deliver settings value next machine)
      (deliver settings.keeping value next other) := by
  have rest := orderly.held
  have kept := orderly.valid.1 value (List.mem_cons_self ..)
  have links : ∀ target, value.scope? = some target → machine.store.IsLive target :=
    fun target => orderly.isLive_of_keptBy kept
  -- Both machines wait for the value in the same way, so they go on in the same way.
  cases next with
  | assigning name scope next =>
    exact agree_bind_pure (agree_assign settings twin rest.isLive_of_resumes name links)
      fun _ _ _ => rfl
  | conjunction right scope next =>
    rw [deliver, deliver]
    split <;> exact ⟨rfl, twin⟩
  | disjunction right scope next =>
    rw [deliver, deliver]
    split <;> exact ⟨rfl, twin⟩
  | truth next => exact ⟨rfl, twin⟩
  | leftOperand line operator right scope next => exact ⟨rfl, twin⟩
  | rightOperand line operator left next =>
    refine agree_bind_of_quiet (quiet_mark line) (alike_mark line) twin (.refl _)
      fun _ _ _ _ _ twin same => ?_
    refine agree_bind_pure (alike_ofProblem (congrFun Except.map_id _).symm _ _ twin) ?_
    exact fun value _ same => congrArg (Control.delivering · next) same.symm
  | operand line operator next =>
    refine agree_bind_of_quiet (quiet_mark line) (alike_mark line) twin (.refl _)
      fun _ _ _ _ _ twin same => ?_
    refine agree_bind_pure (alike_ofProblem (congrFun Except.map_id _).symm _ _ twin) ?_
    exact fun value _ same => congrArg (Control.delivering · next) same.symm
  | argument line callee finished nodes scope next =>
    exact agree_passArguments twin fun _ mem _ => orderly.isLive_of_passed mem
  | declaring name scope next =>
    obtain ⟨store, otherStore, run, otherRun, twins, -⟩ := exists_bind_alike twin scope name links
    exact agree_bind_of_eq_ok run otherRun (agree_bind_pure
      (alike_record settings (by rfl) (by rfl) _ _ twins) fun _ _ _ => rfl)
  | returning next => exact agree_bind_pure (agree_keepResult twin links) fun _ _ _ => rfl
  | branching line thenBranch elseBranch scope next =>
    refine agree_bind_of_quiet (quiet_record _ _) (alike_record settings (by rfl) (by rfl))
      twin (.refl _) fun _ _ _ _ _ twin same => ?_
    have live := rest.isLive_of_resumes
    rw [← same.store_eq] at live
    split
    · exact agree_enter twin live
    · split
      · exact agree_enter twin live
      · exact ⟨rfl, twin⟩
  | testing line loop next =>
    refine agree_bind_of_quiet (quiet_record _ _) (alike_record settings (by rfl) (by rfl))
      twin (.refl _) fun _ _ _ _ _ twin same => ?_
    have live := rest.isLive_of_resumes
    rw [← same.store_eq] at live
    split
    · exact agree_enter twin live
    · exact ⟨rfl, twin⟩
  | stepping loop next => exact agree_test twin rest.isLive_of_resumes
  | discarding next => exact ⟨rfl, twin⟩

/-- A call ends with a result in two machines that are twins. -/
theorem agree_finishCall {stakes : List Stake} {name : String} {scope : Handle}
    {rest : List Handle} {callerFrame : Option Handle} {callerLine : Int} {result : Value}
    {next : Continuation .value} (releases : settings.releases = true)
    (twin : machine.Twin other) (orderly : machine.Orderly stakes)
    (top : Stake.owned stakes = scope :: rest) :
    Agree Machine.Twin Eq
      (finishCall settings name scope callerFrame callerLine result next machine)
      (finishCall settings.keeping name scope callerFrame callerLine result next other) := by
  refine agree_bind_any
    (agree_leaveCall releases twin orderly top (congrFun Option.map_id _).symm) ?_
  rintro failed _ _ _ rfl twins
  cases failed with
  | some failure => exact ⟨rfl, twins⟩
  | none =>
    refine agree_bind_any (alike_record settings (by rfl) (by rfl) _ _ twins)
      fun _ _ _ _ _ twins => ?_
    exact agree_bind_pure (alike_setLine _ _ _ twins) fun _ _ _ => rfl

/-- All scopes are released in two machines that are twins. -/
theorem alike_clear : Alike Machine.Twin Eq clear clear :=
  fun _ _ twin => ⟨rfl, { twin with
    sound := Store.sound_clear _
    otherSound := Store.sound_clear _
    mirrors := twin.mirrors.clear }⟩

/-- A statement has completed in two machines that are twins. -/
theorem agree_complete {completion : Completion} {next : Continuation .completion}
    (releases : settings.releases = true) (twin : machine.Twin other)
    (orderly : machine.Orderly (completion.stakes ++ next.stakes)) :
    Agree Machine.Twin Eq (complete settings completion next machine)
      (complete settings.keeping completion next other) := by
  have rest := orderly_uncompleted orderly
  -- Both machines meet the same part; only a scope that is left may be treated differently.
  cases next with
  | sequence nodes scope next =>
    cases completion <;> exact ⟨rfl, twin⟩
  | leaving scope next =>
    refine agree_bind_any (agree_release releases twin rest rfl) ?_
    rintro failed _ _ _ rfl twins
    cases failed <;> exact ⟨rfl, twins⟩
  | starting loop next => exact agree_test twin rest.isLive_of_resumes
  | looping loop next =>
    cases completion with
    | broken | returned => exact ⟨rfl, twin⟩
    | normal | continued =>
      rw [complete, complete]
      cases loop.step with
      | some step => exact ⟨rfl, twin⟩
      | none => exact agree_test twin rest.isLive_of_resumes
  | calling name scope callerFrame callerLine next =>
    cases completion with
    | normal | returned => exact agree_finishCall releases twin rest rfl
    | broken | continued => exact alike_fail _ _ _ twin
  | program nodes root =>
    rw [complete, complete]
    cases completion.jump? with
    | some jump => exact alike_fail _ _ _ twin
    | none =>
      cases nodes with
      | nil => exact agree_bind_pure (alike_clear _ _ twin) fun _ _ _ => rfl
      | cons node nodes => exact agree_bind_pure (alike_setLine _ _ _ twin) fun _ _ _ => rfl

/-- A failure leaves what is being done in two machines that are twins. -/
theorem agree_unwind {failure : Failure} {awaited : Awaited} {next : Continuation awaited}
    (releases : settings.releases = true) (twin : machine.Twin other)
    (orderly : machine.Orderly next.stakes) :
    Agree Machine.Twin Eq (unwind settings failure next machine)
      (unwind settings.keeping failure next other) := by
  cases next with
  | leaving scope next =>
    exact agree_bind_pure (agree_release releases twin orderly rfl)
      fun other _ same => congrArg (fun failed => Control.unwinding (failed.getD failure) next) same
  | calling name scope callerFrame callerLine next =>
    exact agree_bind_pure
      (agree_leaveCall releases twin orderly rfl (congrFun Option.map_id _).symm)
      fun other _ same => congrArg (fun failed => Control.unwinding (failed.getD failure) next) same
  | program nodes root => exact agree_bind_pure (alike_clear _ _ twin) fun _ _ _ => rfl
  -- All others own no scope and are dropped.
  | assigning | conjunction | disjunction | truth | leftOperand | rightOperand | operand | argument
  | declaring | returning | branching | testing | stepping | discarding | sequence | starting
  | looping => exact ⟨rfl, twin⟩

/-! ## Steps and runs -/

/-- Two states do the same, on machines that are twins. -/
def Twin (state other : State) : Prop :=
  state.machine.Twin other.machine ∧ state.control = other.control

/-- What two actions that agree come to is the same. -/
theorem twin_after {awaited : Awaited} {next : Continuation awaited}
    {first second : Action Control} (agree : Agree Machine.Twin Eq (first machine) (second other)) :
    (after machine next first).Twin (after other next second) := by
  obtain ⟨twin, same | ⟨failure, first_eq, second_eq⟩⟩ := after_cases agree
  · exact ⟨twin, same⟩
  · exact ⟨twin, first_eq.trans second_eq.symm⟩

/-- A step keeps two states twins, of which the first releases scopes and the second does not. -/
theorem step_twin {state other : State} (releases : settings.releases = true)
    (orderly : state.Orderly) (twin : state.Twin other) :
    (state.step settings).Twin (other.step settings.keeping) := by
  obtain ⟨machine, control⟩ := state
  obtain ⟨otherMachine, otherControl⟩ := other
  obtain ⟨twin, same⟩ := twin
  cases same
  cases control with
  | evaluating node scope next =>
    exact twin_after (agree_evaluate twin orderly.isLive_of_resumes)
  | executing node scope next =>
    exact twin_after (agree_execute twin orderly.isLive_of_resumes)
  | delivering value next => exact twin_after (agree_deliver twin orderly)
  | completing completion next => exact twin_after (agree_complete releases twin orderly)
  | unwinding failure next => exact twin_after (agree_unwind releases twin orderly)
  | halted failure => exact ⟨twin, rfl⟩

/-- Steps keep two states twins, of which the first releases scopes and the second does not. -/
theorem advance_twin {state other : State} (releases : settings.releases = true)
    (orderly : state.Orderly) (twin : state.Twin other) (steps : Nat) :
    (state.advance settings steps).Twin (other.advance settings.keeping steps) := by
  induction steps with
  | zero => exact twin
  | succ steps inductionHypothesis =>
    rw [advance_succ, advance_succ]
    -- Only the run that releases scopes has to be in order: the other one has every scope it needs.
    exact step_twin releases (advance_orderly releases orderly steps) inductionHypothesis

end State

namespace Machine

variable {settings : Settings} {machine : Machine}

/-- At every moment of a run, the state is that of the run in which no scope is released. -/
theorem course_twin (releases : settings.releases = true) (rest : machine.AtRest)
    (body : List Node) (steps : Nat) :
    (machine.course settings body steps).Twin (machine.course settings.keeping body steps) :=
  have orderly := State.start_orderly rest body
  State.advance_twin releases orderly ⟨.refl orderly.sound, rfl⟩ steps

/-- Releasing scopes cannot be observed: a run in which scopes are released and one in which none is
released have the same outcome and print the same lines, for any number of steps. -/
theorem run_keeping (settings : Settings) (releases : settings.releases = true)
    {machine : Machine} (rest : machine.AtRest) (body : List Node) (steps : Nat) :
    (machine.run settings steps body).1 = (machine.run settings.keeping steps body).1 ∧
      (machine.run settings steps body).2.printed =
        (machine.run settings.keeping steps body).2.printed := by
  obtain ⟨twin, same⟩ := course_twin releases rest body steps
  refine ⟨?_, twin.printed_eq.symm⟩
  show (machine.course settings body steps).outcome =
    (machine.course settings.keeping body steps).outcome
  rw [State.outcome, State.outcome, same]

/-- A function that has escaped counts, whether or not scopes are released. -/
theorem counterProgram_run_keeping :
    (Machine.initial.run .plain 60 counterProgram).1 = .ended ∧
      (Machine.initial.run Settings.plain.keeping 60 counterProgram).2.printed = ["2"] :=
  have observed := run_keeping .plain rfl atRest_initial counterProgram 60
  ⟨by decide +kernel, observed.2.symm.trans (by decide +kernel)⟩

end Machine

end Scriptlet
