import Scriptlet.Proofs.Machine.Discipline
import Scriptlet.Proofs.Machine.Lifetime

/-! # Steps within a discipline

A step of a run whose scopes are in order leads from what a discipline allows to what it allows, as
long as the run does not come down to the ground.

Main definitions:

* `Discipline.Guides`: an action stays within a discipline, whether it has a result or fails.
* `State.Conforms`: a state is within a discipline.

Main statements: `State.step_conforms` for a step, and `Machine.course_conforms` for the part of a
run in which the ground is not reached. -/

namespace Scriptlet

open Scriptlet.Action

/-- An action leads to what is allowed, or fails as is allowed. -/
def Discipline.Guides (discipline : Discipline)
    (ground : (awaited : Awaited) → Continuation awaited → Prop) (base : Store Value)
    (action : Action Control) (machine : Machine) : Prop :=
  action.Yields machine
    (fun control after => after.store.Conforms discipline.toRules base ∧
      discipline.Permits ground control)
    fun failure after => after.store.Conforms discipline.toRules base ∧ discipline.Allows failure

namespace Discipline

variable {discipline : Discipline}
  {ground : (awaited : Awaited) → Continuation awaited → Prop} {base : Store Value}
  {machine : Machine} {settings : Settings}

/-! ## Actions -/

/-- An action that goes on with what is permitted is guided. -/
theorem guides_return {control : Control}
    (conforms : machine.store.Conforms discipline.toRules base)
    (permits : discipline.Permits ground control) :
    discipline.Guides ground base (pure control) machine :=
  ⟨conforms, permits⟩

/-- So is one that fails for a tolerated cause. -/
theorem guides_fail {cause : Cause} (conforms : machine.store.Conforms discipline.toRules base)
    (tolerates : discipline.tolerates cause) :
    discipline.Guides ground base (fail cause) machine :=
  ⟨conforms, Rules.allows_ofError tolerates⟩

/-- An action with a known result comes first. -/
theorem guides_of_eq_ok {α : Type} {action : Action α} {following : α → Action Control} {value : α}
    {after : Machine} (run : action machine = .ok value after)
    (guides : discipline.Guides ground base (following value) after) :
    discipline.Guides ground base (action >>= following) machine :=
  yields_bind.mpr (yields_of_eq_ok run guides)

/-- An action comes first that leaves the scopes as they are and fails as is allowed. -/
theorem guides_quiet {α : Type} {action : Action α} {following : α → Action Control}
    (quiet : action.Quiet)
    (allows : ∀ failure after, action machine = .error failure after → discipline.Allows failure)
    (conforms : machine.store.Conforms discipline.toRules base)
    (follows : ∀ value after, action machine = .ok value after → machine.SameScopes after →
      discipline.Guides ground base (following value) after) :
    discipline.Guides ground base (action >>= following) machine := by
  have same := quiet machine
  refine yields_bind.mpr ?_
  rw [Yields] at same ⊢
  cases run : action machine with
  | ok value after =>
    rw [run] at same
    exact follows value after run same
  | error failure after =>
    rw [run] at same
    refine ⟨?_, allows failure after run⟩
    rw [same.store_eq]
    exact conforms

/-- Marking a node comes first. -/
theorem guides_mark {following : Unit → Action Control} (line : Int)
    (conforms : machine.store.Conforms discipline.toRules base)
    (follows : ∀ after, machine.SameScopes after →
      discipline.Guides ground base (following ()) after) :
    discipline.Guides ground base (mark line >>= following) machine :=
  guides_quiet (quiet_mark line) nofun conforms fun _ after _ => follows after

/-- An event is recorded first; what comes of one that cannot be written is tolerated. -/
theorem guides_record {following : Unit → Action Control} (event : Event)
    (conforms : machine.store.Conforms discipline.toRules base)
    (follows : ∀ after, machine.SameScopes after →
      discipline.Guides ground base (following ()) after) :
    discipline.Guides ground base (record settings event >>= following) machine :=
  guides_quiet (quiet_record settings event)
    (fun _ _ failed => by
      obtain ⟨-, traced, run⟩ | ⟨-, run⟩ := record_cases settings event machine
      · cases run.symm.trans failed
      · cases run.symm.trans failed
        exact trivial)
    conforms fun _ after _ => follows after

/-- The number of arguments is checked first. -/
theorem guides_checkArity {following : Unit → Action Control} (name : String)
    (expected : Option Nat) (given : Nat)
    (conforms : machine.store.Conforms discipline.toRules base)
    (follows : ∀ after, machine.SameScopes after →
      discipline.Guides ground base (following ()) after) :
    discipline.Guides ground base (checkArity name expected given >>= following) machine := by
  refine guides_quiet (quiet_checkArity name expected given) ?_ conforms fun _ after _ =>
    follows after
  intro failure after failed
  unfold checkArity at failed
  split at failed
  · split at failed
    · cases failed
    · cases failed
      exact Rules.allows_ofError (discipline.tolerates_of_native rfl)
  · cases failed

/-- The depth of a call is checked first. -/
theorem guides_checkDepth {following : Unit → Action Control} (name : String)
    (conforms : machine.store.Conforms discipline.toRules base)
    (follows : ∀ after, machine.SameScopes after →
      discipline.Guides ground base (following ()) after) :
    discipline.Guides ground base (checkDepth settings name >>= following) machine := by
  have room : ∀ failure after, checkDepth.checkRoom settings machine = .error failure after →
      discipline.Allows failure := by
    intro failure after failed
    unfold checkDepth.checkRoom at failed
    split at failed
    · split at failed
      · cases failed
        exact Rules.allows_ofError (discipline.tolerates_of_native rfl)
      · cases failed
    · cases failed
  refine guides_quiet (quiet_checkDepth settings name) ?_ conforms fun _ after _ => follows after
  intro failure after failed
  unfold checkDepth at failed
  split at failed
  · split at failed
    · cases failed
      exact Rules.allows_ofError (discipline.tolerates_of_native rfl)
    · exact room failure after failed
  · exact room failure after failed

/-- The result of an operator is delivered. -/
theorem guides_ofProblem {result : Except Operator.Problem Value} {next : Continuation .value}
    (plain : Operator.IsPlain result)
    (tolerates : ∀ cause, result = .error (.error cause) → discipline.tolerates cause)
    (conforms : machine.store.Conforms discipline.toRules base)
    (continues : discipline.Continues ground next) :
    discipline.Guides ground base (ofProblem result >>= fun value => pure (.delivering value next))
      machine := by
  match result with
  | .ok value => exact ⟨conforms, discipline.admits_of_plain (plain value rfl), continues⟩
  | .error (.error cause) => exact guides_fail conforms (tolerates cause rfl)
  | .error .tooLarge => exact ⟨conforms, trivial⟩

/-- The result of a built-in function is delivered. -/
theorem guides_callBuiltin {builtin : Builtin} {arguments : List Value}
    {next : Continuation .value} (conforms : machine.store.Conforms discipline.toRules base)
    (continues : discipline.Continues ground next) :
    discipline.Guides ground base
      (callBuiltin builtin arguments >>= fun value => pure (.delivering value next)) machine := by
  have plain : ∀ value, value.scope? = none → discipline.admits value :=
    fun _ => discipline.admits_of_plain
  cases builtin with
  | print | track | dump | argc => exact ⟨conforms, plain _ rfl, continues⟩

/-- A name is looked up from a live scope that may be read. -/
theorem guides_lookup {name : String} {scope : Handle} {following : Value → Action Control}
    (sound : machine.store.Sound Value.scope?) (live : machine.store.IsLive scope)
    (reads : discipline.reads scope) (conforms : machine.store.Conforms discipline.toRules base)
    (follows : ∀ value holder, discipline.admits value → machine.store.IsLive holder →
      machine.store.get? holder name = some value →
      discipline.Guides ground base (following value) machine) :
    discipline.Guides ground base (lookup name scope >>= following) machine := by
  refine yields_bind.mpr ((lookup_yields sound live name).mono ?_ ?_)
  · rintro value _ ⟨rfl, holder, holderLive, search, held⟩
    -- The way to the holder leads through scopes that may be read.
    obtain ⟨found, searched, finds⟩ :=
      Store.exists_find?_eq_ok sound.tidy sound.rooted live name
    obtain rfl := Except.ok.inj (searched.symm.trans search)
    have reached := conforms.reads_of_finds sound.tidy finds live reads holder rfl
    exact follows value holder (conforms.bound_admits reached (mem_of_lookup_eq_some held))
      holderLive held
  · rintro failure _ ⟨rfl, rfl⟩
    exact ⟨conforms, Rules.allows_ofError (discipline.tolerates_of_native rfl)⟩

/-- A scope is created inside one that may be read; it is new. -/
theorem guides_createChild {around : Handle} {name : String} {following : Handle → Action Control}
    (sound : machine.store.Sound Value.scope?) (live : machine.store.IsLive around)
    (reads : discipline.reads around) (conforms : machine.store.Conforms discipline.toRules base)
    (follows : ∀ scope (after : Machine), discipline.IsNew scope → after.store.IsLive scope →
      after.store.Sound Value.scope? → after.store.Conforms discipline.toRules base →
      after.store = (machine.store.createChild around (some name)).2 →
      discipline.Guides ground base (following scope) after) :
    discipline.Guides ground base (createChild around name >>= following) machine :=
  guides_of_eq_ok (createChild_eq around name machine)
    (follows _ _ conforms.first_le (sound.tidy.create_isLive_iff.mpr (Or.inr rfl))
      (sound.createChild live) (conforms.createChild sound live reads (some name)) rfl)

/-! ## Statements, loops and calls -/

/-- Statements that may be executed are permitted in their sequence. -/
theorem permits_inSequence {nodes : List Node} {scope : Handle} {next : Continuation .completion}
    (executes : ∀ node ∈ nodes, discipline.executes scope node)
    (continues : discipline.Continues ground next) :
    discipline.Permits ground (State.inSequence nodes scope next) := by
  cases nodes with
  | nil => exact ⟨trivial, continues⟩
  | cons node rest =>
    exact ⟨executes node List.mem_cons_self,
      .sequence (fun other mem => executes other (List.mem_cons_of_mem _ mem)) continues⟩

/-- A body that may be entered is entered in a scope of its own. -/
theorem guides_enter {name : String} {nodes : List Node} {around : Handle}
    {next : Continuation .completion} (sound : machine.store.Sound Value.scope?)
    (live : machine.store.IsLive around) (reads : discipline.reads around)
    (enters : discipline.Enters nodes)
    (conforms : machine.store.Conforms discipline.toRules base)
    (continues : discipline.Continues ground next) :
    discipline.Guides ground base (State.enter name nodes around next) machine := by
  refine guides_createChild sound live reads conforms fun scope after isNew _ _ created _ => ?_
  exact guides_return created (permits_inSequence (enters scope isNew) (.leaving continues))

/-- A loop that is permitted goes on to its test. -/
theorem guides_test {loop : Loop} {next : Continuation .completion}
    (sound : machine.store.Sound Value.scope?) (live : machine.store.IsLive loop.scope)
    (loops : discipline.Loops loop) (conforms : machine.store.Conforms discipline.toRules base)
    (continues : discipline.Continues ground next) :
    discipline.Guides ground base (State.test loop next) machine := by
  rw [State.test]
  split
  · rename_i condition given
    exact guides_return conforms ⟨loops.condition condition given, .testing loops continues⟩
  · exact guides_enter sound live loops.reads loops.body conforms (.looping loops continues)

/-- A function is called with arguments that are allowed. -/
theorem guides_call {callee : Callee} {arguments : List Value} {next : Continuation .value}
    (sound : machine.store.Sound Value.scope?)
    (links : ∀ value ∈ callee.values ++ arguments, ∀ target, value.scope? = some target →
      machine.store.IsLive target)
    (calls : discipline.Calls callee) (admits : ∀ value ∈ arguments, discipline.admits value)
    (conforms : machine.store.Conforms discipline.toRules base)
    (continues : discipline.Continues ground next) :
    discipline.Guides ground base (State.call settings callee arguments next) machine := by
  cases callee with
  | builtin builtin => exact guides_callBuiltin conforms continues
  | declared closure =>
    obtain ⟨reads, enters⟩ := discipline.admits_function calls
    refine guides_checkDepth _ conforms fun machine same => ?_
    rw [← same.store_eq] at sound links conforms
    refine guides_of_eq_ok rfl ?_
    refine guides_createChild sound (links _ List.mem_cons_self _ rfl) reads conforms
      fun scope after isNew live sound' created store_eq => ?_
    -- The arguments link to scopes that are live before the new scope is created, hence also after.
    obtain ⟨store, run, bound⟩ := exists_bindParameters_of
      (fun store => store.Conforms discipline.toRules base) closure.parameters arguments sound'
      (fun value mem target link => by
        rw [store_eq]
        exact sound.tidy.create_isLive_iff.mpr
          (Or.inl (links value (List.mem_cons_of_mem _ mem) target link)))
      (fun store pins name value mem conforms => (conforms.withPins pins).bind
        (discipline.reads_of_isNew isNew) (admits value mem)
        (Or.inr (discipline.binds_of_isNew isNew)))
      created
    refine guides_of_eq_ok run (guides_of_eq_ok rfl ?_)
    refine guides_record _ bound fun last same => ?_
    refine guides_of_eq_ok rfl (guides_return ?_ (permits_inSequence (enters scope isNew)
      (.calling continues)))
    show last.store.Conforms _ _
    rw [same.store_eq]
    exact bound

/-- The arguments of a call are evaluated, and the function is called. -/
theorem guides_passArguments {line : Int} {callee : Callee} {finished : List Value}
    {rest : List Node} {scope : Handle} {next : Continuation .value}
    (sound : machine.store.Sound Value.scope?)
    (links : ∀ value ∈ callee.values ++ finished, ∀ target, value.scope? = some target →
      machine.store.IsLive target)
    (calls : discipline.Calls callee) (admits : ∀ value ∈ finished, discipline.admits value)
    (evaluates : ∀ node ∈ rest, discipline.evaluates scope node)
    (conforms : machine.store.Conforms discipline.toRules base)
    (continues : discipline.Continues ground next) :
    discipline.Guides ground base
      (State.passArguments settings line callee finished rest scope next) machine := by
  cases rest with
  | cons argument rest =>
    exact guides_return conforms ⟨evaluates argument List.mem_cons_self, .argument calls admits
      (fun node mem => evaluates node (List.mem_cons_of_mem _ mem)) continues⟩
  | nil =>
    refine guides_mark line conforms fun after same => ?_
    rw [← same.store_eq] at sound links conforms
    refine guides_call sound ?_ calls ?_ conforms continues
    · intro value mem
      exact links value (Callee.mem_passed_iff.mp mem)
    · intro value mem
      exact admits value (List.mem_reverse.mp mem)

/-! ## Into nodes -/

/-- A call begins. -/
theorem guides_beginCall {line : Int} {name : String} {arguments : List Node} {scope : Handle}
    {next : Continuation .value} (sound : machine.store.Sound Value.scope?)
    (live : machine.store.IsLive scope) (reads : discipline.reads scope)
    (evaluates : ∀ node ∈ arguments, discipline.evaluates scope node)
    (conforms : machine.store.Conforms discipline.toRules base)
    (continues : discipline.Continues ground next) :
    discipline.Guides ground base (State.beginCall settings line name arguments scope next)
      machine := by
  rw [State.beginCall]
  split
  · refine guides_checkArity _ _ _ conforms fun after same => ?_
    rw [← same.store_eq] at sound conforms
    exact guides_passArguments sound (fun _ mem => absurd mem List.not_mem_nil) trivial
      (List.forall_mem_nil _) evaluates conforms continues
  · refine guides_lookup sound live reads conforms fun value holder admits holderLive held => ?_
    split
    · rename_i closure
      have target : machine.store.IsLive closure.scope :=
        sound.bound_isLive holderLive (mem_of_lookup_eq_some held) rfl
      refine guides_checkArity _ _ _ conforms fun after same => ?_
      rw [← same.store_eq] at sound conforms target
      refine guides_passArguments sound ?_ admits (List.forall_mem_nil _) evaluates conforms
        continues
      intro value mem handle link
      cases List.mem_singleton.mp mem
      cases link
      exact target
    · exact ⟨conforms, Rules.allows_ofError (discipline.tolerates_of_native rfl)⟩

/-- An expression is evaluated. -/
theorem guides_evaluate {node : Node} {scope : Handle} {next : Continuation .value}
    (sound : machine.store.Sound Value.scope?) (live : machine.store.IsLive scope)
    (evaluates : discipline.evaluates scope node)
    (conforms : machine.store.Conforms discipline.toRules base)
    (continues : discipline.Continues ground next) :
    discipline.Guides ground base (State.evaluate settings node scope next) machine := by
  have reads := discipline.evaluates_reads evaluates
  refine guides_mark _ conforms fun after same => ?_
  refine guides_of_eq_ok rfl ?_
  rw [← same.store_eq] at sound live conforms
  refine guides_record _ conforms fun after same => ?_
  rw [← same.store_eq] at sound live conforms
  -- The cases are those of the evaluation, in its order.
  split
  case h_1 | h_2 | h_3 =>
    exact guides_return conforms ⟨discipline.admits_of_plain rfl, continues⟩
  case h_4 name =>
    refine guides_lookup sound live reads conforms fun value _ admits _ _ => ?_
    exact guides_return conforms ⟨admits, continues⟩
  case h_5 =>
    obtain ⟨binds, right⟩ := discipline.evaluates_assignment evaluates
    exact guides_return conforms ⟨right, .assigning reads binds continues⟩
  case h_6 other =>
    refine guides_fail conforms (discipline.evaluates_target evaluates ?_)
    rintro targetLine name rfl
    exact other _ _ rfl
  case h_7 =>
    obtain ⟨left, right, -⟩ := discipline.evaluates_binary (by decide) evaluates
    exact guides_return conforms ⟨left, .conjunction right continues⟩
  case h_8 =>
    obtain ⟨left, right, -⟩ := discipline.evaluates_binary (by decide) evaluates
    exact guides_return conforms ⟨left, .disjunction right continues⟩
  case h_9 notAssignment notConjunction notDisjunction =>
    obtain ⟨left, right, joins⟩ := discipline.evaluates_binary
      notAssignment evaluates
    exact guides_return conforms
      ⟨left, .leftOperand (joins notConjunction notDisjunction) right continues⟩
  case h_10 =>
    obtain ⟨signs, operand⟩ := discipline.evaluates_unary evaluates
    exact guides_return conforms ⟨operand, .operand signs continues⟩
  case h_11 =>
    exact guides_beginCall sound live reads (discipline.evaluates_call evaluates) conforms continues
  case h_12 notInteger notFloat notText notReference _ _ _ _ notBinary notUnary notCall =>
    have foreign := Node.isEvaluable_eq_false notInteger notFloat notText notReference notBinary
      notUnary notCall
    exact guides_fail conforms (discipline.evaluates_other evaluates foreign)

/-- A function is declared. -/
theorem guides_define {name : String} {parameters : List String} {body : List Node}
    {scope : Handle} {next : Continuation .completion} (reads : discipline.reads scope)
    (binds : discipline.binds scope)
    (admits : ∀ identity, discipline.admits
      (.function { identity, name, parameters, body, scope }))
    (conforms : machine.store.Conforms discipline.toRules base)
    (continues : discipline.Continues ground next) :
    discipline.Guides ground base (State.define settings name parameters body scope next)
      machine := by
  have bound := @Store.Conforms.bind _ _ _ conforms scope name _ reads (admits machine.functions)
    (Or.inr binds)
  refine guides_of_eq_ok rfl (guides_of_eq_ok rfl ?_)
  refine guides_record _ bound fun after same => guides_return ?_ ⟨trivial, continues⟩
  rw [same.store_eq]
  exact bound

/-- A loop with a start, a test and a step begins. -/
theorem guides_beginFor {start condition step : Option Node} {body : List Node} {around : Handle}
    {next : Continuation .completion} (sound : machine.store.Sound Value.scope?)
    (live : machine.store.IsLive around) (reads : discipline.reads around)
    (heading : ∀ inner, discipline.IsNew inner →
      (∀ node ∈ start, discipline.executes inner node) ∧
      (∀ node ∈ condition, discipline.evaluates inner node) ∧
      ∀ node ∈ step, discipline.evaluates inner node)
    (enters : discipline.Enters body)
    (conforms : machine.store.Conforms discipline.toRules base)
    (continues : discipline.Continues ground next) :
    discipline.Guides ground base (State.beginFor start condition step body around next)
      machine := by
  refine guides_createChild sound live reads conforms
    fun scope after isNew live sound created _ => ?_
  obtain ⟨first, test, last⟩ := heading scope isNew
  have loops : discipline.Loops ⟨"for-body", condition, step, body, scope⟩ :=
    ⟨discipline.reads_of_isNew isNew, test, last, enters⟩
  cases start with
  | some start =>
    exact guides_return created ⟨first start rfl, .starting loops (.leaving continues)⟩
  | none => exact guides_test sound live loops created (.leaving continues)

/-- A statement is executed. -/
theorem guides_execute {node : Node} {scope : Handle} {next : Continuation .completion}
    (sound : machine.store.Sound Value.scope?) (live : machine.store.IsLive scope)
    (executes : discipline.executes scope node)
    (conforms : machine.store.Conforms discipline.toRules base)
    (continues : discipline.Continues ground next) :
    discipline.Guides ground base (State.execute settings node scope next) machine := by
  have reads := discipline.executes_reads executes
  refine guides_mark _ conforms fun after same => ?_
  rw [← same.store_eq] at sound live conforms
  -- The cases are those of the execution, in its order.
  split
  case h_1 =>
    obtain ⟨binds, admits⟩ := discipline.executes_function executes
    exact guides_define reads binds admits conforms continues
  case h_2 =>
    obtain ⟨binds, initializer⟩ := discipline.executes_declaration executes
    exact guides_return conforms ⟨initializer _ rfl, .declaring reads binds continues⟩
  case h_3 =>
    obtain ⟨binds, -⟩ := discipline.executes_declaration executes
    exact guides_return conforms
      ⟨discipline.admits_of_plain rfl, .declaring reads binds continues⟩
  case h_4 =>
    exact guides_return conforms
      ⟨discipline.executes_returning executes _ rfl, .returning continues⟩
  case h_5 =>
    exact guides_return conforms ⟨discipline.admits_of_plain rfl, .returning continues⟩
  case h_6 | h_7 => exact guides_return conforms ⟨trivial, continues⟩
  case h_8 =>
    exact guides_enter sound live reads (discipline.executes_block executes) conforms continues
  case h_9 =>
    obtain ⟨condition, thenEnters, elseEnters⟩ := discipline.executes_conditional executes
    exact guides_return conforms
      ⟨condition, .branching reads thenEnters elseEnters continues⟩
  case h_10 =>
    obtain ⟨condition, enters⟩ := discipline.executes_whileLoop executes
    exact guides_test sound live ⟨reads, by rintro _ ⟨⟩; exact condition, nofun, enters⟩ conforms
      continues
  case h_11 =>
    obtain ⟨condition, enters⟩ := discipline.executes_doLoop executes
    exact guides_enter sound live reads enters conforms
      (.looping ⟨reads, by rintro _ ⟨⟩; exact condition, nofun, enters⟩ continues)
  case h_12 =>
    obtain ⟨heading, enters⟩ := discipline.executes_forLoop executes
    exact guides_beginFor sound live reads heading enters conforms continues
  case h_13 notFunction notInitialized notDeclaration notReturningOf notReturning notBreaking
      notContinuing notBlock notConditional notWhile notDo notFor =>
    have other := Node.isDirective_eq_false notFunction notInitialized notDeclaration notReturningOf
      notReturning notBreaking notContinuing notBlock notConditional notWhile notDo notFor
    exact guides_return conforms
      ⟨discipline.executes_expression executes other, .discarding continues⟩

/-! ## Out of nodes -/

/-- A value is assigned to a name, seen from a scope in which further names may be bound. -/
theorem guides_assigning {name : String} {scope : Handle} {value : Value}
    {next : Continuation .value} (sound : machine.store.Sound Value.scope?)
    (live : machine.store.IsLive scope)
    (links : ∀ target, value.scope? = some target → machine.store.IsLive target)
    (reads : discipline.reads scope) (binds : discipline.binds scope)
    (admits : discipline.admits value)
    (conforms : machine.store.Conforms discipline.toRules base)
    (continues : discipline.Continues ground next) :
    discipline.Guides ground base (State.deliver settings value (.assigning name scope next))
      machine := by
  obtain ⟨found, store, after, search, run, same, -, assigned⟩ :=
    exists_assign_eq settings name sound live links
  have finds := (Store.find?_eq_ok_iff sound.tidy sound.rooted live).mp search
  have reached := conforms.reads_of_finds sound.tidy finds live reads
  obtain ⟨pins, rfl⟩ := assigned.exists_pins
  have bound : Store.Conforms _ discipline.toRules base :=
    @Store.Conforms.bind _ _ _ (conforms.withPins pins) (found.getD scope) name value
      (by cases found with
        | none => exact reads
        | some holder => exact reached holder rfl)
      admits
      (by cases found with
        | none => exact Or.inr binds
        | some holder => exact Or.inl (finds.spec sound.tidy sound.rooted live).2.1)
  refine guides_of_eq_ok run (guides_return ?_ ⟨admits, continues⟩)
  rw [same.store_eq]
  exact bound

/-- A variable is declared in a scope in which further names may be bound. -/
theorem guides_declaring {name : String} {scope : Handle} {value : Value}
    {next : Continuation .completion} (sound : machine.store.Sound Value.scope?)
    (links : ∀ target, value.scope? = some target → machine.store.IsLive target)
    (reads : discipline.reads scope) (binds : discipline.binds scope)
    (admits : discipline.admits value)
    (conforms : machine.store.Conforms discipline.toRules base)
    (continues : discipline.Continues ground next) :
    discipline.Guides ground base (State.deliver settings value (.declaring name scope next))
      machine := by
  obtain ⟨store, run, -, declared⟩ := exists_bind_eq scope name sound links
  obtain ⟨pins, rfl⟩ := declared.exists_pins
  have bound := @Store.Conforms.bind _ _ _ (conforms.withPins pins) scope name value reads admits
    (Or.inr binds)
  refine guides_of_eq_ok run ?_
  refine guides_record _ bound fun after same => guides_return ?_ ⟨trivial, continues⟩
  rw [same.store_eq]
  exact bound

/-- A value is delivered. -/
theorem guides_deliver {value : Value} {next : Continuation .value}
    (orderly : machine.Orderly (.holds [value] :: next.stakes)) (above : ¬ground .value next)
    (admits : discipline.admits value)
    (conforms : machine.store.Conforms discipline.toRules base)
    (continues : discipline.Continues ground next) :
    discipline.Guides ground base (State.deliver settings value next) machine := by
  have sound := orderly.sound
  have rest := orderly.held
  have links : ∀ target, value.scope? = some target → machine.store.IsLive target :=
    fun target => orderly.isLive_of_keptBy (orderly.valid.1 value List.mem_cons_self)
  have truth : ∀ condition, discipline.admits (.ofBool condition) :=
    fun _ => discipline.admits_of_plain rfl
  -- One case for each kind of what waits, with what the discipline says of it.
  cases continues with
  | ground bottom => exact absurd bottom above
  | assigning reads binds below =>
    exact guides_assigning sound rest.isLive_of_resumes links reads binds admits conforms below
  | conjunction evaluates below =>
    rw [State.deliver]
    split
    · exact guides_return conforms ⟨evaluates, .truth below⟩
    · exact guides_return conforms ⟨truth _, below⟩
  | disjunction evaluates below =>
    rw [State.deliver]
    split
    · exact guides_return conforms ⟨truth _, below⟩
    · exact guides_return conforms ⟨evaluates, .truth below⟩
  | truth below => exact guides_return conforms ⟨truth _, below⟩
  | leftOperand joins evaluates below =>
    exact guides_return conforms ⟨evaluates, .rightOperand joins below⟩
  | @rightOperand line operator left _ joins below =>
    refine guides_mark line conforms fun after same => ?_
    rw [← same.store_eq] at conforms
    exact guides_ofProblem (Operator.isPlain_binary operator left value)
      (fun cause => discipline.tolerates_of_joins joins) conforms below
  | @operand line operator _ signs below =>
    refine guides_mark line conforms fun after same => ?_
    rw [← same.store_eq] at conforms
    exact guides_ofProblem (Operator.isPlain_unary operator value)
      (fun cause => discipline.tolerates_of_signs signs) conforms below
  | argument calls held evaluates below =>
    exact guides_passArguments sound (fun _ mem _ => orderly.isLive_of_passed mem) calls
      (List.forall_mem_cons.mpr ⟨admits, held⟩) evaluates conforms below
  | declaring reads binds below =>
    exact guides_declaring sound links reads binds admits conforms below
  | returning below =>
    obtain ⟨pins, run, -⟩ := exists_keepResult_eq sound links
    exact guides_of_eq_ok run (guides_return (conforms.withPins pins) ⟨admits, below⟩)
  | branching reads thenEnters elseEnters below =>
    have live := rest.isLive_of_resumes
    refine guides_record _ conforms fun after same => ?_
    rw [← same.store_eq] at sound live conforms
    split
    · exact guides_enter sound live reads thenEnters conforms below
    · split
      · exact guides_enter sound live reads (elseEnters _ rfl) conforms below
      · exact guides_return conforms ⟨trivial, below⟩
  | testing loops below =>
    have live := rest.isLive_of_resumes
    refine guides_record _ conforms fun after same => ?_
    rw [← same.store_eq] at sound live conforms
    split
    · exact guides_enter sound live loops.reads loops.body conforms (.looping loops below)
    · exact guides_return conforms ⟨trivial, below⟩
  | stepping loops below => exact guides_test sound rest.isLive_of_resumes loops conforms below
  | discarding below => exact guides_return conforms ⟨trivial, below⟩

/-- A call ends with a result. -/
theorem guides_finishCall {name : String} {scope : Handle} {callerFrame : Option Handle}
    {callerLine : Int} {result : Value} {next : Continuation .value}
    (releases : settings.releases = true) (live : machine.store.IsLive scope)
    (admits : discipline.admits result)
    (conforms : machine.store.Conforms discipline.toRules base)
    (continues : discipline.Continues ground next) :
    discipline.Guides ground base
      (State.finishCall settings name scope callerFrame callerLine result next) machine := by
  have released := conforms.release scope
  refine guides_of_eq_ok (failure?_eq (leaveCall_eq callerFrame releases live)) ?_
  refine guides_record _ released fun after same => ?_
  refine guides_of_eq_ok rfl (guides_return ?_ ⟨admits, continues⟩)
  show after.store.Conforms _ _
  rw [same.store_eq]
  exact released

/-- A statement has completed. -/
theorem guides_complete {completion : Completion} {next : Continuation .completion}
    (releases : settings.releases = true)
    (orderly : machine.Orderly (completion.stakes ++ next.stakes))
    (above : ¬ground .completion next) (completes : discipline.Completes completion)
    (conforms : machine.store.Conforms discipline.toRules base)
    (continues : discipline.Continues ground next) :
    discipline.Guides ground base (State.complete settings completion next) machine := by
  have sound := orderly.sound
  have rest := State.orderly_uncompleted orderly
  cases continues with
  | ground bottom => exact absurd bottom above
  | sequence executes below =>
    cases completion with
    | normal => exact guides_return conforms (permits_inSequence executes below)
    | broken | continued | returned => exact guides_return conforms ⟨completes, below⟩
  | leaving below =>
    have live := rest.owned_isLive List.mem_cons_self
    refine guides_of_eq_ok (failure?_eq (release_eq releases live)) ?_
    exact guides_return (conforms.release _) ⟨completes, below⟩
  | starting loops below => exact guides_test sound rest.isLive_of_resumes loops conforms below
  -- A round that was not broken off goes on to the step or to the condition of the same loop.
  | looping loops below =>
    cases completion with
    | broken | returned => exact guides_return conforms ⟨completes, below⟩
    | normal | continued =>
      rw [State.complete]
      split
      · exact guides_return conforms ⟨loops.step _ (by assumption), .stepping loops below⟩
      · exact guides_test sound rest.isLive_of_resumes loops conforms below
  | calling below =>
    have live := rest.owned_isLive List.mem_cons_self
    cases completion with
    | normal =>
      exact guides_finishCall releases live (discipline.admits_of_plain rfl) conforms below
    | returned value => exact guides_finishCall releases live completes conforms below
    -- A jump that leaves a function is an error, and every discipline tolerates errors of the
    -- machine.
    | broken | continued => exact ⟨conforms, Rules.allows_ofError (discipline.tolerates_of_native rfl)⟩
  | @program nodes root executes =>
    rw [State.complete]
    split
    · exact ⟨conforms, Rules.allows_ofError (discipline.tolerates_of_native rfl)⟩
    · cases nodes with
      | nil =>
        refine guides_of_eq_ok rfl (guides_return conforms.clear ?_)
        rintro cause ⟨⟩
      | cons node nodes =>
        exact guides_of_eq_ok rfl (guides_return conforms ⟨executes node List.mem_cons_self,
          .program fun other mem => executes other (List.mem_cons_of_mem _ mem)⟩)

/-- A failure leaves what is being done. -/
theorem guides_unwind {failure : Failure} {awaited : Awaited} {next : Continuation awaited}
    (releases : settings.releases = true) (orderly : machine.Orderly next.stakes)
    (above : ¬ground awaited next) (allows : discipline.Allows failure)
    (conforms : machine.store.Conforms discipline.toRules base)
    (continues : discipline.Continues ground next) :
    discipline.Guides ground base (State.unwind settings failure next) machine := by
  cases continues with
  | ground bottom => exact absurd bottom above
  | leaving below =>
    have live := orderly.owned_isLive List.mem_cons_self
    refine guides_of_eq_ok (failure?_eq (release_eq releases live)) ?_
    exact guides_return (conforms.release _) ⟨allows, below⟩
  | calling below =>
    have live := orderly.owned_isLive List.mem_cons_self
    refine guides_of_eq_ok (failure?_eq (leaveCall_eq _ releases live)) ?_
    exact guides_return (conforms.release _) ⟨allows, below⟩
  | program =>
    refine guides_of_eq_ok rfl (guides_return conforms.clear ?_)
    rintro cause ⟨⟩
    exact allows
  | assigning _ _ below | conjunction _ below | disjunction _ below | truth below
  | leftOperand _ _ below | rightOperand _ below | operand _ below | argument _ _ _ below
  | declaring _ _ below | returning below | branching _ _ _ below | testing _ below
  | stepping _ below | discarding below | sequence _ below | starting _ below
  | looping _ below => exact guides_return conforms ⟨allows, below⟩

end Discipline

/-! ## Steps and runs -/

/-- A state is within a discipline. -/
structure State.Conforms (state : State) (discipline : Discipline)
    (ground : (awaited : Awaited) → Continuation awaited → Prop) (base : Store Value) : Prop where
  store : state.machine.store.Conforms discipline.toRules base
  control : discipline.Permits ground state.control

/-- What is being done has not come down to the ground. -/
def Control.IsAbove (control : Control)
    (ground : (awaited : Awaited) → Continuation awaited → Prop) : Prop :=
  ∀ awaited next, control.Ends next → ¬ground awaited next

variable {discipline : Discipline}
  {ground : (awaited : Awaited) → Continuation awaited → Prop} {base : Store Value}
  {settings : Settings}

namespace State

/-- A guided action leads to a state that conforms. -/
theorem conforms_after {machine : Machine} {awaited : Awaited} {next : Continuation awaited}
    {action : Action Control} (guides : discipline.Guides ground base action machine)
    (continues : discipline.Continues ground next) :
    (after machine next action).Conforms discipline ground base := by
  rw [Discipline.Guides, Yields] at guides
  rw [after]
  generalize action machine = result at guides ⊢
  cases result with
  | ok control after => exact ⟨guides.1, guides.2⟩
  | error failure after => exact ⟨guides.1, guides.2, continues⟩

/-- A step that starts above the ground stays within a discipline. -/
theorem step_conforms {state : State} (releases : settings.releases = true)
    (orderly : state.Orderly) (above : state.control.IsAbove ground)
    (conforms : state.Conforms discipline ground base) :
    (state.step settings).Conforms discipline ground base := by
  obtain ⟨machine, control⟩ := state
  obtain ⟨conforms, permits⟩ := conforms
  cases control with
  | evaluating node scope next =>
    exact conforms_after (Discipline.guides_evaluate orderly.sound orderly.isLive_of_resumes
      permits.1 conforms permits.2) permits.2
  | executing node scope next =>
    exact conforms_after (Discipline.guides_execute orderly.sound orderly.isLive_of_resumes
      permits.1 conforms permits.2) permits.2
  | delivering value next =>
    exact conforms_after (Discipline.guides_deliver orderly (above _ _ (.delivering value next))
      permits.1 conforms permits.2) permits.2
  | completing completion next =>
    exact conforms_after (Discipline.guides_complete releases orderly
      (above _ _ (.completing completion next)) permits.1 conforms permits.2) permits.2
  | unwinding failure next =>
    exact conforms_after (Discipline.guides_unwind releases orderly
      (above _ _ (.unwinding failure next)) permits.1 conforms permits.2) permits.2
  | halted failure => exact ⟨conforms, permits⟩

end State

/-- A run stays within a discipline from one moment to another if it is above the ground in
between. -/
theorem Machine.course_conforms {body : List Node} {machine : Machine} {earlier now : Nat}
    (releases : settings.releases = true) (rest : machine.AtRest) (ordered : earlier ≤ now)
    (above : ∀ moment, earlier ≤ moment → moment < now →
      (machine.course settings body moment).control.IsAbove ground)
    (start : (machine.course settings body earlier).Conforms discipline ground base) :
    (machine.course settings body now).Conforms discipline ground base := by
  induction ordered with
  | refl => exact start
  | @step later ordered ih =>
    rw [course_succ]
    refine State.step_conforms releases (course_orderly releases rest body later)
      (above later ordered (Nat.lt_succ_self later)) (ih ?_)
    exact fun moment after before => above moment after (Nat.lt_succ_of_lt before)

end Scriptlet
