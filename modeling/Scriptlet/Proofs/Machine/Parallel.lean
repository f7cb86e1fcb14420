import Scriptlet.Proofs.Machine.Detour
import Scriptlet.Proofs.Machine.Effect

/-! # Runs with an extra scope

A statement is executed side by side in two runs, the second of which has an extra scope that it
leaves after the statement.  Both go through the same controls, step by step, until the first one
comes to what is left to do after the statement.  Expressions that assign nothing may be evaluated in
the extra scope in place of the scope around it, and loops may have their scope there.

Main definitions:

* `Detour.Continues`: the same is left to do in both runs, up to the end of the statement.
* `Detour.Accompanies`: two states are the same but for an extra scope.

Main statement: `Detour.step_accompanies`: a step keeps two states so, up to the end of the
statement. -/

namespace Scriptlet

/-! ## What is left to do -/

/-- Whether an assignment stands in the condition or in the step of a loop. -/
def Loop.assigns (loop : Loop) : Bool :=
  loop.condition.any Node.assigns || loop.step.any Node.assigns

/-- Two loops do the same in scopes from which the same is seen. -/
structure Detour.Loops (detour : Detour) (loop other : Loop) : Prop where
  condition_eq : other.condition = loop.condition
  step_eq : other.step = loop.step
  body_eq : other.body = loop.body
  views : detour.Views loop.assigns loop.scope other.scope

/-- The same is left to do up to the end of a statement, after which the second run leaves the extra
scope. -/
inductive Detour.Continues (detour : Detour) (last : Continuation .completion) :
    {awaited : Awaited} → Continuation awaited → Continuation awaited → Prop
  | last : Continues detour last last (.leaving detour.extra last)
  | assigning (name : String) (scope : Handle) {next other : Continuation .value}
      (rest : Continues detour last next other) :
      Continues detour last (.assigning name scope next)
        (.assigning name (detour.handle scope) other)
  | conjunction {right : Node} {scope otherScope : Handle} {next other : Continuation .value}
      (views : detour.Views right.assigns scope otherScope)
      (rest : Continues detour last next other) :
      Continues detour last (.conjunction right scope next) (.conjunction right otherScope other)
  | disjunction {right : Node} {scope otherScope : Handle} {next other : Continuation .value}
      (views : detour.Views right.assigns scope otherScope)
      (rest : Continues detour last next other) :
      Continues detour last (.disjunction right scope next) (.disjunction right otherScope other)
  | truth {next other : Continuation .value} (rest : Continues detour last next other) :
      Continues detour last (.truth next) (.truth other)
  | leftOperand (line : Int) (operator : String) {right : Node} {scope otherScope : Handle}
      {next other : Continuation .value} (views : detour.Views right.assigns scope otherScope)
      (rest : Continues detour last next other) :
      Continues detour last (.leftOperand line operator right scope next)
        (.leftOperand line operator right otherScope other)
  | rightOperand (line : Int) (operator : String) (left : Value)
      {next other : Continuation .value} (rest : Continues detour last next other) :
      Continues detour last (.rightOperand line operator left next)
        (.rightOperand line operator (detour.value left) other)
  | operand (line : Int) (operator : String) {next other : Continuation .value}
      (rest : Continues detour last next other) :
      Continues detour last (.operand line operator next) (.operand line operator other)
  | argument (line : Int) (callee : Callee) (finished : List Value) {nodes : List Node}
      {scope otherScope : Handle} {next other : Continuation .value}
      (views : detour.Views (Node.anyAssigns nodes) scope otherScope)
      (rest : Continues detour last next other) :
      Continues detour last (.argument line callee finished nodes scope next)
        (.argument line (detour.callee callee) (finished.map detour.value) nodes otherScope other)
  | declaring (name : String) (scope : Handle) {next other : Continuation .completion}
      (rest : Continues detour last next other) :
      Continues detour last (.declaring name scope next)
        (.declaring name (detour.handle scope) other)
  | returning {next other : Continuation .completion} (rest : Continues detour last next other) :
      Continues detour last (.returning next) (.returning other)
  | branching (line : Int) (thenBranch : List Node) (elseBranch : Option (List Node))
      (scope : Handle) {next other : Continuation .completion}
      (rest : Continues detour last next other) :
      Continues detour last (.branching line thenBranch elseBranch scope next)
        (.branching line thenBranch elseBranch (detour.handle scope) other)
  | testing (line : Int) {loop otherLoop : Loop} {next other : Continuation .completion}
      (loops : detour.Loops loop otherLoop) (rest : Continues detour last next other) :
      Continues detour last (.testing line loop next) (.testing line otherLoop other)
  | stepping {loop otherLoop : Loop} {next other : Continuation .completion}
      (loops : detour.Loops loop otherLoop) (rest : Continues detour last next other) :
      Continues detour last (.stepping loop next) (.stepping otherLoop other)
  | discarding {next other : Continuation .completion} (rest : Continues detour last next other) :
      Continues detour last (.discarding next) (.discarding other)
  | sequence (nodes : List Node) (scope : Handle) {next other : Continuation .completion}
      (rest : Continues detour last next other) :
      Continues detour last (.sequence nodes scope next)
        (.sequence nodes (detour.handle scope) other)
  | leaving (scope : Handle) {next other : Continuation .completion}
      (rest : Continues detour last next other) :
      Continues detour last (.leaving scope next) (.leaving (detour.handle scope) other)
  | starting {loop otherLoop : Loop} {next other : Continuation .completion}
      (loops : detour.Loops loop otherLoop) (rest : Continues detour last next other) :
      Continues detour last (.starting loop next) (.starting otherLoop other)
  | looping {loop otherLoop : Loop} {next other : Continuation .completion}
      (loops : detour.Loops loop otherLoop) (rest : Continues detour last next other) :
      Continues detour last (.looping loop next) (.looping otherLoop other)
  | calling (name : String) (scope : Handle) (callerFrame : Option Handle) (callerLine : Int)
      {next other : Continuation .value} (rest : Continues detour last next other) :
      Continues detour last (.calling name scope callerFrame callerLine next)
        (.calling name (detour.handle scope) (callerFrame.map detour.handle) callerLine other)

/-- The same is being done, and the same is left to do up to the end of a statement. -/
inductive Detour.Proceeds (detour : Detour) (last : Continuation .completion) :
    Control → Control → Prop
  | evaluating {node : Node} {scope otherScope : Handle} {next other : Continuation .value}
      (views : detour.Views node.assigns scope otherScope) (rest : detour.Continues last next other) :
      Proceeds detour last (.evaluating node scope next) (.evaluating node otherScope other)
  | executing (node : Node) (scope : Handle) {next other : Continuation .completion}
      (rest : detour.Continues last next other) :
      Proceeds detour last (.executing node scope next)
        (.executing node (detour.handle scope) other)
  | delivering (value : Value) {next other : Continuation .value}
      (rest : detour.Continues last next other) :
      Proceeds detour last (.delivering value next) (.delivering (detour.value value) other)
  | completing (completion : Completion) {next other : Continuation .completion}
      (rest : detour.Continues last next other) :
      Proceeds detour last (.completing completion next)
        (.completing (detour.completion completion) other)
  | unwinding (failure : Failure) {awaited : Awaited} {next other : Continuation awaited}
      (rest : detour.Continues last next other) :
      Proceeds detour last (.unwinding failure next) (.unwinding failure other)

/-- Two states are the same but for an extra scope. -/
structure Detour.Accompanies (detour : Detour) (last : Continuation .completion)
    (state other : State) : Prop where
  machines : state.machine.Detours detour other.machine
  controls : detour.Proceeds last state.control other.control

/-! ## Statements, loops and calls -/

namespace Detour

open Scriptlet.Action Scriptlet.State

variable {settings : Settings} {detour : Detour} {last : Continuation .completion}
  {machine other : Machine}

/-- Two actions give controls that proceed alike. -/
def Leads (detour : Detour) (last : Continuation .completion)
    (first second : EStateM.Result Failure Machine Control) : Prop :=
  Agree (Machine.Detours detour) (detour.Proceeds last) first second

/-- The same loop is in both runs. -/
theorem loops_same (name : String) (condition step : Option Node) (body : List Node)
    (scope : Handle) : detour.Loops { name, condition, step, body, scope }
      { name, condition, step, body, scope := detour.handle scope } :=
  ⟨rfl, rfl, rfl, .same scope⟩

/-- Statements are executed in step. -/
theorem proceeds_inSequence (nodes : List Node) (scope : Handle)
    {next otherNext : Continuation .completion} (rest : detour.Continues last next otherNext) :
    detour.Proceeds last (inSequence nodes scope next)
      (inSequence nodes (detour.handle scope) otherNext) := by
  cases nodes with
  | nil => exact .completing .normal rest
  | cons node nodes => exact .executing node scope (.sequence nodes scope rest)

/-- Bodies are entered in step, each in a scope of its own. -/
theorem leads_enter {name otherName : String} {nodes : List Node} {around otherAround : Handle}
    {next otherNext : Continuation .completion} (machines : machine.Detours detour other)
    (live : machine.store.IsLive around) (views : detour.Views false around otherAround)
    (rest : detour.Continues last next otherNext) :
    detour.Leads last (enter name nodes around next machine)
      (enter otherName nodes otherAround otherNext other) :=
  agree_bind_createChild machines live views fun _ _ machines _ =>
    ⟨proceeds_inSequence nodes _ (.leaving _ rest), machines⟩

/-- Loops go round in step. -/
theorem leads_round {loop otherLoop : Loop} {next otherNext : Continuation .completion}
    (machines : machine.Detours detour other) (live : machine.store.IsLive loop.scope)
    (loops : detour.Loops loop otherLoop) (rest : detour.Continues last next otherNext) :
    detour.Leads last (State.round loop next machine) (State.round otherLoop otherNext other) := by
  rw [State.round, State.round, loops.body_eq]
  exact leads_enter machines live (loops.views.mono fun _ => rfl) (.looping loops rest)

/-- Loops are tested in step. -/
theorem leads_test {loop otherLoop : Loop} {next otherNext : Continuation .completion}
    (machines : machine.Detours detour other) (live : machine.store.IsLive loop.scope)
    (loops : detour.Loops loop otherLoop) (rest : detour.Continues last next otherNext) :
    detour.Leads last (test loop next machine) (test otherLoop otherNext other) := by
  rw [test, test, loops.condition_eq]
  cases tested : loop.condition with
  | some condition =>
    refine ⟨.evaluating (loops.views.mono ?_) (.testing condition.line loops rest), machines⟩
    intro absent
    rw [Loop.assigns, tested, Bool.or_eq_false_iff] at absent
    exact absent.1
  | none => exact leads_round machines live loops rest

/-- A function is called in two runs. -/
theorem leads_call {callee : Callee} {arguments : List Value}
    {next otherNext : Continuation .value} (machines : machine.Detours detour other)
    (links : ∀ value ∈ callee.values ++ arguments, ∀ target, value.scope? = some target →
      machine.store.IsLive target)
    (rest : detour.Continues last next otherNext) :
    detour.Leads last (call settings callee arguments next machine)
      (call settings.keeping (detour.callee callee) (arguments.map detour.value) otherNext
        other) := by
  cases callee with
  | builtin builtin =>
    refine agree_bind_pure (alike_callBuiltin builtin arguments machine other machines) ?_
    rintro value _ rfl
    exact .delivering value rest
  | declared closure =>
    refine agree_bind_of_quiet (quiet_checkDepth settings closure.name)
      (alike_checkDepth settings closure.name) machines (.refl _) fun _ _ _ _ _ machines same => ?_
    refine agree_bind_of_quiet quiet_currentLine alike_currentLine machines same
      fun callerLine _ machine other together machines same => ?_
    cases together
    have links : ∀ value ∈ .function closure :: arguments, ∀ target,
        value.scope? = some target → machine.store.IsLive target := by
      rw [same.store_eq]
      exact links
    refine agree_bind_createChild machines (links _ (List.mem_cons_self ..) _ rfl)
      (.same closure.scope) fun after otherAfter inner store_eq => ?_
    -- The arguments link to scopes that are live before the new scope is created, hence also after.
    obtain ⟨store, otherStore, run, otherRun, bound⟩ := exists_bindParameters_alike
      closure.parameters arguments inner (by
        intro value mem target link
        rw [store_eq]
        exact machines.sound.tidy.create_isLive_iff.mpr
          (Or.inl (links value (List.mem_cons_of_mem _ mem) target link)))
    refine agree_bind_of_eq_ok run otherRun ?_
    refine agree_bind_of_eq_ok rfl rfl ?_
    refine agree_bind_of_quiet (quiet_record _ _) (alike_record settings (by rfl) (by rfl))
      bound (.refl _) fun _ _ _ _ _ recorded _ => ?_
    refine agree_bind_of_eq_ok rfl rfl ⟨?_, ?_⟩
    · rw [recorded.frame_eq]
      exact proceeds_inSequence _ _ (.calling _ _ _ _ rest)
    · exact { recorded with
        depth_eq := congrArg (· + 1) recorded.depth_eq
        frame_eq := rfl }

/-- The arguments of a call are evaluated in two runs. -/
theorem leads_passArguments {line : Int} {callee : Callee} {finished : List Value}
    {nodes : List Node} {scope otherScope : Handle} {next otherNext : Continuation .value}
    (machines : machine.Detours detour other)
    (links : ∀ value ∈ callee.values ++ finished, ∀ target, value.scope? = some target →
      machine.store.IsLive target)
    (views : detour.Views (Node.anyAssigns nodes) scope otherScope)
    (rest : detour.Continues last next otherNext) :
    detour.Leads last (passArguments settings line callee finished nodes scope next machine)
      (passArguments settings.keeping line (detour.callee callee) (finished.map detour.value) nodes
        otherScope otherNext other) := by
  cases nodes with
  | cons argument nodes =>
    refine ⟨.evaluating (views.mono ?_) (.argument line callee finished (views.mono ?_) rest),
      machines⟩
    all_goals
      intro absent
      rw [Node.anyAssigns, Bool.or_eq_false_iff] at absent
    · exact absent.1
    · exact absent.2
  | nil =>
    refine agree_bind_of_quiet (quiet_mark line) (alike_mark line) machines (.refl _)
      fun _ _ after otherAfter _ machines same => ?_
    rw [← List.map_reverse]
    refine leads_call machines ?_ rest
    intro value mem
    rw [same.store_eq]
    exact links value (Callee.mem_passed_iff.mp mem)

/-! ## Into nodes -/

/-- The operands of an operator are evaluated where the whole expression is. -/
theorem views_binary {line : Int} {operator : String} {left right : Node}
    {scope otherScope : Handle}
    (views : detour.Views (Node.binary line operator left right).assigns scope otherScope) :
    detour.Views left.assigns scope otherScope ∧ detour.Views right.assigns scope otherScope := by
  refine ⟨views.mono fun absent => ?_, views.mono fun absent => ?_⟩
  all_goals rw [Node.assigns, Bool.or_eq_false_iff, Bool.or_eq_false_iff] at absent
  · exact absent.1.2
  · exact absent.2

/-- A call begins in two runs. -/
theorem leads_beginCall {line : Int} {name : String} {arguments : List Node}
    {scope otherScope : Handle} {next otherNext : Continuation .value}
    (machines : machine.Detours detour other) (live : machine.store.IsLive scope)
    (views : detour.Views (Node.anyAssigns arguments) scope otherScope)
    (rest : detour.Continues last next otherNext) :
    detour.Leads last (beginCall settings line name arguments scope next machine)
      (beginCall settings.keeping line name arguments otherScope otherNext other) := by
  rw [beginCall, beginCall, show settings.keeping.builtin? name = settings.builtin? name from rfl]
  cases settings.builtin? name with
  | some builtin =>
    refine agree_bind_of_quiet (quiet_checkArity _ _ _) (alike_checkArity _ _ _) machines (.refl _)
      fun _ _ _ _ _ machines _ => ?_
    exact leads_passArguments machines (fun value mem => absurd mem List.not_mem_nil) views rest
  | none =>
    refine agree_bind (lookup_yields machines.sound live name)
      (agree_lookup machines live views name) fun value _ after otherAfter moved found holds => ?_
    obtain ⟨rfl, holder, holderLive, -, held⟩ := holds
    cases moved
    cases value with
    | function closure =>
      refine agree_bind_of_quiet (quiet_checkArity _ _ _) (alike_checkArity _ _ _) found (.refl _)
        fun _ _ _ _ _ between same => ?_
      refine leads_passArguments between ?_ views rest
      intro value mem target link
      rw [List.mem_singleton.mp mem] at link
      rw [same.store_eq]
      exact found.sound.bound_isLive holderLive (mem_of_lookup_eq_some held) link
    | integer | float | text | undefined | builtin | null => exact alike_fail _ _ _ found

/-- An expression is evaluated in two runs. -/
theorem leads_evaluate {node : Node} {scope otherScope : Handle}
    {next otherNext : Continuation .value} (machines : machine.Detours detour other)
    (live : machine.store.IsLive scope) (views : detour.Views node.assigns scope otherScope)
    (rest : detour.Continues last next otherNext) :
    detour.Leads last (evaluate settings node scope next machine)
      (evaluate settings.keeping node otherScope otherNext other) := by
  refine agree_bind_of_quiet (quiet_mark _) (alike_mark _) machines (.refl _)
    fun _ _ _ _ _ machines same => ?_
  refine agree_bind_of_quiet quiet_currentLine alike_currentLine machines same ?_
  rintro line _ _ _ rfl machines same
  refine agree_bind_of_quiet (quiet_record _ _) (alike_record settings (by rfl) (by rfl))
    machines same fun _ _ _ _ _ machines same => ?_
  rw [← same.store_eq] at live
  split
  case h_1 | h_2 | h_3 => exact ⟨.delivering _ rest, machines⟩
  case h_4 line name =>
    refine agree_bind_pure (agree_lookup machines live views name) ?_
    rintro value _ rfl
    exact .delivering value rest
  case h_5 line targetLine name right =>
    -- Whatever is assigned is evaluated in the same scope, and not in the extra one.
    have same : detour.Views true scope otherScope := views.mono nofun
    obtain rfl := same.eq
    exact ⟨.evaluating (.same scope) (.assigning name scope rest), machines⟩
  case h_6 | h_12 => exact alike_fail _ _ _ machines
  case h_7 line left right =>
    have parts := views_binary views
    exact ⟨.evaluating parts.1 (.conjunction parts.2 rest), machines⟩
  case h_8 line left right =>
    have parts := views_binary views
    exact ⟨.evaluating parts.1 (.disjunction parts.2 rest), machines⟩
  case h_9 line operator left right _ _ _ _ =>
    have parts := views_binary views
    exact ⟨.evaluating parts.1 (.leftOperand line operator parts.2 rest), machines⟩
  case h_10 line operator operand =>
    exact ⟨.evaluating (views.mono id) (.operand line operator rest), machines⟩
  case h_11 line name arguments => exact leads_beginCall machines live (views.mono id) rest

/-- A function is declared in two runs. -/
theorem leads_define {name : String} {parameters : List String} {body : List Node}
    {scope : Handle} {next otherNext : Continuation .completion}
    (machines : machine.Detours detour other) (live : machine.store.IsLive scope)
    (rest : detour.Continues last next otherNext) :
    detour.Leads last (define settings name parameters body scope next machine)
      (define settings.keeping name parameters body (detour.handle scope) otherNext other) := by
  refine agree_bind_of_eq_ok rfl rfl (agree_bind_of_eq_ok rfl rfl ?_)
  refine agree_bind_pure (alike_record settings (by rfl) (by rfl) _ _ ?_)
    fun _ _ _ => .completing .normal rest
  show Machine.Detours detour _ { other with
    functions := other.functions + 1
    store := other.store.bind (detour.handle scope) name
      (.function ⟨other.functions, name, parameters, body, detour.handle scope⟩) }
  rw [machines.functions_eq]
  have bound := machines.withStores (sound_bind_declared machines.sound live rfl)
    (sound_bind_declared machines.otherSound (machines.stores.isLive live) rfl)
    (machines.stores.bind machines.sound.tidy machines.otherSound.tidy scope name
      (.function ⟨machine.functions, name, parameters, body, scope⟩))
  exact { bound with functions_eq := rfl }

/-- A statement is executed in two runs. -/
theorem leads_execute {node : Node} {scope : Handle} {next otherNext : Continuation .completion}
    (machines : machine.Detours detour other) (live : machine.store.IsLive scope)
    (rest : detour.Continues last next otherNext) :
    detour.Leads last (execute settings node scope next machine)
      (execute settings.keeping node (detour.handle scope) otherNext other) := by
  refine agree_bind_of_quiet (quiet_mark _) (alike_mark _) machines (.refl _)
    fun _ _ machine other _ machines same => ?_
  -- Marking the line has left the scopes alone, so the scope is still live.
  rw [← same.store_eq] at live
  split
  case h_1 => exact leads_define machines live rest
  case h_2 line name initializer =>
    exact ⟨.evaluating (.same scope) (.declaring name scope rest), machines⟩
  case h_3 line name => exact ⟨.delivering .undefined (.declaring name scope rest), machines⟩
  case h_4 line value => exact ⟨.evaluating (.same scope) (.returning rest), machines⟩
  case h_5 => exact ⟨.delivering .undefined (.returning rest), machines⟩
  case h_6 => exact ⟨.completing .broken rest, machines⟩
  case h_7 => exact ⟨.completing .continued rest, machines⟩
  case h_8 => exact leads_enter machines live (.same scope) rest
  case h_9 line condition thenBranch elseBranch =>
    exact ⟨.evaluating (.same scope) (.branching line thenBranch elseBranch scope rest), machines⟩
  case h_10 => exact leads_test machines live (loops_same ..) rest
  case h_11 => exact leads_round machines live (loops_same ..) rest
  case h_12 line start condition step body =>
    -- Both runs create the scope of the loop, at handles that the detour relates.
    refine agree_bind_createChild machines live (.same scope)
      fun after otherAfter inner store_eq => ?_
    have loops := detour.loops_same "for-body" condition step body ⟨machine.store.scopes.size⟩
    cases start with
    | some start =>
      exact ⟨.executing start _ (.starting loops (.leaving _ rest)), inner⟩
    | none =>
      refine leads_test inner ?_ loops (.leaving _ rest)
      show after.store.IsLive _
      rw [store_eq]
      exact machines.sound.tidy.create_isLive_iff.mpr (Or.inr rfl)
  case h_13 => exact ⟨.evaluating (.same scope) (.discarding rest), machines⟩

/-! ## Out of nodes -/

/-- A value is delivered in two runs. -/
theorem leads_deliver {value : Value} {next otherNext : Continuation .value}
    (machines : machine.Detours detour other)
    (orderly : machine.Orderly (.holds [value] :: next.stakes))
    (rest : detour.Continues last next otherNext) :
    detour.Leads last (deliver settings value next machine)
      (deliver settings.keeping (detour.value value) otherNext other) := by
  have order := orderly.held
  have kept := orderly.valid.1 value (List.mem_cons_self ..)
  have links : ∀ target, value.scope? = some target → machine.store.IsLive target :=
    fun target => orderly.isLive_of_keptBy kept
  -- One case for each kind of what waits for the value; its counterpart is of the same kind.
  cases rest with
  | assigning name scope rest =>
    exact agree_bind_pure (agree_assign settings machines order.isLive_of_resumes name links)
      fun _ _ _ => .delivering value rest
  | conjunction views rest =>
    rw [deliver, deliver, isTruthy_value]
    split
    · exact ⟨.evaluating views (.truth rest), machines⟩
    · exact ⟨.delivering (.ofBool false) rest, machines⟩
  | disjunction views rest =>
    rw [deliver, deliver, isTruthy_value]
    split
    · exact ⟨.delivering (.ofBool true) rest, machines⟩
    · exact ⟨.evaluating views (.truth rest), machines⟩
  | truth rest =>
    rw [deliver, deliver, isTruthy_value]
    exact ⟨.delivering (.ofBool _) rest, machines⟩
  | leftOperand line operator views rest =>
    exact ⟨.evaluating views (.rightOperand line operator value rest), machines⟩
  | rightOperand line operator left rest =>
    refine agree_bind_of_quiet (quiet_mark line) (alike_mark line) machines (.refl _)
      fun _ _ _ _ _ machines _ => ?_
    refine agree_bind_pure (alike_ofProblem (binary_value operator left value) _ _ machines) ?_
    rintro result _ rfl
    exact .delivering result rest
  | operand line operator rest =>
    refine agree_bind_of_quiet (quiet_mark line) (alike_mark line) machines (.refl _)
      fun _ _ _ _ _ machines _ => ?_
    refine agree_bind_pure (alike_ofProblem (unary_value operator value) _ _ machines) ?_
    rintro result _ rfl
    exact .delivering result rest
  | argument line callee finished views rest =>
    exact leads_passArguments machines (fun _ mem _ => orderly.isLive_of_passed mem) views rest
  | declaring name scope rest =>
    obtain ⟨store, otherStore, run, otherRun, machines, -⟩ :=
      exists_bind_alike machines scope name links
    exact agree_bind_of_eq_ok run otherRun (agree_bind_pure
      (alike_record settings (by rfl) (by rfl) _ _ machines) fun _ _ _ => .completing .normal rest)
  | returning rest =>
    exact agree_bind_pure (agree_keepResult machines links)
      fun _ _ _ => .completing (.returned value) rest
  | branching line thenBranch elseBranch scope rest =>
    refine agree_bind_of_quiet (quiet_record _ _) (alike_record settings (by rfl) (by rfl))
      machines (.refl _) fun _ _ _ _ _ machines same => ?_
    have live := order.isLive_of_resumes
    rw [← same.store_eq] at live
    rw [isTruthy_value]
    split
    · exact leads_enter machines live (.same scope) rest
    · cases elseBranch with
      | some elseBranch => exact leads_enter machines live (.same scope) rest
      | none => exact ⟨.completing .normal rest, machines⟩
  | testing line loops rest =>
    refine agree_bind_of_quiet (quiet_record _ _) (alike_record settings (by rfl) (by rfl))
      machines (.refl _) fun _ _ _ _ _ machines same => ?_
    have live := order.isLive_of_resumes
    rw [← same.store_eq] at live
    rw [isTruthy_value]
    split
    · exact leads_round machines live loops rest
    · exact ⟨.completing .normal rest, machines⟩
  | stepping loops rest => exact leads_test machines order.isLive_of_resumes loops rest
  | discarding rest => exact ⟨.completing .normal rest, machines⟩

/-- A call ends with a result in two runs. -/
theorem leads_finishCall {stakes : List Stake} {name : String} {scope otherScope : Handle}
    {owners : List Handle} {callerFrame : Option Handle} {callerLine : Int} {result : Value}
    {next otherNext : Continuation .value} (releases : settings.releases = true)
    (machines : machine.Detours detour other) (orderly : machine.Orderly stakes)
    (top : Stake.owned stakes = scope :: owners)
    (rest : detour.Continues last next otherNext) :
    detour.Leads last (finishCall settings name scope callerFrame callerLine result next machine)
      (finishCall settings.keeping name otherScope (callerFrame.map detour.handle) callerLine
        (detour.value result) otherNext other) := by
  refine agree_bind_any (agree_leaveCall releases machines orderly top rfl)
    fun failed _ _ _ same machines => ?_
  cases same
  cases failed with
  | some failure => exact ⟨.unwinding failure rest, machines⟩
  | none =>
    refine agree_bind_any (alike_record settings (by rfl) (by rfl) _ _ machines)
      fun _ _ _ _ _ machines => ?_
    exact agree_bind_pure (alike_setLine _ _ _ machines) fun _ _ _ => .delivering result rest

/-- A statement has completed in two runs, and it is not the one that the runs have in common. -/
theorem leads_complete {completion : Completion} {next otherNext : Continuation .completion}
    (releases : settings.releases = true) (machines : machine.Detours detour other)
    (orderly : machine.Orderly (completion.stakes ++ next.stakes))
    (goesOn : ¬(Control.completing completion next).Ends last)
    (rest : detour.Continues last next otherNext) :
    detour.Leads last (complete settings completion next machine)
      (complete settings.keeping (detour.completion completion) otherNext other) := by
  have order := orderly_uncompleted orderly
  -- A jump passes or ends what it meets, in both runs alike.
  cases rest with
  | last => exact absurd (.completing completion last) goesOn
  | sequence nodes scope rest =>
    cases completion with
    | normal => exact ⟨proceeds_inSequence nodes scope rest, machines⟩
    | broken => exact ⟨.completing .broken rest, machines⟩
    | continued => exact ⟨.completing .continued rest, machines⟩
    | returned value => exact ⟨.completing (.returned value) rest, machines⟩
  | leaving scope rest =>
    refine agree_bind_any (agree_release releases machines order rfl)
      fun failed _ _ _ same machines => ?_
    cases same
    cases failed with
    | some failure => exact ⟨.unwinding failure rest, machines⟩
    | none => exact ⟨.completing completion rest, machines⟩
  | starting loops rest => exact leads_test machines order.isLive_of_resumes loops rest
  | @looping loop otherLoop _ _ loops rest =>
    cases completion with
    | broken => exact ⟨.completing .normal rest, machines⟩
    | returned value => exact ⟨.completing (.returned value) rest, machines⟩
    | normal | continued =>
      dsimp only [complete, Detour.completion]
      rw [loops.step_eq]
      cases stepped : loop.step with
      | none => exact leads_test machines order.isLive_of_resumes loops rest
      | some step =>
        refine ⟨.evaluating (loops.views.mono fun absent => ?_) (.stepping loops rest), machines⟩
        rw [Loop.assigns, stepped, Bool.or_eq_false_iff] at absent
        exact absent.2
  | calling name scope callerFrame callerLine rest =>
    cases completion with
    | normal | returned => exact leads_finishCall releases machines order rfl rest
    | broken | continued => exact alike_fail _ _ _ machines

/-- A failure leaves what is being done in two runs, and not yet the statement that these have in
common. -/
theorem leads_unwind {failure : Failure} {awaited : Awaited} {next otherNext : Continuation awaited}
    (releases : settings.releases = true) (machines : machine.Detours detour other)
    (orderly : machine.Orderly next.stakes) (goesOn : ¬(Control.unwinding failure next).Ends last)
    (rest : detour.Continues last next otherNext) :
    detour.Leads last (unwind settings failure next machine)
      (unwind settings.keeping failure otherNext other) := by
  cases rest with
  | last => exact absurd (.unwinding failure last) goesOn
  | leaving scope rest =>
    refine agree_bind_pure (agree_release releases machines orderly rfl) ?_
    rintro other _ rfl
    exact .unwinding _ rest
  | calling name scope callerFrame callerLine rest =>
    refine agree_bind_pure (agree_leaveCall releases machines orderly rfl rfl) ?_
    rintro other _ rfl
    exact .unwinding _ rest
  -- All others own no scope and are dropped.
  | assigning | conjunction | disjunction | truth | leftOperand | rightOperand | operand | argument
  | declaring | returning | branching | testing | stepping | discarding | sequence | starting
  | looping => exact ⟨.unwinding failure ‹_›, machines⟩

/-! ## Steps -/

/-- What two actions come to is the same, if they agree. -/
theorem accompanies_after {awaited : Awaited} {next otherNext : Continuation awaited}
    {first second : Action Control} (leads : detour.Leads last (first machine) (second other))
    (rest : detour.Continues last next otherNext) :
    detour.Accompanies last (after machine next first) (after other otherNext second) := by
  obtain ⟨machines, proceeds | ⟨failure, first_eq, second_eq⟩⟩ := after_cases leads
  · exact ⟨machines, proceeds⟩
  · refine ⟨machines, ?_⟩
    rw [first_eq, second_eq]
    exact .unwinding failure rest

/-- A step keeps two states the same but for an extra scope, as long as the statement that they have
in common has not ended. -/
theorem step_accompanies {state other : State} (releases : settings.releases = true)
    (orderly : state.Orderly) (goesOn : ¬state.control.Ends last)
    (accompanies : detour.Accompanies last state other) :
    detour.Accompanies last (state.step settings) (other.step settings.keeping) := by
  obtain ⟨machine, control⟩ := state
  obtain ⟨otherMachine, otherControl⟩ := other
  obtain ⟨machines, proceeds⟩ := accompanies
  cases proceeds with
  | evaluating views rest =>
    exact accompanies_after (leads_evaluate machines orderly.isLive_of_resumes views rest) rest
  | executing node scope rest =>
    exact accompanies_after (leads_execute machines orderly.isLive_of_resumes rest) rest
  | delivering value rest => exact accompanies_after (leads_deliver machines orderly rest) rest
  | completing completion rest =>
    exact accompanies_after (leads_complete releases machines orderly goesOn rest) rest
  | unwinding failure rest =>
    exact accompanies_after (leads_unwind releases machines orderly goesOn rest) rest

/-- Steps keep two states the same but for an extra scope, as long as the statement that they have in
common has not ended. -/
theorem advance_accompanies {state other : State} (releases : settings.releases = true)
    (orderly : state.Orderly) (accompanies : detour.Accompanies last state other) {steps : Nat}
    (goesOn : ∀ earlier < steps, ¬(state.advance settings earlier).control.Ends last) :
    detour.Accompanies last (state.advance settings steps)
      (other.advance settings.keeping steps) := by
  induction steps with
  | zero => exact accompanies
  | succ steps inductionHypothesis =>
    rw [advance_succ, advance_succ]
    exact step_accompanies releases (advance_orderly releases orderly steps)
      (goesOn steps (Nat.lt_succ_self steps))
      (inductionHypothesis fun earlier before => goesOn earlier (Nat.lt_succ_of_lt before))

/-! ## The end of a statement -/

/-- There is no less left to do than after the statement that two runs have in common, and more in
the second run, which has to leave the extra scope. -/
theorem Continues.length_le {awaited : Awaited} {next other : Continuation awaited}
    (continues : detour.Continues last next other) :
    last.beneath.length ≤ next.beneath.length ∧ last.beneath.length < other.beneath.length := by
  induction continues with
  | last => exact ⟨Nat.le_refl _, Nat.lt_succ_self _⟩
  | assigning | conjunction | disjunction | truth | leftOperand | rightOperand | operand | argument
  | declaring | returning | branching | testing | stepping | discarding | sequence | leaving
  | starting | looping | calling =>
    rename_i inductionHypothesis
    simp only [Continuation.beneath, List.length_cons]
    omega

/-- When the first run has ended the statement, what is left to do in the second one is to leave the
extra scope. -/
theorem Continues.eq_leaving {next other : Continuation .completion}
    (continues : detour.Continues last next other) (ended : next = last) :
    other = .leaving detour.extra last := by
  cases continues with
  | last => rfl
  | sequence _ _ rest | leaving _ rest | starting _ rest | looping _ rest | calling _ _ _ _ rest =>
    -- There would be more left to do than after the statement.
    have less := rest.length_le.1
    rw [← ended, Continuation.beneath, List.length_cons] at less
    omega

/-- When the first run ends the statement, the second one does so in the same way, except that it
still has to leave the extra scope. -/
theorem Proceeds.cases_of_ends {control other : Control}
    (proceeds : detour.Proceeds last control other) (ends : control.Ends last) :
    (∃ completion, control = .completing completion last ∧
      other = .completing (detour.completion completion) (.leaving detour.extra last)) ∨
    ∃ failure, control = .unwinding failure last ∧
      other = .unwinding failure (.leaving detour.extra last) := by
  cases ends with
  | completing completion =>
    cases proceeds with
    | completing _ rest => exact Or.inl ⟨completion, rfl, by rw [rest.eq_leaving rfl]⟩
  | unwinding failure =>
    cases proceeds with
    | unwinding _ rest => exact Or.inr ⟨failure, rfl, by rw [rest.eq_leaving rfl]⟩

/-- The second run does not end the statement before it has left the extra scope. -/
theorem Proceeds.not_ends {control other : Control} (proceeds : detour.Proceeds last control other) :
    ¬other.Ends last := by
  intro ends
  have same := congrArg List.length ends.parts_eq.2
  cases proceeds with
  | evaluating views rest | executing node scope rest | delivering value rest
  | completing completion rest | unwinding failure rest =>
    have longer := rest.length_le.2
    simp only [Control.parts, Continuation.parts, List.length_cons] at same
    omega

end Detour

end Scriptlet
