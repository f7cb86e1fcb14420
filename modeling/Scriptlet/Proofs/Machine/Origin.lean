import Scriptlet.Proofs.Machine.Course

/-! # Where what is left to do comes from

What is left to do is a stack.  A step drops some of it from the inside and puts new parts on the
rest, for what it begins.  So a part that waits to apply an operator or a function was put there
when its node began to be evaluated, and a part that ends a call was put there by a call.

Main definitions:

* `Continuation.parts`, `Control.parts`: the parts of what is left to do, innermost first.
* `Continuation.Stems`: the node for which a part waits to apply an operator or a function.
* `State.activeCalls`: the number of calls that what is left to do will end.
* `State.Calls`: the next step calls a declared function.
* `State.Extends`: what is left to do extends a rest of what was left before.
* `Machine.Pending`: a node began to be evaluated and waits for its operator or function since.

Main statements: `State.step_extends`, what a step does to what is left to do; with it,
`State.activeCalls_step_le`, that calls become active by calling, and `Machine.course_pending`,
where the parts that wait come from. -/

namespace Scriptlet

/-! ## Parts -/

/-- A part of what is left to do. -/
abbrev Part := (awaited : Awaited) × Continuation awaited

/-- The parts that are left to do after the innermost one. -/
def Continuation.beneath {awaited : Awaited} : Continuation awaited → List Part
  | .assigning _ _ next | .conjunction _ _ next | .disjunction _ _ next | .truth next
  | .leftOperand _ _ _ _ next | .rightOperand _ _ _ next | .operand _ _ next
  | .argument _ _ _ _ _ next => ⟨.value, next⟩ :: next.beneath
  | .declaring _ _ next | .returning next | .branching _ _ _ _ next | .testing _ _ next
  | .stepping _ next | .discarding next | .sequence _ _ next | .leaving _ next | .starting _ next
  | .looping _ next => ⟨.completion, next⟩ :: next.beneath
  | .calling _ _ _ _ next => ⟨.value, next⟩ :: next.beneath
  | .program _ _ => []

/-- The parts of what is left to do, innermost first. -/
def Continuation.parts {awaited : Awaited} (next : Continuation awaited) : List Part :=
  ⟨awaited, next⟩ :: next.beneath

/-- The parts of what is left to do after what is being done now, innermost first. -/
def Control.parts : Control → List Part
  | .evaluating _ _ next => next.parts
  | .executing _ _ next => next.parts
  | .delivering _ next => next.parts
  | .completing _ next => next.parts
  | .unwinding _ next => next.parts
  | .halted _ => []

/-- A part waits to apply an operator or a function. -/
def Continuation.isPending {awaited : Awaited} : Continuation awaited → Bool
  | .leftOperand .. | .rightOperand .. | .operand .. | .argument .. => true
  | _ => false

/-- A part ends a call. -/
def Continuation.isCall {awaited : Awaited} : Continuation awaited → Bool
  | .calling .. => true
  | _ => false

/-- The node for which a part waits to apply an operator or a function, with the scope that the node
is evaluated in and with what is left to do after it. -/
inductive Continuation.Stems :
    {awaited : Awaited} → Continuation awaited → Node → Handle → Continuation .value → Prop
  | leftOperand {line : Int} {operator : String} {left right : Node} {scope : Handle}
      {next : Continuation .value} :
      Stems (.leftOperand line operator right scope next) (.binary line operator left right) scope
        next
  | rightOperand {line : Int} {operator : String} {value : Value} {left right : Node}
      {scope : Handle} {next : Continuation .value} :
      Stems (.rightOperand line operator value next) (.binary line operator left right) scope next
  | operand {line : Int} {operator : String} {operand : Node} {scope : Handle}
      {next : Continuation .value} :
      Stems (.operand line operator next) (.unary line operator operand) scope next
  /-- The arguments before the awaited one are finished. -/
  | argument {line : Int} {callee : Callee} {name : String} {finished : List Value}
      {earlier rest : List Node} {awaited : Node} {scope : Handle} {next : Continuation .value}
      (progress : earlier.length = finished.length) :
      Stems (.argument line callee finished rest scope next)
        (.call line name (earlier ++ awaited :: rest)) scope next

/-- The number of active calls is the number of parts that end a call. -/
theorem Continuation.depth_stakes {awaited : Awaited} (next : Continuation awaited) :
    Stake.depth next.stakes = next.parts.countP (·.2.isCall) := by
  induction next with
  | program => rfl
  | calling name scope callerFrame callerLine next ih =>
    show Stake.depth next.stakes + 1 = (⟨.completion, _⟩ :: next.parts).countP _
    rw [ih, List.countP_cons_of_pos rfl]
  | assigning | conjunction | disjunction | truth | leftOperand | rightOperand | operand | argument
  | declaring | returning | branching | testing | stepping | discarding | sequence | leaving
  | starting | looping =>
    rename_i inner ih
    exact ih

/-- What is left to do has as many calls as parts that end one. -/
theorem Control.depth_stakes (control : Control) :
    Stake.depth control.stakes = control.parts.countP (·.2.isCall) := by
  cases control with
  | evaluating | executing | delivering | unwinding => exact Continuation.depth_stakes _
  | completing completion next =>
    cases completion with
    | normal | broken | continued | returned => exact Continuation.depth_stakes next
  | halted => rfl

namespace State

/-- The number of calls that are active: that of the parts of what is left to do that end a call. -/
def activeCalls (state : State) : Nat :=
  state.control.parts.countP (·.2.isCall)

/-- The depth that is counted is the number of active calls. -/
theorem Orderly.callDepth_eq {state : State} (orderly : state.Orderly) :
    state.machine.callDepth = state.activeCalls := by
  rw [orderly.depth_eq, Control.depth_stakes, activeCalls]

/-! ## What a step puts on the rest -/

/-- The next step calls a declared function, for a call at a line. -/
inductive Calls (settings : Settings) : State → Int → Closure → Prop
  /-- A call without arguments begins. -/
  | direct {machine : Machine} {line : Int} {name : String} {scope holder : Handle}
      {next : Continuation .value} {closure : Closure}
      (told : (Event.evaluated (machine.markedLine line) "Call").Passes settings)
      (declared : settings.builtin? name = none)
      (finds : machine.store.find? name scope = .ok (some holder))
      (holds : machine.store.get? holder name = some (.function closure))
      (fits : closure.parameters = []) :
      Calls settings ⟨machine, .evaluating (.call line name []) scope next⟩ line closure
  /-- The last argument of a call has its value. -/
  | passed {machine : Machine} {value : Value} {line : Int} {closure : Closure}
      {finished : List Value} {scope : Handle} {next : Continuation .value} :
      Calls settings
        ⟨machine, .delivering value (.argument line (.declared closure) finished [] scope next)⟩
        line closure

/-- The next step gives a part its node: that which is being evaluated, or that of a part which the
new one takes the place of. -/
inductive Gives : State → Part → Prop
  | begun {before : State} {node : Node} {scope : Handle} {next : Continuation .value}
      {part : Part} (evaluating : before.control = .evaluating node scope next)
      (stems : part.2.Stems node scope next) : Gives before part
  | replaced {before : State} {former part : Part} (mem : former ∈ before.control.parts)
      (pending : former.2.isPending = true)
      (inherits : ∀ {node scope next}, former.2.Stems node scope next →
        part.2.Stems node scope next) : Gives before part

/-- What is left to do extends a rest of what was left before, by parts that have their reasons. -/
inductive Extends (settings : Settings) (before : State) : List Part → Prop
  | kept {parts : List Part} (rest : parts <:+ before.control.parts) :
      Extends settings before parts
  | put {part : Part} {parts : List Part} (former : Extends settings before parts)
      (gives : part.2.isPending = true → before.Gives part)
      (calls : part.2.isCall = true → ∃ line closure, before.Calls settings line closure) :
      Extends settings before (part :: parts)

variable {settings : Settings} {before : State} {parts : List Part}

namespace Extends

/-- A part is put on the rest that waits for nothing and ends no call. -/
theorem plain {part : Part} (former : before.Extends settings parts)
    (settled : part.2.isPending = false) (inside : part.2.isCall = false) :
    before.Extends settings (part :: parts) := by
  refine .put former ?_ ?_
  · intro pending
    rw [settled] at pending
    cases pending
  · intro call
    rw [inside] at call
    cases call

/-- A part is put on the rest that waits to apply an operator or a function. -/
theorem pending {part : Part} (former : before.Extends settings parts)
    (gives : before.Gives part) (inside : part.2.isCall = false) :
    before.Extends settings (part :: parts) := by
  refine .put former (fun _ => gives) ?_
  intro call
  rw [inside] at call
  cases call

/-- A part that waits was there before, or is given its node. -/
theorem gives_of_mem (grown : before.Extends settings parts) {part : Part} (mem : part ∈ parts)
    (waits : part.2.isPending = true) : part ∈ before.control.parts ∨ before.Gives part := by
  induction grown with
  | kept rest => exact Or.inl (rest.subset mem)
  | put former gives calls ih =>
    obtain rfl | later := List.mem_cons.mp mem
    · exact Or.inr (gives waits)
    · exact ih later

/-- There are no more active calls than before, if none is called. -/
theorem countP_isCall_le (grown : before.Extends settings parts)
    (uncalled : ∀ line closure, ¬before.Calls settings line closure) :
    parts.countP (·.2.isCall) ≤ before.control.parts.countP (·.2.isCall) := by
  induction grown with
  | kept rest => exact rest.sublist.countP_le
  | @put part parts former gives calls ih =>
    cases inside : part.2.isCall with
    | true =>
      obtain ⟨line, closure, calling⟩ := calls inside
      exact absurd calling (uncalled line closure)
    | false =>
      rw [List.countP_cons_of_neg (by simp [inside])]
      exact ih

end Extends

/-! ## Rules for actions -/

/-- An action arrives at what extends a rest of what was left to do before, unless it fails. -/
def Grows (settings : Settings) (before : State) (action : Action Control) (machine : Machine) :
    Prop :=
  action.Yields machine (fun control _ => before.Extends settings control.parts) fun _ _ => True

variable {machine : Machine}

/-- An action that goes on with what extends the rest grows. -/
theorem grows_pure {control : Control} (grown : before.Extends settings control.parts) :
    before.Grows settings (pure control) machine :=
  grown

/-- So does one that fails: what is left to do is as before. -/
theorem grows_fail (cause : Cause) : before.Grows settings (Action.fail cause) machine :=
  trivial

/-- What comes first does not matter if the rest does not depend on it. -/
theorem grows_bind {α : Type} {action : Action α} {following : α → Action Control}
    (follows : ∀ value after, before.Grows settings (following value) after) :
    before.Grows settings (action >>= following) machine := by
  rw [Grows, Action.yields_bind, Action.Yields]
  cases action machine with
  | ok value after => exact follows value after
  | error failure after => trivial

/-- An event is recorded first. -/
theorem grows_record {event : Event} {following : Unit → Action Control}
    (follows : event.Passes settings → ∀ traced,
      before.Grows settings (following ()) { machine with traced }) :
    before.Grows settings (Action.record settings event >>= following) machine := by
  obtain ⟨passes, traced, run⟩ | ⟨-, run⟩ := Action.record_cases settings event machine
  · exact Action.yields_bind.mpr (Action.yields_of_eq_ok run (follows passes traced))
  · rw [Grows, Action.yields_bind, Action.Yields, run]
    trivial

/-! ## Actions -/

/-- Statements that are to be executed extend what follows them. -/
theorem extends_inSequence {nodes : List Node} {scope : Handle} {next : Continuation .completion}
    (former : before.Extends settings next.parts) :
    before.Extends settings (inSequence nodes scope next).parts := by
  cases nodes with
  | nil => exact former
  | cons node rest => exact former.plain rfl rfl

/-- A body that is entered extends what follows it. -/
theorem grows_enter {name : String} {nodes : List Node} {around : Handle}
    {next : Continuation .completion} (former : before.Extends settings next.parts) :
    before.Grows settings (enter name nodes around next) machine :=
  grows_bind fun _ _ => grows_pure (extends_inSequence (former.plain rfl rfl))

/-- A test of a loop extends what follows the loop. -/
theorem grows_test {loop : Loop} {next : Continuation .completion}
    (former : before.Extends settings next.parts) :
    before.Grows settings (test loop next) machine := by
  rw [test]
  cases loop.condition with
  | some condition => exact grows_pure (former.plain rfl rfl)
  | none => exact grows_enter (former.plain rfl rfl)

/-- A call extends what follows it, and is one of a declared function if it adds a part that ends a
call. -/
theorem grows_call {callee : Callee} {arguments : List Value} {next : Continuation .value}
    (former : before.Extends settings next.parts)
    (calls : ∀ closure, callee = .declared closure → ∃ line, before.Calls settings line closure) :
    before.Grows settings (call settings callee arguments next) machine := by
  cases callee with
  | builtin builtin => exact grows_bind fun value _ => grows_pure former
  | declared closure =>
    obtain ⟨line, calling⟩ := calls closure rfl
    refine grows_bind fun _ _ => grows_bind fun callerLine _ => grows_bind fun scope _ => ?_
    refine grows_bind fun _ _ => grows_bind fun _ _ => grows_bind fun _ _ => ?_
    refine grows_bind fun callerFrame _ => grows_pure (extends_inSequence (former.put ?_ ?_))
    · intro impossible
      cases impossible
    · exact fun _ => ⟨line, closure, calling⟩

/-- The awaited argument of a call is given the node of the call. -/
theorem grows_passArguments {line : Int} {callee : Callee} {finished : List Value}
    {rest : List Node} {scope : Handle} {next : Continuation .value}
    (former : before.Extends settings next.parts)
    (gives : ∀ argument later, rest = argument :: later →
      before.Gives ⟨.value, .argument line callee finished later scope next⟩)
    (calls : rest = [] → ∀ closure, callee = .declared closure →
      ∃ line, before.Calls settings line closure) :
    before.Grows settings (passArguments settings line callee finished rest scope next)
      machine := by
  cases rest with
  | cons argument rest => exact grows_pure (former.pending (gives argument rest rfl) rfl)
  | nil => exact grows_bind fun _ _ => grows_call former (calls rfl)

/-! ## Steps -/

/-- A call waits for its function since its node began to be evaluated. -/
theorem grows_beginCall {machine after : Machine} {line : Int} {name : String}
    {arguments : List Node} {scope : Handle} {next : Continuation .value}
    (orderly : machine.Orderly (.resumes scope :: next.stakes)) (same : machine.SameScopes after)
    (told : (Event.evaluated (machine.markedLine line) "Call").Passes settings) :
    Grows settings ⟨machine, .evaluating (.call line name arguments) scope next⟩
      (beginCall settings line name arguments scope next) after := by
  have gives : ∀ callee argument later, arguments = argument :: later →
      Gives ⟨machine, .evaluating (.call line name arguments) scope next⟩
        ⟨.value, .argument line callee [] later scope next⟩ := by
    rintro callee argument later rfl
    exact .begun rfl
      (@Continuation.Stems.argument line callee name [] [] later argument scope next rfl)
  have former : Extends settings ⟨machine, .evaluating (.call line name arguments) scope next⟩
      next.parts := .kept (List.suffix_refl _)
  rw [beginCall]
  cases declared : settings.builtin? name with
  | some builtin =>
    refine grows_bind fun _ _ => grows_passArguments former (gives _) ?_
    intro _ closure impossible
    cases impossible
  | none =>
    have sound := (orderly.sameScopes same).sound
    have live := (orderly.sameScopes same).isLive_of_resumes
    refine Action.yields_bind.mpr
      ((Action.lookup_yields sound live name).mono ?_ fun _ _ _ => trivial)
    rintro value _ ⟨rfl, holder, -, finds, holds⟩
    cases value with
    | function closure =>
      -- The number of arguments is checked first, so a call without any is of a function without
      -- parameters.
      rw [same.store_eq] at finds holds
      refine Action.yields_bind.mpr
        ((Action.checkArity_yields _ _ _ _).mono ?_ fun _ _ _ => trivial)
      rintro _ _ ⟨rfl, fits⟩
      refine grows_passArguments former (gives _) ?_
      rintro rfl _ ⟨rfl⟩
      exact ⟨line, .direct told declared finds holds (List.length_eq_zero_iff.mp fits.symm)⟩
    | integer | float | text | undefined | builtin | null => exact grows_fail _

/-- An expression that begins to be evaluated puts its own parts on the rest. -/
theorem grows_evaluate {machine : Machine} {node : Node} {scope : Handle}
    {next : Continuation .value} (orderly : machine.Orderly (.resumes scope :: next.stakes)) :
    Grows settings ⟨machine, .evaluating node scope next⟩ (evaluate settings node scope next)
      machine := by
  have former : Extends settings ⟨machine, .evaluating node scope next⟩ next.parts :=
    .kept (List.suffix_refl _)
  -- The line that is marked is the one that is told of.
  refine Action.yields_bind.mpr (Action.yields_of_eq_ok (Action.mark_eq _ _) ?_)
  refine Action.yields_bind.mpr (Action.yields_of_eq_ok rfl (grows_record fun told traced => ?_))
  split
  case h_1 | h_2 | h_3 => exact grows_pure former
  case h_4 => exact grows_bind fun _ _ => grows_pure former
  case h_5 | h_7 | h_8 => exact grows_pure (former.plain rfl rfl)
  case h_6 | h_12 => exact grows_fail _
  case h_9 => exact grows_pure (former.pending (.begun rfl .leftOperand) rfl)
  case h_10 => exact grows_pure (former.pending (.begun rfl .operand) rfl)
  case h_11 => exact grows_beginCall orderly ⟨rfl, rfl, rfl⟩ told

/-- So does a statement that begins to be executed. -/
theorem grows_execute {machine : Machine} {node : Node} {scope : Handle}
    {next : Continuation .completion} :
    Grows settings ⟨machine, .executing node scope next⟩ (execute settings node scope next)
      machine := by
  have former : Extends settings ⟨machine, .executing node scope next⟩ next.parts :=
    .kept (List.suffix_refl _)
  refine grows_bind fun _ _ => ?_
  split
  case h_1 =>
    exact grows_bind fun _ _ => grows_bind fun _ _ => grows_bind fun _ _ => grows_pure former
  case h_2 | h_3 | h_4 | h_5 | h_9 | h_13 => exact grows_pure (former.plain rfl rfl)
  case h_6 | h_7 => exact grows_pure former
  case h_8 => exact grows_enter former
  case h_10 => exact grows_test former
  case h_11 => exact grows_enter (former.plain rfl rfl)
  case h_12 start condition step body =>
    refine grows_bind fun loopScope _ => ?_
    cases start with
    | some start => exact grows_pure ((former.plain rfl rfl).plain rfl rfl)
    | none => exact grows_test (former.plain rfl rfl)

/-- A value takes the innermost part away and may put others in its place. -/
theorem grows_deliver {machine : Machine} {value : Value} {next : Continuation .value} :
    Grows settings ⟨machine, .delivering value next⟩ (deliver settings value next) machine := by
  cases next with
  | assigning name scope next =>
    exact grows_bind fun _ _ => grows_pure (.kept (List.suffix_cons ..))
  | conjunction right scope next =>
    rw [deliver]
    split
    · exact grows_pure (.plain (.kept (List.suffix_cons ..)) rfl rfl)
    · exact grows_pure (.kept (List.suffix_cons ..))
  | disjunction right scope next =>
    rw [deliver]
    split
    · exact grows_pure (.kept (List.suffix_cons ..))
    · exact grows_pure (.plain (.kept (List.suffix_cons ..)) rfl rfl)
  | truth next | discarding next => exact grows_pure (.kept (List.suffix_cons ..))
  | leftOperand line operator right scope next =>
    refine grows_pure (.pending (.kept (List.suffix_cons ..)) ?_ rfl)
    -- The part that waits for the right operand stands where the part for the left one stood.
    refine .replaced (List.mem_cons_self ..) rfl ?_
    rintro node around after ⟨⟩
    exact .rightOperand
  | rightOperand line operator left next | operand line operator next =>
    exact grows_bind fun _ _ => grows_bind fun _ _ => grows_pure (.kept (List.suffix_cons ..))
  | argument line callee finished rest scope next =>
    refine grows_passArguments (.kept (List.suffix_cons ..)) ?_ ?_
    · rintro argument later rfl
      refine .replaced (List.mem_cons_self ..) rfl ?_
      rintro node around after stems
      cases stems with
      | @argument _ _ name _ earlier _ awaited _ _ progress =>
        rw [List.append_cons]
        exact .argument (by simp [progress])
    · -- All arguments are there, and the call begins on the line of its node.
      rintro rfl closure rfl
      exact ⟨line, .passed⟩
  | declaring name scope next =>
    exact grows_bind fun _ _ => grows_bind fun _ _ => grows_pure (.kept (List.suffix_cons ..))
  | returning next => exact grows_bind fun _ _ => grows_pure (.kept (List.suffix_cons ..))
  | branching line thenBranch elseBranch scope next =>
    refine grows_bind fun _ _ => ?_
    split
    · exact grows_enter (.kept (List.suffix_cons ..))
    · cases elseBranch with
      | some elseBranch => exact grows_enter (.kept (List.suffix_cons ..))
      | none => exact grows_pure (.kept (List.suffix_cons ..))
  | testing line loop next =>
    refine grows_bind fun _ _ => ?_
    split
    · exact grows_enter (.plain (.kept (List.suffix_cons ..)) rfl rfl)
    · exact grows_pure (.kept (List.suffix_cons ..))
  | stepping loop next => exact grows_test (.kept (List.suffix_cons ..))

/-- So does a completion. -/
theorem grows_complete {machine : Machine} {completion : Completion}
    {next : Continuation .completion} :
    Grows settings ⟨machine, .completing completion next⟩ (complete settings completion next)
      machine := by
  cases next with
  | sequence rest scope next =>
    cases completion with
    | normal => exact grows_pure (extends_inSequence (.kept (List.suffix_cons ..)))
    | broken | continued | returned => exact grows_pure (.kept (List.suffix_cons ..))
  | leaving scope next =>
    refine grows_bind fun failed _ => ?_
    -- A scope that cannot be released ends the run, whose parts are those that were left anyway.
    cases failed <;> exact grows_pure (.kept (List.suffix_cons ..))
  | starting loop next => exact grows_test (.kept (List.suffix_cons ..))
  | looping loop next =>
    cases completion with
    | broken | returned => exact grows_pure (.kept (List.suffix_cons ..))
    | normal | continued =>
      rw [complete]
      cases loop.step with
      | some step => exact grows_pure (.plain (.kept (List.suffix_cons ..)) rfl rfl)
      | none => exact grows_test (.kept (List.suffix_cons ..))
  | calling name scope callerFrame callerLine next =>
    cases completion with
    | normal | returned =>
      refine grows_bind fun failed _ => ?_
      cases failed with
      | some failure => exact grows_pure (.kept (List.suffix_cons ..))
      | none => exact grows_bind fun _ _ => grows_bind fun _ _ =>
          grows_pure (.kept (List.suffix_cons ..))
    | broken | continued => exact grows_fail _
  | program rest root =>
    rw [complete]
    cases completion.jump? with
    | some jump => exact grows_fail _
    | none =>
      cases rest with
      | nil => exact grows_bind fun _ _ => grows_pure (.kept (List.nil_suffix ..))
      | cons node rest =>
        exact grows_bind fun _ _ => grows_pure (.plain (.kept (List.nil_suffix ..)) rfl rfl)

/-- A failure only takes parts away. -/
theorem grows_unwind {machine : Machine} {failure : Failure} {awaited : Awaited}
    {next : Continuation awaited} :
    Grows settings ⟨machine, .unwinding failure next⟩ (unwind settings failure next) machine := by
  cases next with
  | leaving | calling => exact grows_bind fun _ _ => grows_pure (.kept (List.suffix_cons ..))
  | program => exact grows_bind fun _ _ => grows_pure (.kept (List.nil_suffix ..))
  | assigning | conjunction | disjunction | truth | leftOperand | rightOperand | operand | argument
  | declaring | returning | branching | testing | stepping | discarding | sequence | starting
  | looping => exact grows_pure (.kept (List.suffix_cons ..))

/-- If an action fails, all that is left to do is unwound. -/
theorem extends_after {awaited : Awaited} {next : Continuation awaited} {action : Action Control}
    (all : next.parts = before.control.parts) (grows : before.Grows settings action machine) :
    before.Extends settings (State.after machine next action).control.parts := by
  rw [Grows, Action.Yields] at grows
  rw [State.after]
  cases run : action machine with
  | ok control after =>
    rw [run] at grows
    exact grows
  | error failure after => exact .kept (all ▸ List.suffix_refl _)

/-- What is left to do after a step extends a rest of what was left to do before. -/
theorem step_extends {state : State} (orderly : state.Orderly) :
    state.Extends settings (state.step settings).control.parts := by
  obtain ⟨machine, control⟩ := state
  cases control with
  | evaluating node scope next => exact extends_after rfl (grows_evaluate orderly)
  | executing node scope next => exact extends_after rfl grows_execute
  | delivering value next => exact extends_after rfl grows_deliver
  | completing completion next => exact extends_after rfl grows_complete
  | unwinding failure next => exact extends_after rfl grows_unwind
  | halted failure => exact .kept (List.suffix_refl _)

/-- Calls become active by calling only. -/
theorem activeCalls_step_le {state : State} (orderly : state.Orderly)
    (uncalled : ∀ line closure, ¬state.Calls settings line closure) :
    (state.step settings).activeCalls ≤ state.activeCalls :=
  (step_extends orderly).countP_isCall_le uncalled

end State

/-! ## Moments of a run -/

namespace Machine

variable {settings : Settings} {body : List Node} {machine : Machine}

/-- At a moment of a run, a node waits for its operator or its function: it has begun to be
evaluated, and ever since a part of what is left to do stems from it. -/
def Pending (settings : Settings) (body : List Node) (machine : Machine) (now : Nat) (node : Node)
    (scope : Handle) (next : Continuation .value) : Prop :=
  ∃ began < now, (machine.course settings body began).control = .evaluating node scope next ∧
    ∀ moment, began < moment → moment ≤ now →
      ∃ part ∈ (machine.course settings body moment).control.parts, part.2.Stems node scope next

/-- A node goes on waiting as long as a part stems from it. -/
theorem Pending.succ {now : Nat} {node : Node} {scope : Handle} {next : Continuation .value}
    (pending : machine.Pending settings body now node scope next) {part : Part}
    (mem : part ∈ (machine.course settings body (now + 1)).control.parts)
    (stems : part.2.Stems node scope next) :
    machine.Pending settings body (now + 1) node scope next := by
  obtain ⟨began, before, evaluating, since⟩ := pending
  refine ⟨began, Nat.lt_succ_of_lt before, evaluating, ?_⟩
  intro moment after upTo
  obtain rfl | earlier := Nat.eq_or_lt_of_le upTo
  · exact ⟨part, mem, stems⟩
  · exact since moment after (Nat.le_of_lt_succ earlier)

/-- A part that waits to apply an operator or a function stems from a node that waits for it. -/
theorem course_pending (releases : settings.releases = true) (rest : machine.AtRest) {now : Nat}
    {part : Part} (mem : part ∈ (machine.course settings body now).control.parts)
    (waits : part.2.isPending = true) :
    ∃ node scope next, part.2.Stems node scope next ∧
      machine.Pending settings body now node scope next := by
  induction now generalizing part with
  | zero =>
    -- A run starts with its statements left to do and nothing else.
    obtain rfl := List.mem_singleton.mp mem
    cases waits
  | succ now ih =>
    have grown := @State.step_extends settings _ (course_orderly releases rest body now)
    rw [← course_succ] at grown
    obtain old | given := grown.gives_of_mem mem waits
    · obtain ⟨node, scope, next, stems, pending⟩ := ih old waits
      exact ⟨node, scope, next, stems, pending.succ mem stems⟩
    · cases given with
      | @begun node scope next _ evaluating stems =>
        refine ⟨node, scope, next, stems, now, Nat.lt_succ_self now, evaluating, ?_⟩
        intro moment after upTo
        obtain rfl : moment = now + 1 := by omega
        exact ⟨part, mem, stems⟩
      | replaced former waited inherits =>
        obtain ⟨node, scope, next, stems, pending⟩ := ih former waited
        exact ⟨node, scope, next, inherits stems, pending.succ mem (inherits stems)⟩

end Machine

end Scriptlet
