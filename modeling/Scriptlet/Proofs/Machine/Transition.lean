import Scriptlet.Machine.Run
import Scriptlet.Proofs.Machine.Yield

/-! # What a step does to the scopes

A step keeps the order of the scopes.  It creates scopes only inside the scope that the construct it
enters stands in, and it pins scopes only because a function escapes: it is bound where it can be
read after the scope of its declaration is released, or it is the result of the call that it was
declared in.

Main definitions:

* `State.site?`: the scope inside which the next step creates a scope, if it creates one.
* `State.Escapes`: the next step lets a function escape.
* `State.Passage`: what a step does to the scopes.

Main statements: `State.step_arrives`, from which all else about runs follows. -/

namespace Scriptlet

open Stake (owned frame? depth Valid)

namespace State

/-- The scope that the function of a name was declared in, seen from a scope. -/
def declarationSite? (store : Store Value) (name : String) (scope : Handle) : Option Handle :=
  match store.find? name scope with
  | .ok (some holder) => (store.get? holder name).bind Value.scope?
  | _ => none

/-- The scope inside which the next step creates a scope, if it creates one: that of the statement
or loop, or for a call, that of the declaration of the function. -/
def site? : State → Option Handle
  | ⟨machine, .evaluating (.call _ name _) scope _⟩ => declarationSite? machine.store name scope
  | ⟨_, .executing _ scope _⟩ => some scope
  | ⟨_, .delivering _ (.branching _ _ _ scope _)⟩ => some scope
  | ⟨_, .delivering _ (.testing _ loop _)⟩ => some loop.scope
  | ⟨_, .delivering _ (.stepping loop _)⟩ => some loop.scope
  | ⟨_, .delivering _ (.argument _ (.declared closure) _ _ _ _)⟩ => some closure.scope
  | ⟨_, .completing _ (.starting loop _)⟩ => some loop.scope
  | ⟨_, .completing _ (.looping loop _)⟩ => some loop.scope
  | _ => none

/-- The next step lets a function escape. -/
inductive Escapes : State → Closure → Prop
  /-- It is assigned to a name that is bound in a pinned scope, or in one older than its own. -/
  | assigned {machine : Machine} {closure : Closure} {name : String} {scope : Handle}
      {next : Continuation .value} {found : Option Handle}
      (finds : machine.store.find? name scope = .ok found)
      (outlives : machine.store.isPinned (found.getD scope) = true ∨
        (found.getD scope).serial < closure.scope.serial) :
      Escapes ⟨machine, .delivering (.function closure) (.assigning name scope next)⟩ closure
  /-- It is the value of a new variable of a pinned scope, or of one older than its own. -/
  | declared {machine : Machine} {closure : Closure} {name : String} {scope : Handle}
      {next : Continuation .completion}
      (outlives : machine.store.isPinned scope = true ∨ scope.serial < closure.scope.serial) :
      Escapes ⟨machine, .delivering (.function closure) (.declaring name scope next)⟩ closure
  /-- It is returned from the innermost call, during which its scope was created. -/
  | returned {machine : Machine} {closure : Closure} {frame : Handle}
      {next : Continuation .completion} (innermost : machine.frame = some frame)
      (during : frame.serial ≤ closure.scope.serial) :
      Escapes ⟨machine, .delivering (.function closure) (.returning next)⟩ closure

/-- A function that escapes in the next step was declared in a scope. -/
def EscapesFrom (before : State) (origin : Handle) : Prop :=
  ∃ closure, before.Escapes closure ∧ closure.scope = origin

/-- What a step does to the scopes: they stay in order, and change for a reason. -/
structure Passage (before : State) (machine : Machine) (stakes : List Stake) : Prop where
  orderly : machine.Orderly stakes
  evolves : before.machine.store.Evolves Value.scope? before.site? before.EscapesFrom machine.store

/-- What a step arrives at: the end of the run, or a state with its scopes in order. -/
inductive Arrives (before : State) (machine : Machine) : Control → Prop
  | halted (failure : Option Failure) (rest : machine.AtRest) (unset : machine.root = none) :
      Arrives before machine (.halted failure)
  | passed {control : Control} (running : isHalted ⟨machine, control⟩ = false)
      (passage : before.Passage machine control.stakes) : Arrives before machine control

/-- An action arrives at the next control, or fails with the scopes in order for what is left to do. -/
def Leads (before : State) {awaited : Awaited} (next : Continuation awaited)
    (action : Action Control) (machine : Machine) : Prop :=
  action.Yields machine (fun control after => before.Arrives after control)
    fun _ after => before.Passage after next.stakes

end State

namespace Machine.Orderly

variable {machine : Machine} {stakes : List Stake} {scope : Handle}

/-- Work may go on in the innermost scope. -/
theorem resume (orderly : machine.Orderly stakes) (top : (owned stakes).head? = some scope) :
    machine.Orderly (.resumes scope :: stakes) :=
  orderly.restake rfl rfl rfl ⟨top, orderly.valid⟩

/-- Values may be held that are kept. -/
theorem hold (orderly : machine.Orderly stakes) {held : List Value}
    (kept : ∀ value ∈ held, value.KeptBy machine.store.IsPermanent (owned stakes)) :
    machine.Orderly (.holds held :: stakes) :=
  orderly.restake rfl rfl rfl ⟨kept, orderly.valid⟩

/-- A value may be held that is kept. -/
theorem holdOne (orderly : machine.Orderly stakes) {value : Value}
    (kept : value.KeptBy machine.store.IsPermanent (owned stakes)) :
    machine.Orderly (.holds [value] :: stakes) :=
  orderly.hold fun other mem => by
    rw [List.mem_singleton.mp mem]
    exact kept

/-- A value that is no function may be held. -/
theorem holdPlain (orderly : machine.Orderly stakes) {value : Value}
    (plain : value.scope? = none) : machine.Orderly (.holds [value] :: stakes) :=
  orderly.holdOne (Value.keptBy_of_scope?_eq_none plain)

/-- Work need not go on. -/
theorem resumed (orderly : machine.Orderly (.resumes scope :: stakes)) : machine.Orderly stakes :=
  orderly.restake rfl rfl rfl orderly.valid.2

/-- Values may be dropped. -/
theorem held {values : List Value} (orderly : machine.Orderly (.holds values :: stakes)) :
    machine.Orderly stakes :=
  orderly.restake rfl rfl rfl orderly.valid.2

/-- The scope in which work goes on is live. -/
theorem isLive_of_resumes (orderly : machine.Orderly (.resumes scope :: stakes)) :
    machine.store.IsLive scope :=
  orderly.owned_isLive (List.mem_of_head? orderly.valid.1)

section Passed

variable {calls passed : List Value} {value other : Value}

/-- When an argument has its value, the values at stake are the function, the new argument and the
arguments before it. -/
theorem keptBy_of_passed
    (orderly : machine.Orderly (.holds [value] :: .resumes scope :: .holds (calls ++ passed) :: stakes))
    (mem : other ∈ calls ++ value :: passed) :
    other.KeptBy machine.store.IsPermanent (owned stakes) := by
  have earlier := orderly.held.resumed.valid.1
  rw [List.mem_append, List.mem_cons] at mem
  obtain called | rfl | before := mem
  · exact earlier other (List.mem_append_left _ called)
  · exact orderly.valid.1 other List.mem_cons_self
  · exact earlier other (List.mem_append_right _ before)

/-- So their scopes are live. -/
theorem isLive_of_passed
    (orderly : machine.Orderly (.holds [value] :: .resumes scope :: .holds (calls ++ passed) :: stakes))
    (mem : other ∈ calls ++ value :: passed) {target : Handle}
    (link : other.scope? = some target) : machine.store.IsLive target :=
  orderly.held.resumed.held.isLive_of_keptBy (orderly.keptBy_of_passed mem) link

end Passed

end Machine.Orderly

namespace State

variable {before : State} {machine after : Machine} {stakes : List Stake} {awaited : Awaited}
  {next : Continuation awaited} {settings : Settings}

/-! ## Passages -/

/-- Nothing has happened to the scopes. -/
theorem Passage.of_sameScopes (orderly : before.machine.Orderly stakes)
    (same : before.machine.SameScopes machine) : before.Passage machine stakes where
  orderly := orderly.sameScopes same
  evolves := by
    rw [same.store_eq]
    exact .refl _

/-- Nothing more happens to the scopes. -/
theorem Passage.sameScopes (passage : before.Passage machine stakes)
    (same : machine.SameScopes after) : before.Passage after stakes where
  orderly := passage.orderly.sameScopes same
  evolves := by
    rw [same.store_eq]
    exact passage.evolves

/-! ## Rules for actions -/

/-- A control is returned whose stakes are in order. -/
theorem leads_pure {control : Control} (passage : before.Passage machine control.stakes)
    (running : isHalted ⟨machine, control⟩ = false) :
    before.Leads next (pure control) machine :=
  .passed running passage

/-- The scopes are as before, and a control is returned. -/
theorem leads_return {control : Control} (orderly : before.machine.Orderly control.stakes)
    (same : before.machine.SameScopes machine)
    (running : isHalted ⟨machine, control⟩ = false) :
    before.Leads next (pure control) machine :=
  leads_pure (.of_sameScopes orderly same) running

/-- A quiet action fails. -/
theorem leads_fail (orderly : before.machine.Orderly next.stakes)
    (same : before.machine.SameScopes machine) (cause : Cause) :
    before.Leads next (Action.fail cause) machine :=
  .of_sameScopes orderly same

/-- A quiet action comes first, with the scopes as before. -/
theorem leads_quiet {α : Type} {action : Action α} {following : α → Action Control}
    (quiet : action.Quiet) (orderly : before.machine.Orderly next.stakes)
    (same : before.machine.SameScopes machine)
    (follows : ∀ value after, before.machine.SameScopes after →
      before.Leads next (following value) after) :
    before.Leads next (action >>= following) machine := by
  refine Action.yields_bind.mpr ((quiet machine).mono ?_ ?_)
  · exact fun value after still => follows value after (same.trans still)
  · exact fun failure after still => .of_sameScopes orderly (same.trans still)

/-- A value is computed that is no function, and is delivered. -/
theorem leads_plain {action : Action Value} {inner : Continuation .value}
    (yields : ∀ machine, action.Yields machine
      (fun value after => value.scope? = none ∧ machine.SameScopes after)
      fun _ => machine.SameScopes)
    (orderly : before.machine.Orderly next.stakes)
    (delivered : before.machine.Orderly inner.stakes)
    (same : before.machine.SameScopes machine) :
    before.Leads next (action >>= fun value => pure (.delivering value inner)) machine := by
  refine Action.yields_bind.mpr ((yields machine).mono ?_ ?_)
  · rintro value after ⟨plain, still⟩
    exact leads_return (delivered.holdPlain plain) (same.trans still) rfl
  · exact fun failure after still => .of_sameScopes orderly (same.trans still)

/-- The scopes have changed, and what is recorded does not matter. -/
theorem leads_record {event : Event} {inner : Continuation .completion}
    (writable : event.isWritable = true) (passage : before.Passage machine inner.stakes) :
    before.Leads next
      (Action.record settings event >>= fun _ => pure (.completing .normal inner)) machine := by
  obtain ⟨after, run, same⟩ := Action.exists_record_eq settings event writable machine
  refine Action.yields_bind.mpr (Action.yields_of_eq_ok run ?_)
  exact leads_pure (passage.sameScopes same) rfl

/-- A name is looked up; its value is one that is kept. -/
theorem leads_lookup {name : String} {scope : Handle} {following : Value → Action Control}
    (live : before.machine.store.IsLive scope) (orderly : before.machine.Orderly next.stakes)
    (same : before.machine.SameScopes machine)
    (follows : ∀ value after, before.machine.SameScopes after →
      value.KeptBy before.machine.store.IsPermanent (owned next.stakes) →
      declarationSite? before.machine.store name scope = value.scope? →
      before.Leads next (following value) after) :
    before.Leads next (Action.lookup name scope >>= following) machine := by
  have sound : machine.store.Sound Value.scope? := same.store_eq ▸ orderly.sound
  refine Action.yields_bind.mpr
    ((Action.lookup_yields sound (same.store_eq ▸ live) name).mono ?_ ?_)
  · rintro value _ ⟨rfl, holder, holderLive, finds, held⟩
    rw [same.store_eq] at holderLive finds held
    refine follows value _ same ?_ ?_
    · exact orderly.keptBy_of_bound holderLive (Action.mem_of_lookup_eq_some held)
    · rw [declarationSite?, finds]
      show (before.machine.store.get? holder name).bind Value.scope? = _
      rw [held, Option.bind_some]
  · rintro failure _ ⟨-, rfl⟩
    exact .of_sameScopes orderly same

/-! ## Statements, loops and calls -/

/-- Statements follow in the innermost scope. -/
theorem inSequence_passage {nodes : List Node} {scope : Handle} {next : Continuation .completion}
    (passage : before.Passage machine next.stakes)
    (top : (owned next.stakes).head? = some scope) :
    before.Passage machine (inSequence nodes scope next).stakes := by
  cases nodes with
  | nil => exact passage
  | cons node rest =>
    have orderly : machine.Orderly (Continuation.sequence rest scope next).stakes :=
      passage.orderly.resume top
    exact ⟨orderly.resume top, passage.evolves⟩

/-- Statements that are to be executed are not all over. -/
theorem inSequence_running {nodes : List Node} {scope : Handle} {next : Continuation .completion} :
    isHalted ⟨machine, inSequence nodes scope next⟩ = false := by
  cases nodes <;> rfl

/-- A scope that the innermost construct owns has been created. -/
theorem orderly_createChild (orderly : machine.Orderly stakes) {around : Handle} (name : String)
    (live : machine.store.IsLive around) :
    Machine.Orderly { machine with store := (machine.store.createChild around (some name)).2 }
      (.owns ⟨machine.store.scopes.size⟩ :: stakes) := by
  have evolves : machine.store.Evolves Value.scope? (some around) (fun _ => False)
      (machine.store.createChild around (some name)).2 :=
    .createChild orderly.sound live (some name) rfl
  exact orderly.create rfl (orderly.sound.createChild live) rfl
    (orderly.valid.mono fun _ => evolves.isPermanent) orderly.frame_eq orderly.depth_eq

/-- Statements follow in a new scope. -/
theorem enter_leads {name : String} {nodes : List Node} {around : Handle}
    {inner : Continuation .completion} (orderly : machine.Orderly inner.stakes)
    (live : machine.store.IsLive around)
    (evolves : before.machine.store.Evolves Value.scope? before.site? before.EscapesFrom
      (machine.store.createChild around (some name)).2) :
    before.Leads next (enter name nodes around inner) machine := by
  have run := Action.createChild_eq around name machine
  refine Action.yields_bind.mpr (Action.yields_of_eq_ok run (leads_pure ?_ inSequence_running))
  refine inSequence_passage ⟨?_, evolves⟩ rfl
  exact orderly_createChild orderly name live

/-- A scope is created where the next step creates scopes. -/
theorem evolves_createChild {around : Handle} (sound : before.machine.store.Sound Value.scope?)
    (live : before.machine.store.IsLive around) (here : before.site? = some around)
    (same : before.machine.SameScopes machine) (name : String) :
    before.machine.store.Evolves Value.scope? before.site? before.EscapesFrom
      (machine.store.createChild around (some name)).2 := by
  rw [same.store_eq]
  exact .createChild sound live (some name) here

/-- Statements follow in a new scope, before which nothing has happened to the scopes. -/
theorem enter_leads_here {name : String} {nodes : List Node} {around : Handle}
    {inner : Continuation .completion} (orderly : before.machine.Orderly inner.stakes)
    (top : (owned inner.stakes).head? = some around) (here : before.site? = some around)
    (same : before.machine.SameScopes machine) :
    before.Leads next (enter name nodes around inner) machine := by
  have live := orderly.owned_isLive (List.mem_of_head? top)
  exact enter_leads (orderly.sameScopes same) (same.store_eq ▸ live)
    (evolves_createChild orderly.sound live here same name)

/-- A loop goes on with its test. -/
theorem test_leads {loop : Loop} {outer : Continuation .completion}
    (passage : before.Passage machine outer.stakes)
    (top : (owned outer.stakes).head? = some loop.scope)
    (evolves : before.machine.store.Evolves Value.scope? before.site? before.EscapesFrom
      (machine.store.createChild loop.scope (some loop.name)).2) :
    before.Leads next (test loop outer) machine := by
  have looping := passage.orderly.resume top
  rw [test]
  cases loop.condition with
  | some condition => exact leads_pure ⟨looping.resume top, passage.evolves⟩ rfl
  | none => exact enter_leads looping looping.isLive_of_resumes evolves

/-- A loop goes on with its test, before which nothing has happened to the scopes. -/
theorem test_leads_here {loop : Loop} {outer : Continuation .completion}
    (orderly : before.machine.Orderly (.resumes loop.scope :: outer.stakes))
    (here : before.site? = some loop.scope) (same : before.machine.SameScopes machine) :
    before.Leads next (test loop outer) machine :=
  test_leads (.of_sameScopes orderly.resumed same) orderly.valid.1
    (evolves_createChild orderly.sound orderly.isLive_of_resumes here same loop.name)

/-- A call begins: its scope becomes that of the innermost call. -/
theorem orderly_enterCall {scope : Handle} (orderly : machine.Orderly (.owns scope :: stakes)) :
    Machine.Orderly { machine with callDepth := machine.callDepth + 1, frame := some scope }
      (.calls scope machine.frame :: stakes) where
  sound := orderly.sound
  valid := ⟨orderly.frame_eq, orderly.valid⟩
  sorted := orderly.sorted
  owned_isLive := orderly.owned_isLive
  pinned_or_owned := orderly.pinned_or_owned
  frame_eq := rfl
  depth_eq := congrArg (· + 1) orderly.depth_eq

/-- The arguments of a call are bound in a new scope, which is younger than all that they link to. -/
theorem exists_bindArguments_eq {closure : Closure} {arguments : List Value}
    (orderly : machine.Orderly (.holds (.function closure :: arguments) :: stakes)) :
    ∃ store, Action.bindParameters ⟨machine.store.scopes.size⟩ closure.parameters arguments
        { machine with
          store := (machine.store.createChild closure.scope (some closure.name)).2 } =
        .ok () { machine with store } ∧
      Store.SameShape (machine.store.createChild closure.scope (some closure.name)).2 store ∧
      store.Sound Value.scope? := by
  have live : machine.store.IsLive closure.scope :=
    orderly.isLive_of_keptBy (orderly.valid.1 _ (List.mem_cons_self ..)) rfl
  have created := orderly_createChild orderly.held closure.name live
  refine Action.exists_bindParameters_eq closure.parameters arguments created.sound
    orderly.sound.create_isPinned_new ?_
  intro value mem target link
  have targetLive : machine.store.IsLive target :=
    orderly.isLive_of_keptBy (orderly.valid.1 value (List.mem_cons_of_mem _ mem)) link
  exact ⟨orderly.sound.tidy.create_isLive_iff.mpr (Or.inl targetLive),
    orderly.sound.tidy.index_lt targetLive⟩

/-- A declared function is called. -/
theorem callDeclared_leads {closure : Closure} {arguments : List Value}
    {inner : Continuation .value}
    (orderly : before.machine.Orderly (.holds (.function closure :: arguments) :: inner.stakes))
    (fallback : before.machine.Orderly next.stakes) (here : before.site? = some closure.scope)
    (same : before.machine.SameScopes machine) :
    before.Leads next (call settings (.declared closure) arguments inner) machine := by
  have live : before.machine.store.IsLive closure.scope :=
    orderly.isLive_of_keptBy (orderly.valid.1 _ (List.mem_cons_self ..)) rfl
  refine leads_quiet (Action.quiet_checkDepth _ _) fallback same fun _ machine same => ?_
  refine leads_quiet Action.quiet_currentLine fallback same fun callerLine machine same => ?_
  have current := orderly.sameScopes same
  have created := orderly_createChild current.held closure.name (same.store_eq ▸ live)
  have evolves := evolves_createChild orderly.sound live here same closure.name
  have run := Action.createChild_eq closure.scope closure.name machine
  refine Action.yields_bind.mpr (Action.yields_of_eq_ok run ?_)
  obtain ⟨store, bound, shape, sound⟩ := exists_bindArguments_eq current
  refine Action.yields_bind.mpr (Action.yields_of_eq_ok bound ?_)
  obtain ⟨after, recorded, still⟩ := Action.exists_record_eq settings
    (.called closure.name arguments (machine.callDepth + 1)) rfl { machine with store }
  refine Action.yields_bind.mpr (Action.yields_of_eq_ok rfl ?_)
  refine Action.yields_bind.mpr (Action.yields_of_eq_ok recorded ?_)
  refine Action.yields_bind.mpr (Action.yields_of_eq_ok rfl (leads_pure ?_ inSequence_running))
  refine inSequence_passage ⟨?_, ?_⟩ rfl
  · exact orderly_enterCall ((created.sameShape shape sound).sameScopes still)
  · rw [still.store_eq]
    exact evolves.sameShape shape

/-- A function is called. -/
theorem call_leads {callee : Callee} {arguments : List Value} {inner : Continuation .value}
    (orderly : before.machine.Orderly (.holds (callee.values ++ arguments) :: inner.stakes))
    (fallback : before.machine.Orderly next.stakes)
    (here : ∀ closure, callee = .declared closure → before.site? = some closure.scope)
    (same : before.machine.SameScopes machine) :
    before.Leads next (call settings callee arguments inner) machine := by
  cases callee with
  | builtin builtin =>
    exact leads_plain (Action.callBuiltin_scope? builtin arguments) fallback orderly.held same
  | declared closure => exact callDeclared_leads orderly fallback (here closure rfl) same

/-- The arguments of a call are evaluated, and the function is called. -/
theorem passArguments_leads {line : Int} {callee : Callee} {finished : List Value}
    {rest : List Node} {scope : Handle} {inner : Continuation .value}
    (orderly : before.machine.Orderly (.holds (callee.values ++ finished) :: inner.stakes))
    (fallback : before.machine.Orderly next.stakes)
    (top : (owned inner.stakes).head? = some scope)
    (here : ∀ closure, callee = .declared closure → before.site? = some closure.scope)
    (same : before.machine.SameScopes machine) :
    before.Leads next (passArguments settings line callee finished rest scope inner) machine := by
  cases rest with
  | cons argument rest =>
    exact leads_return ((orderly.resume top).resume top) same rfl
  | nil =>
    refine leads_quiet (Action.quiet_mark line) fallback same fun _ after same => ?_
    refine call_leads (orderly.held.hold ?_) fallback here same
    intro value mem
    exact orderly.valid.1 value (Callee.mem_passed_iff.mp mem)

/-! ## Into nodes -/

/-- A call begins, up to its first argument or into the function. -/
theorem beginCall_leads {machine after : Machine} {line : Int} {name : String}
    {arguments : List Node} {scope : Handle} {next : Continuation .value}
    (orderly : machine.Orderly (.resumes scope :: next.stakes)) (same : machine.SameScopes after) :
    Leads ⟨machine, .evaluating (.call line name arguments) scope next⟩ next
      (beginCall settings line name arguments scope next) after := by
  rw [beginCall]
  have top := orderly.valid.1
  have outer := orderly.resumed
  split
  · -- A built-in function holds no scope, and none is created for its call.
    refine leads_quiet (Action.quiet_checkArity _ _ _) outer same fun _ after same => ?_
    refine passArguments_leads (outer.hold ?_) outer top ?_ same
    · exact fun value mem => absurd mem List.not_mem_nil
    · exact fun closure impossible => by cases impossible
  · refine leads_lookup orderly.isLive_of_resumes outer same fun value after same kept site => ?_
    split
    · -- A call without arguments creates its scope in this very step, so `site` is needed here.
      refine leads_quiet (Action.quiet_checkArity _ _ _) outer same fun _ after same => ?_
      refine passArguments_leads (outer.holdOne kept) outer top ?_ same
      intro closure declared
      cases declared
      exact site
    · exact leads_fail outer same _

/-- An expression is evaluated. -/
theorem evaluate_leads {machine : Machine} {node : Node} {scope : Handle}
    {next : Continuation .value} (orderly : machine.Orderly (.resumes scope :: next.stakes)) :
    Leads ⟨machine, .evaluating node scope next⟩ next (evaluate settings node scope next)
      machine := by
  have top := orderly.valid.1
  have outer := orderly.resumed
  refine leads_quiet (Action.quiet_mark _) outer (.refl _) fun _ after same => ?_
  refine leads_quiet Action.quiet_currentLine outer same fun line after same => ?_
  refine leads_quiet (Action.quiet_record _ _) outer same fun _ after same => ?_
  split
  -- Literals.
  case h_1 | h_2 | h_3 => exact leads_return (outer.holdPlain rfl) same rfl
  case h_4 name =>
    refine leads_lookup orderly.isLive_of_resumes outer same fun value after same kept _ => ?_
    exact leads_return (outer.holdOne kept) same rfl
  -- An assignment to a name, or a binary operator: one side comes first, and after it the scope is
  -- needed again.
  case h_5 | h_7 | h_8 | h_9 => exact leads_return (orderly.resume top) same rfl
  -- An assignment to anything else.
  case h_6 => exact leads_fail outer same _
  -- A unary operator.
  case h_10 => exact leads_return orderly same rfl
  case h_11 => exact beginCall_leads orderly same
  -- A statement in the place of an expression.
  case h_12 => exact leads_fail outer same _

/-- A function is declared. -/
theorem define_leads {settings : Settings} {name : String} {parameters : List String}
    {body : List Node} {scope : Handle} {next : Continuation .completion}
    (orderly : before.machine.Orderly (.resumes scope :: next.stakes))
    (same : before.machine.SameScopes machine) :
    before.Leads next (define settings name parameters body scope next) machine := by
  have current := orderly.sameScopes same
  have sound : (machine.store.bind scope name
      (.function ⟨machine.functions, name, parameters, body, scope⟩)).Sound Value.scope? :=
    Action.sound_bind_declared current.sound current.isLive_of_resumes rfl
  have shape := Store.SameShape.bind machine.store scope name
    (.function ⟨machine.functions, name, parameters, body, scope⟩)
  refine Action.yields_bind.mpr (Action.yields_of_eq_ok rfl ?_)
  refine Action.yields_bind.mpr (Action.yields_of_eq_ok rfl (leads_record rfl ⟨?_, ?_⟩))
  · exact (current.resumed.sameShape shape sound).sameScopes ⟨rfl, rfl, rfl⟩
  · exact (Passage.of_sameScopes orderly same).evolves.sameShape shape

/-- A loop with a start, a test and a step begins. -/
theorem beginFor_leads {start condition step : Option Node} {body : List Node} {scope : Handle}
    {next : Continuation .completion}
    (orderly : before.machine.Orderly (.resumes scope :: next.stakes))
    (here : before.site? = some scope) (same : before.machine.SameScopes machine) :
    before.Leads next (beginFor start condition step body scope next) machine := by
  have current := orderly.resumed.sameScopes same
  have live := orderly.isLive_of_resumes
  have created := orderly_createChild current "for" (same.store_eq ▸ live)
  have evolves := evolves_createChild orderly.sound live here same "for"
  have size_eq : machine.store.scopes.size = before.machine.store.scopes.size := by
    rw [same.store_eq]
  have run := Action.createChild_eq scope "for" machine
  refine Action.yields_bind.mpr (Action.yields_of_eq_ok run ?_)
  cases start with
  | some start =>
    exact leads_pure ⟨(created.resume rfl).resume rfl, evolves⟩ rfl
  | none =>
    -- Without a start and a condition, the first round begins at once, with a scope inside the new
    -- one.
    refine test_leads ⟨created, evolves⟩ rfl ?_
    refine .createChild_inside orderly.sound.tidy evolves created.sound ?_ ?_ ?_ _
    · rw [Store.createChild, Store.create_size, size_eq]
    · rw [size_eq]
    · exact created.owned_isLive (List.mem_cons_self ..)

/-- A statement is executed. -/
theorem execute_leads {machine : Machine} {node : Node} {scope : Handle}
    {next : Continuation .completion} (orderly : machine.Orderly (.resumes scope :: next.stakes)) :
    Leads ⟨machine, .executing node scope next⟩ next (execute settings node scope next)
      machine := by
  have top := orderly.valid.1
  have outer := orderly.resumed
  refine leads_quiet (Action.quiet_mark _) outer (.refl _) fun _ after same => ?_
  split
  case h_1 => exact define_leads orderly same
  -- Variables and results of calls, with and without an expression.
  case h_2 => exact leads_return (orderly.resume top) same rfl
  case h_3 => exact leads_return (orderly.holdPlain rfl) same rfl
  case h_4 => exact leads_return orderly same rfl
  case h_5 => exact leads_return (outer.holdPlain rfl) same rfl
  case h_6 | h_7 => exact leads_return outer same rfl
  -- Blocks, branches and loops: what they begin with decides in which step a scope is created.
  case h_8 => exact enter_leads_here outer top rfl same
  case h_9 => exact leads_return (orderly.resume top) same rfl
  case h_10 => exact test_leads_here orderly rfl same
  case h_11 => exact enter_leads_here orderly top rfl same
  case h_12 => exact beginFor_leads orderly rfl same
  -- An expression.
  case h_13 => exact leads_return orderly same rfl

/-! ## Out of nodes -/

/-- A name has been bound. -/
theorem bind_passage {holder : Handle} {name : String} {value : Value} {store : Store Value}
    (orderly : before.machine.Orderly stakes) (sound : store.Sound Value.scope?)
    (binds : Action.Binds before.machine.store holder name value store)
    (escapes : ∀ closure, value = .function closure →
      before.machine.store.isPinned holder = true ∨ holder.serial < closure.scope.serial →
      before.Escapes closure) :
    before.Passage { before.machine with store } stakes := by
  cases binds with
  | plain =>
    have shape := Store.SameShape.bind before.machine.store holder name value
    exact ⟨orderly.sameShape shape sound, (Store.Evolves.refl _).sameShape shape⟩
  | @keeping closure pins function outlives contains_iff =>
    have shape := Store.SameShape.bind (before.machine.store.withPins pins) holder name value
    have evolves : before.machine.store.Evolves Value.scope? before.site? before.EscapesFrom
        (before.machine.store.withPins pins) :=
      .withPins ⟨closure, escapes closure function outlives, rfl⟩ contains_iff
    exact ⟨(orderly.withPins contains_iff).sameShape shape sound, evolves.sameShape shape⟩

/-- A value is assigned. -/
theorem deliverAssigning_leads {machine : Machine} {value : Value} {name : String} {scope : Handle}
    {next : Continuation .value}
    (orderly : machine.Orderly (.holds [value] :: .resumes scope :: next.stakes)) :
    Leads ⟨machine, .delivering value (.assigning name scope next)⟩ (.assigning name scope next)
      (deliver settings value (.assigning name scope next)) machine := by
  have kept := orderly.valid.1 value (List.mem_cons_self ..)
  have live := orderly.held.isLive_of_resumes
  have outer := orderly.held.resumed
  obtain ⟨found, store, after, finds, run, same, sound, binds⟩ :=
    Action.exists_assign_eq settings name orderly.sound live
      fun target => orderly.isLive_of_keptBy kept
  refine Action.yields_bind.mpr (Action.yields_of_eq_ok run (leads_pure ?_ rfl))
  have bound : Passage ⟨machine, .delivering value (.assigning name scope next)⟩
      { machine with store } (.holds [value] :: next.stakes) := by
    refine bind_passage (outer.holdOne kept) sound binds ?_
    rintro closure rfl outlives
    exact .assigned finds outlives
  exact bound.sameScopes same

/-- A variable is declared. -/
theorem deliverDeclaring_leads {machine : Machine} {value : Value} {name : String} {scope : Handle}
    {next : Continuation .completion}
    (orderly : machine.Orderly (.holds [value] :: .resumes scope :: next.stakes)) :
    Leads ⟨machine, .delivering value (.declaring name scope next)⟩ (.declaring name scope next)
      (deliver settings value (.declaring name scope next)) machine := by
  have kept := orderly.valid.1 value (List.mem_cons_self ..)
  obtain ⟨store, run, sound, binds⟩ := Action.exists_bind_eq scope name orderly.sound
    fun target => orderly.isLive_of_keptBy kept
  refine Action.yields_bind.mpr (Action.yields_of_eq_ok run (leads_record rfl ?_))
  refine bind_passage orderly.held.resumed sound binds ?_
  rintro closure rfl outlives
  exact .declared outlives

/-- The result of a call is there. -/
theorem deliverReturning_leads {machine : Machine} {value : Value} {next : Continuation .completion}
    (orderly : machine.Orderly (.holds [value] :: next.stakes)) :
    Leads ⟨machine, .delivering value (.returning next)⟩ (.returning next)
      (deliver settings value (.returning next)) machine := by
  have kept := orderly.valid.1 value (List.mem_cons_self ..)
  have outer := orderly.held
  obtain ⟨run, older⟩ | ⟨closure, frame, pins, rfl, innermost, during, run, contains_iff⟩ :=
    Action.keepResult_cases orderly.sound fun target => orderly.isLive_of_keptBy kept
  · -- The result is no function, or one whose scope is older than the call and outlives it.
    refine Action.yields_bind.mpr (Action.yields_of_eq_ok run (leads_return ?_ (.refl _) rfl))
    refine outer.restake rfl rfl rfl ⟨?_, outer.valid⟩
    exact fun beneath found => outer.keptBy_beneath kept found older
  · -- The scope of the result was created during the call: it is pinned, with all that it reaches.
    refine Action.yields_bind.mpr (Action.yields_of_eq_ok run (leads_pure ⟨?_, ?_⟩ rfl))
    · have pinned := outer.withPins contains_iff
      refine pinned.restake rfl rfl rfl ⟨fun beneath _ target link => Or.inl ?_, pinned.valid⟩
      cases link
      have live := orderly.isLive_of_keptBy kept rfl
      exact ⟨live, (contains_iff _).mpr (Or.inr ⟨closure.scope, live, rfl, .refl⟩)⟩
    · exact .withPins ⟨closure, .returned innermost during, rfl⟩ contains_iff

/-- A value is delivered. -/
theorem deliver_leads {machine : Machine} {value : Value} {next : Continuation .value}
    (orderly : machine.Orderly (.holds [value] :: next.stakes)) :
    Leads ⟨machine, .delivering value next⟩ next (deliver settings value next) machine := by
  have kept := orderly.valid.1 value (List.mem_cons_self ..)
  have rest := orderly.held
  have same := Machine.SameScopes.refl machine
  -- The value goes where it was waited for: it is bound, held or dropped, and what it links to
  -- stays live.
  cases next with
  | assigning name scope next => exact deliverAssigning_leads orderly
  | conjunction right scope next =>
    rw [deliver]
    split
    · exact leads_return rest same rfl
    · exact leads_return (rest.resumed.holdPlain rfl) same rfl
  | disjunction right scope next =>
    rw [deliver]
    split
    · exact leads_return (rest.resumed.holdPlain rfl) same rfl
    · exact leads_return rest same rfl
  | truth next => exact leads_return (rest.holdPlain rfl) same rfl
  | leftOperand line operator right scope next =>
    exact leads_return ((rest.resumed.holdOne kept).resume rest.valid.1) same rfl
  | rightOperand line operator left next =>
    refine leads_quiet (Action.quiet_mark line) rest same fun _ after same => ?_
    have plain := Operator.isPlain_binary operator left value
    exact leads_plain (Action.ofProblem_scope? plain) rest rest.held same
  | operand line operator next =>
    refine leads_quiet (Action.quiet_mark line) rest same fun _ after same => ?_
    exact leads_plain (Action.ofProblem_scope? (Operator.isPlain_unary operator value)) rest rest
      same
  | argument line callee finished nodes scope next =>
    have stakes := rest.resumed.held.hold fun _ mem => orderly.keptBy_of_passed mem
    refine passArguments_leads stakes rest rest.valid.1 ?_ same
    rintro closure rfl
    rfl
  | declaring name scope next => exact deliverDeclaring_leads orderly
  | returning next => exact deliverReturning_leads orderly
  | branching line thenBranch elseBranch scope next =>
    refine leads_quiet (Action.quiet_record _ _) rest same fun _ after same => ?_
    split
    · exact enter_leads_here rest.resumed rest.valid.1 rfl same
    · split
      · exact enter_leads_here rest.resumed rest.valid.1 rfl same
      · exact leads_return rest.resumed same rfl
  | testing line loop next =>
    refine leads_quiet (Action.quiet_record _ _) rest same fun _ after same => ?_
    split
    · exact enter_leads_here rest rest.valid.1 rfl same
    · exact leads_return rest.resumed same rfl
  | stepping loop next => exact test_leads_here rest rfl same
  | discarding next => exact leads_return rest same rfl

/-- A scope has been released that the innermost construct owned. -/
theorem release_passage {scope : Handle} {stakes rest : List Stake}
    (orderly : before.machine.Orderly stakes) (top : owned stakes = scope :: owned rest)
    (store_eq : after.store = (before.machine.store.release scope).2)
    (valid : Valid before.machine.store.IsPermanent rest)
    (frame_eq : after.frame = frame? rest) (depth_eq : after.callDepth = depth rest) :
    before.Passage after rest where
  orderly := orderly.release top store_eq valid frame_eq depth_eq
  evolves := by
    rw [store_eq]
    exact .release orderly.sound (orderly.childless top)

/-- A completion without a result, or one that is ignored, has nothing at stake. -/
theorem orderly_uncompleted {completion : Completion}
    (orderly : machine.Orderly (completion.stakes ++ stakes)) : machine.Orderly stakes := by
  cases completion with
  | normal | broken | continued => exact orderly
  | returned value => exact orderly.restake rfl rfl rfl orderly.valid.2

/-- A completion leaves a construct that owns nothing. -/
theorem orderly_completed {completion : Completion} {scope : Handle}
    (orderly : machine.Orderly (completion.stakes ++ .resumes scope :: stakes)) :
    machine.Orderly (completion.stakes ++ stakes) := by
  cases completion with
  | normal | broken | continued => exact orderly.resumed
  | returned value => exact orderly.restake rfl rfl rfl ⟨orderly.valid.1, orderly.valid.2.2⟩

/-- A completion leaves a construct that owns a scope. -/
theorem leaving_leads {completion : Completion} {scope : Handle} {inner : Continuation .completion}
    (releases : settings.releases = true)
    (orderly : before.machine.Orderly (completion.stakes ++ .owns scope :: inner.stakes)) :
    before.Leads next (do
      match ← Action.failure? (Action.release settings scope) with
      | some failure => return .unwinding failure inner
      | none => return .completing completion inner) before.machine := by
  have outer := orderly_uncompleted orderly
  have run := Action.failure?_eq (Action.release_eq releases
    (outer.owned_isLive (List.mem_cons_self ..)))
  refine Action.yields_bind.mpr (Action.yields_of_eq_ok run (leads_pure ?_ rfl))
  -- A result that is on its way out is kept by what lies beneath the call, not by this scope.
  cases completion with
  | normal | broken | continued =>
    exact release_passage orderly rfl rfl outer.valid outer.frame_eq outer.depth_eq
  | returned value =>
    exact release_passage orderly rfl rfl orderly.valid outer.frame_eq outer.depth_eq

/-- A call has ended. -/
theorem calling_passage {scope : Handle} {callerFrame : Option Handle} {values : List Value}
    (orderly : before.machine.Orderly (.holds values :: .calls scope callerFrame :: stakes))
    (kept : ∀ value ∈ values, value.KeptBy before.machine.store.IsPermanent (owned stakes)) :
    before.Passage
      { before.machine with
        callDepth := before.machine.callDepth - 1
        frame := callerFrame
        store := (before.machine.store.release scope).2 } (.holds values :: stakes) := by
  refine release_passage orderly rfl rfl ⟨kept, orderly.valid.2.2⟩ orderly.valid.2.1 ?_
  show before.machine.callDepth - 1 = depth stakes
  rw [orderly.depth_eq]
  rfl

/-- A call has ended with a result. -/
theorem finishCall_leads {name : String} {scope : Handle} {callerFrame : Option Handle}
    {callerLine : Int} {result : Value} {inner : Continuation .value}
    (releases : settings.releases = true)
    (orderly : before.machine.Orderly (.calls scope callerFrame :: inner.stakes))
    (kept : result.KeptBy before.machine.store.IsPermanent (owned inner.stakes)) :
    before.Leads next (finishCall settings name scope callerFrame callerLine result inner)
      before.machine := by
  have kept : ∀ value ∈ [result],
      value.KeptBy before.machine.store.IsPermanent (owned inner.stakes) := by
    intro value mem
    rw [List.mem_singleton.mp mem]
    exact kept
  -- Before the release the result is also kept, since more scopes are owned.
  have holding := orderly.hold fun value mem =>
    (kept value mem).mono (fun _ => id) (List.subset_cons_self _ _)
  have run := Action.failure?_eq (Action.leaveCall_eq callerFrame releases
    (orderly.owned_isLive (List.mem_cons_self ..)))
  refine Action.yields_bind.mpr (Action.yields_of_eq_ok run ?_)
  obtain ⟨after, recorded, same⟩ := Action.exists_record_eq settings (.returned name result) rfl _
  refine Action.yields_bind.mpr (Action.yields_of_eq_ok recorded ?_)
  refine Action.yields_bind.mpr (Action.yields_of_eq_ok rfl (leads_pure ?_ rfl))
  exact ((calling_passage holding kept).sameScopes same).sameScopes ⟨rfl, rfl, rfl⟩

/-- The statements of a program follow, or its run is over. -/
theorem goOn_leads {nodes : List Node} {root : Handle}
    (orderly : before.machine.Orderly [.resumes root, .owns root]) :
    before.Leads next (goOn nodes root) before.machine := by
  cases nodes with
  | cons node nodes =>
    refine Action.yields_bind.mpr (Action.yields_of_eq_ok rfl ?_)
    exact leads_return (orderly.resume rfl) ⟨rfl, rfl, rfl⟩ rfl
  | nil =>
    refine Action.yields_bind.mpr (Action.yields_of_eq_ok rfl ?_)
    exact .halted none ⟨rfl, orderly.frame_eq, orderly.depth_eq⟩ rfl

/-- A statement has completed. -/
theorem complete_leads {machine : Machine} {completion : Completion}
    {next : Continuation .completion} (releases : settings.releases = true)
    (orderly : machine.Orderly (completion.stakes ++ next.stakes)) :
    Leads ⟨machine, .completing completion next⟩ next (complete settings completion next)
      machine := by
  have rest := orderly_uncompleted orderly
  have same := Machine.SameScopes.refl machine
  -- A completion passes the innermost construct: its scope is released, and a result stays kept.
  cases next with
  | sequence nodes scope next =>
    cases completion with
    | normal =>
      exact leads_pure (inSequence_passage (.of_sameScopes rest.resumed same) rest.valid.1)
        inSequence_running
    | broken | continued | returned => exact leads_return (orderly_completed orderly) same rfl
  | leaving scope next => exact leaving_leads releases orderly
  | starting loop next => exact test_leads_here rest rfl same
  | looping loop next =>
    cases completion with
    | broken => exact leads_return rest.resumed same rfl
    | returned value => exact leads_return (orderly_completed orderly) same rfl
    | normal | continued =>
      rw [complete]
      split
      · exact leads_return (rest.resume rest.valid.1) same rfl
      · exact test_leads_here rest rfl same
  | calling name scope callerFrame callerLine next =>
    cases completion with
    | normal => exact finishCall_leads releases rest (Value.keptBy_of_scope?_eq_none rfl)
    | returned value => exact finishCall_leads releases rest (orderly.valid.1 _ rfl)
    | broken | continued => exact leads_fail rest same _
  | program nodes root =>
    rw [complete]
    split
    · exact leads_fail rest same _
    · exact goOn_leads rest

/-- A failure leaves what is being done. -/
theorem unwind_leads {machine : Machine} {failure : Failure} {next : Continuation awaited}
    (releases : settings.releases = true) (orderly : machine.Orderly next.stakes) :
    Leads ⟨machine, .unwinding failure next⟩ next (unwind settings failure next) machine := by
  have same := Machine.SameScopes.refl machine
  cases next with
  -- The continuations that own a scope release it, as they do on completion.
  | leaving scope next =>
    have run := Action.failure?_eq (Action.release_eq releases
      (orderly.owned_isLive (List.mem_cons_self ..)))
    refine Action.yields_bind.mpr (Action.yields_of_eq_ok run (leads_pure ?_ rfl))
    exact release_passage orderly rfl rfl orderly.valid orderly.frame_eq orderly.depth_eq
  | calling name scope callerFrame callerLine next =>
    have run := Action.failure?_eq (Action.leaveCall_eq callerFrame releases
      (orderly.owned_isLive (List.mem_cons_self ..)))
    refine Action.yields_bind.mpr (Action.yields_of_eq_ok run (leads_pure ?_ rfl))
    refine release_passage orderly rfl rfl orderly.valid.2 orderly.valid.1 ?_
    show machine.callDepth - 1 = depth next.stakes
    rw [orderly.depth_eq]
    rfl
  | program nodes root =>
    refine Action.yields_bind.mpr (Action.yields_of_eq_ok rfl ?_)
    exact .halted (some failure) ⟨rfl, orderly.frame_eq, orderly.depth_eq⟩ rfl
  -- All others only drop what they have at stake.
  | assigning | conjunction | disjunction | leftOperand | declaring | branching | testing | stepping
  | sequence | starting | looping => exact leads_return orderly.resumed same rfl
  | truth | operand | returning | discarding => exact leads_return orderly same rfl
  | rightOperand => exact leads_return orderly.held same rfl
  | argument => exact leads_return orderly.resumed.held same rfl

/-! ## Steps -/

/-- The scopes of a state are in order for what is left to do. -/
def Orderly (state : State) : Prop :=
  state.machine.Orderly state.control.stakes

/-- What an action leads to is what is arrived at. -/
theorem arrives_after {action : Action Control} (leads : before.Leads next action machine) :
    before.Arrives (State.after machine next action).machine
      (State.after machine next action).control := by
  rw [Leads, Action.Yields] at leads
  rw [State.after]
  split at leads
  · rename_i run
    rw [run]
    exact leads
  · rename_i run
    rw [run]
    exact .passed rfl leads

/-- A step of a run that is not over arrives at the end of the run, or at a state with its scopes in
order; in that case, what has happened to the scopes has its reasons in the state before. -/
theorem step_arrives {state : State} (releases : settings.releases = true)
    (orderly : state.Orderly) (running : state.isHalted = false) :
    state.Arrives (state.step settings).machine (state.step settings).control := by
  obtain ⟨machine, control⟩ := state
  cases control with
  | evaluating node scope next => exact arrives_after (evaluate_leads orderly)
  | executing node scope next => exact arrives_after (execute_leads orderly)
  | delivering value next => exact arrives_after (deliver_leads orderly)
  | completing completion next => exact arrives_after (complete_leads releases orderly)
  | unwinding failure next => exact arrives_after (unwind_leads releases orderly)
  | halted failure => cases running

/-- The scopes are in order at what a step arrives at. -/
theorem Arrives.orderly {state : State} (arrives : before.Arrives state.machine state.control) :
    state.Orderly := by
  obtain ⟨machine, control⟩ := state
  cases arrives with
  | halted failure atRest unset => exact atRest.orderly
  | passed running passage => exact passage.orderly

/-- A run is over only with nothing left of its scopes and calls. -/
theorem Arrives.atRest {state : State} (arrives : before.Arrives state.machine state.control)
    (halted : state.isHalted = true) : state.machine.AtRest ∧ state.machine.root = none := by
  obtain ⟨machine, control⟩ := state
  cases arrives with
  | halted failure atRest unset => exact ⟨atRest, unset⟩
  | passed running passage =>
    rw [halted] at running
    cases running

/-- A run goes on only with its scopes changed for a reason. -/
theorem Arrives.passage {state : State} (arrives : before.Arrives state.machine state.control)
    (running : state.isHalted = false) : before.Passage state.machine state.control.stakes := by
  obtain ⟨machine, control⟩ := state
  cases arrives with
  | halted failure atRest unset => cases running
  | passed running passage => exact passage

end State

end Scriptlet
