import Mathlib.Algebra.Group.Int.Defs
import Scriptlet.Proofs.Machine.Origin
import Scriptlet.Proofs.Machine.Retelling

/-! # A limit on active calls only cuts runs short

A limit on the number of active calls is looked at by calls of declared functions and by nothing
else.  So a run with a limit is the run without one as far as the limit allows.  The first call
beyond it fails; then all that is left to do is unwound, which ends every call and prints nothing.

Main definitions:

* `Settings.withLimit`: the same settings with another limit, and with room for any number of calls.
* `Machine.CutShort`: how a run with a limit ends at the first call beyond it.

Main statements: `Machine.course_withLimit`. -/

namespace Scriptlet

/-- The same settings with another limit on active calls, and with room for any number of them. -/
def Settings.withLimit (settings : Settings) (limit : Option Int) : Settings :=
  { settings with depthLimit := limit, room := none }

namespace State

open Scriptlet.Action

variable {settings : Settings} {state : State} {line : Int} {closure : Closure}

/-- Which function is called does not depend on the limit. -/
theorem calls_withLimit_iff (limit : Option Int) :
    state.Calls (settings.withLimit limit) line closure ↔ state.Calls settings line closure := by
  constructor
  · rintro (⟨told, declared, finds, holds, fits⟩ | _)
    · exact .direct told declared finds holds fits
    · exact .passed
  · rintro (⟨told, declared, finds, holds, fits⟩ | _)
    · exact .direct told declared finds holds fits
    · exact .passed

/-! ## Steps without a call -/

/-- Arguments that no declared function is called with are passed at any limit alike. -/
theorem passArguments_withLimit {callee : Callee} {finished : List Value} {rest : List Node}
    {scope : Handle} {next : Continuation .value}
    (builtin : rest = [] → ∀ closure, callee ≠ .declared closure) (limit other : Option Int) :
    passArguments (settings.withLimit limit) line callee finished rest scope next =
      passArguments (settings.withLimit other) line callee finished rest scope next := by
  cases rest with
  | cons argument rest => rfl
  | nil =>
    cases callee with
    | builtin builtin => rfl
    | declared closure => exact absurd rfl (builtin rfl closure)

/-- A call that calls no declared function yet begins at any limit alike. -/
theorem beginCall_withLimit {machine between : Machine} {name : String} {arguments : List Node}
    {scope : Handle} {next : Continuation .value}
    (orderly : machine.Orderly (.resumes scope :: next.stakes))
    (uncalled : ∀ other closure,
      ¬Calls settings ⟨machine, .evaluating (.call line name arguments) scope next⟩ other closure)
    (told : (Event.evaluated (machine.markedLine line) "Call").Passes settings)
    (same : machine.SameScopes between) (limit other : Option Int) :
    beginCall (settings.withLimit limit) line name arguments scope next between =
      beginCall (settings.withLimit other) line name arguments scope next between := by
  have builtin?_eq : ∀ limit, (settings.withLimit limit).builtin? name = settings.builtin? name :=
    fun _ => rfl
  rw [beginCall, beginCall, builtin?_eq, builtin?_eq]
  cases declared : settings.builtin? name with
  | some builtin =>
    refine (quiet_checkArity _ _ _ between).bind_congr fun _ after _ => ?_
    rw [passArguments_withLimit (fun _ closure impossible => by cases impossible) limit other]
  | none =>
    have current := orderly.sameScopes same
    refine (lookup_yields current.sound current.isLive_of_resumes name).bind_congr ?_
    rintro value _ ⟨rfl, holder, -, finds, holds⟩
    cases value with
    | function closure =>
      rw [same.store_eq] at finds holds
      refine (checkArity_yields _ _ _ _).bind_congr ?_
      rintro _ _ ⟨rfl, fits⟩
      rw [passArguments_withLimit _ limit other]
      rintro rfl
      exact absurd (.direct told declared finds holds (List.length_eq_zero_iff.mp fits.symm))
        (uncalled line closure)
    | integer | float | text | undefined | builtin | null => rfl

/-- An expression that calls no declared function is evaluated at any limit alike. -/
theorem evaluate_withLimit {machine : Machine} {node : Node} {scope : Handle}
    {next : Continuation .value} (orderly : machine.Orderly (.resumes scope :: next.stakes))
    (uncalled : ∀ line closure, ¬Calls settings ⟨machine, .evaluating node scope next⟩ line closure)
    (limit other : Option Int) :
    evaluate (settings.withLimit limit) node scope next machine =
      evaluate (settings.withLimit other) node scope next machine := by
  have run := mark_eq node.line machine
  refine (bind_of_eq_ok run).trans (Eq.trans ?_ (bind_of_eq_ok run).symm)
  refine (bind_of_eq_ok rfl).trans (Eq.trans ?_ (bind_of_eq_ok rfl).symm)
  refine (record_yields settings _ _).bind_congr ?_
  rintro _ after ⟨told, still⟩
  have same : machine.SameScopes after := ⟨still.store_eq, still.frame_eq, still.depth_eq⟩
  split
  case h_11 => exact beginCall_withLimit orderly uncalled told same limit other
  all_goals rfl

/-- A step that calls no declared function does not depend on the limit. -/
theorem step_withLimit (orderly : state.Orderly)
    (uncalled : ∀ line closure, ¬state.Calls settings line closure) (limit other : Option Int) :
    state.step (settings.withLimit limit) = state.step (settings.withLimit other) := by
  obtain ⟨machine, control⟩ := state
  cases control with
  | evaluating node scope next =>
    show after _ _ (evaluate _ _ _ _) = after _ _ (evaluate _ _ _ _)
    rw [after, after, evaluate_withLimit orderly uncalled limit other]
  | delivering value next =>
    cases next with
    | argument line callee finished rest scope next =>
      show after _ _ (passArguments _ _ _ _ _ _ _) = after _ _ (passArguments _ _ _ _ _ _ _)
      rw [passArguments_withLimit _ limit other]
      rintro rfl closure rfl
      exact uncalled line closure .passed
    | _ => rfl
  | executing | completing | unwinding | halted => rfl

/-! ## Steps with a call -/

variable {machine : Machine} {arguments : List Value} {next : Continuation .value}

/-- What a step that calls a declared function comes down to: what is before the call leaves the
scopes as they are, prints nothing and makes the line of the call the current one. -/
structure ComesTo (settings : Settings) (state : State) (line : Int) (closure : Closure)
    (machine : Machine) (arguments : List Value) (fallback next : Continuation .value) : Prop where
  step_eq : ∀ limit, state.step (settings.withLimit limit) =
    after machine fallback (call (settings.withLimit limit) (.declared closure) arguments next)
  orderly : machine.Orderly (.holds (.function closure :: arguments) :: next.stakes)
  fallback_orderly : machine.Orderly fallback.stakes
  depth_eq : machine.callDepth = state.machine.callDepth
  printed_eq : machine.printed = state.machine.printed
  line_eq : line ≠ 0 → machine.line = line

/-- A state that calls a function comes to the check of the depth. -/
theorem Calls.exists_comesTo (calls : state.Calls settings line closure)
    (orderly : state.Orderly) : ∃ machine arguments fallback next,
      state.ComesTo settings line closure machine arguments fallback next := by
  -- A call without arguments comes to the check at once, any other with its last argument.
  cases calls with
  | @direct machine line name scope holder next closure passes declared finds holds fits =>
    have current : machine.Orderly (.resumes scope :: next.stakes) := orderly
    have run := mark_eq line machine
    obtain ⟨told, recorded, still, unprinted⟩ :=
      exists_tell_eq passes { machine with line := machine.markedLine line }
    have same : machine.SameScopes told := ⟨still.store_eq, still.frame_eq, still.depth_eq⟩
    have looked : lookup name scope told = .ok (.function closure) told :=
      lookup_eq (same.store_eq ▸ finds) (same.store_eq ▸ holds)
    have fitting : checkArity closure.name closure.parameters.length 0 told = .ok () told := by
      rw [fits]
      rfl
    obtain ⟨ready, marking, last, silent, line_eq⟩ := exists_mark_eq line told
    have same := same.trans last
    have kept : (Value.function closure).KeptBy machine.store.IsPermanent
        (Stake.owned next.stakes) := by
      have found := lookup_yields current.sound current.isLive_of_resumes name
      rw [Yields, lookup_eq finds holds] at found
      obtain ⟨-, _, holderLive, -, bound⟩ := found
      exact current.resumed.keptBy_of_bound holderLive (mem_of_lookup_eq_some bound)
    refine ⟨ready, [], next, next, ?_, (current.resumed.holdOne kept).sameScopes same,
      current.resumed.sameScopes same, same.depth_eq, silent.trans unprinted,
      line_eq⟩
    intro limit
    have declared' : (settings.withLimit limit).builtin? name = none := declared
    refine (after_bind run).trans ((after_bind rfl).trans ((after_bind recorded).trans ?_))
    show after told next (beginCall _ _ _ _ _ _) = _
    rw [beginCall, declared']
    exact (after_bind looked).trans ((after_bind fitting).trans (after_bind marking))
  | @passed machine value line closure finished scope next =>
    obtain ⟨marked, run, same, printed, line_eq⟩ := exists_mark_eq line machine
    have rest := orderly.held
    refine ⟨marked, (value :: finished).reverse,
      .argument line (.declared closure) finished [] scope next, next, ?_, ?_,
      rest.sameScopes same, same.depth_eq, printed, line_eq⟩
    · exact fun limit => after_bind run
    · refine (rest.resumed.held.hold ?_).sameScopes same
      intro other mem
      have calls : (Callee.declared closure).values = [.function closure] := rfl
      rw [← List.singleton_append, ← calls, Callee.mem_passed_iff] at mem
      exact orderly.keptBy_of_passed mem

/-- A call is refused if as many are active as the limit allows. -/
theorem call_tooDeep {limit : Int} (deep : limit ≤ machine.callDepth) :
    call (settings.withLimit (some limit)) (.declared closure) arguments next machine =
      .error (.ofError ⟨.tooDeep limit closure.name, machine.line⟩) machine := by
  have refused : checkDepth (settings.withLimit (some limit)) closure.name machine =
      .error (.ofError ⟨.tooDeep limit closure.name, machine.line⟩) machine := if_pos deep
  show EStateM.bind _ _ machine = _
  rw [EStateM.bind, refused]

/-- A call is not refused if fewer are active than the limit allows. -/
theorem call_withLimit {limit : Int} (allowed : (machine.callDepth : Int) < limit) :
    call (settings.withLimit (some limit)) (.declared closure) arguments next machine =
      call (settings.withLimit none) (.declared closure) arguments next machine := by
  have passed : checkDepth (settings.withLimit (some limit)) closure.name machine =
      .ok () machine := if_neg (Int.not_le.mpr allowed)
  exact (bind_of_eq_ok passed).trans (bind_of_eq_ok rfl).symm

/-- Without a limit a call becomes active. -/
theorem call_yields
    (orderly : machine.Orderly (.holds (.function closure :: arguments) :: next.stakes)) :
    (call (settings.withLimit none) (.declared closure) arguments next).Yields machine
      (fun _ after => after.callDepth = machine.callDepth + 1) fun _ _ => False := by
  obtain ⟨store, bound, -, -⟩ := exists_bindArguments_eq orderly
  obtain ⟨told, recorded, same⟩ := exists_record_eq settings
    (.called closure.name arguments (machine.callDepth + 1)) rfl { machine with store }
  have created := createChild_eq closure.scope closure.name machine
  refine yields_bind.mpr (yields_of_eq_ok rfl ?_)
  refine yields_bind.mpr (yields_of_eq_ok rfl ?_)
  refine yields_bind.mpr (yields_of_eq_ok created ?_)
  refine yields_bind.mpr (yields_of_eq_ok bound ?_)
  refine yields_bind.mpr (yields_of_eq_ok rfl ?_)
  refine yields_bind.mpr (yields_of_eq_ok recorded ?_)
  exact congrArg (· + 1) same.depth_eq

/-! ## Steps with a limit -/

/-- Without a limit a call becomes active. -/
theorem activeCalls_step_of_calls (releases : settings.releases = true) (orderly : state.Orderly)
    (calls : state.Calls settings line closure) :
    (state.step (settings.withLimit none)).activeCalls = state.activeCalls + 1 := by
  obtain ⟨machine, arguments, fallback, next, comes⟩ := calls.exists_comesTo orderly
  have after_orderly := @step_orderly (settings.withLimit none) state releases orderly
  rw [← after_orderly.callDepth_eq, ← orderly.callDepth_eq, comes.step_eq, ← comes.depth_eq, after]
  have yields := @call_yields settings closure machine arguments next comes.orderly
  rw [Yields] at yields
  split at yields
  · rename_i run
    rw [run]
    exact yields
  · exact absurd yields id

/-- A step is the same with and without a limit, unless it is a call beyond the limit. -/
theorem step_within {limit : Int} (orderly : state.Orderly)
    (within : ∀ line closure, state.Calls settings line closure →
      (state.activeCalls : Int) < limit) :
    state.step (settings.withLimit (some limit)) = state.step (settings.withLimit none) := by
  by_cases called : ∃ line closure, state.Calls settings line closure
  · obtain ⟨line, closure, calls⟩ := called
    obtain ⟨machine, arguments, fallback, next, comes⟩ := calls.exists_comesTo orderly
    have allowed : (machine.callDepth : Int) < limit := by
      rw [comes.depth_eq, orderly.callDepth_eq]
      exact within line closure calls
    rw [comes.step_eq, comes.step_eq, after, after, call_withLimit allowed]
  · refine step_withLimit orderly ?_ _ _
    exact fun line closure calls => called ⟨line, closure, calls⟩

/-- A call beyond the limit fails. -/
theorem exists_step_tooDeep {limit : Int} (orderly : state.Orderly)
    (calls : state.Calls settings line closure) (deep : limit ≤ state.activeCalls) :
    ∃ (machine : Machine) (fallback : Continuation .value),
      state.step (settings.withLimit (some limit)) = ⟨machine, .unwinding
        (.ofError ⟨.tooDeep limit closure.name, machine.line⟩) fallback⟩ ∧
      machine.Orderly fallback.stakes ∧ machine.callDepth = state.machine.callDepth ∧
      machine.printed = state.machine.printed ∧ (line ≠ 0 → machine.line = line) := by
  obtain ⟨machine, arguments, fallback, next, comes⟩ := calls.exists_comesTo orderly
  refine ⟨machine, fallback, ?_, comes.fallback_orderly, comes.depth_eq, comes.printed_eq,
    comes.line_eq⟩
  have full : limit ≤ machine.callDepth := by
    rw [comes.depth_eq, orderly.callDepth_eq]
    exact deep
  rw [comes.step_eq, after, call_tooDeep full]

end State

/-! ## Runs -/

namespace Machine

/-- At a moment of a run, a declared function is called for a call at a line: a call without
arguments that is being evaluated, or one whose last argument has its value now. -/
structure CallsAt (settings : Settings) (body : List Node) (machine : Machine) (moment : Nat)
    (line : Int) (closure : Closure) : Prop where
  calls : (machine.course settings body moment).Calls settings line closure
  node : ∃ name arguments scope next,
    (machine.course settings body moment).control =
        .evaluating (.call line name arguments) scope next ∨
      ∃ value inner, (machine.course settings body moment).control = .delivering value inner ∧
        inner.Stems (.call line name arguments) scope next ∧
        machine.Pending settings body moment (.call line name arguments) scope next

/-- How a run with a limit is cut short, compared with the run without one: at a moment, for a call
at a line, by a function. -/
structure CutShort (settings : Settings) (body : List Node) (machine : Machine) (limit : Int)
    (moment : Nat) (line : Int) (closure : Closure) : Prop where
  /-- The function is called at that moment. -/
  callsAt : machine.CallsAt (settings.withLimit none) body moment line closure
  /-- Until then there are no more active calls than the limit allows. -/
  within : ∀ earlier ≤ moment,
    ((machine.course (settings.withLimit none) body earlier).activeCalls : Int) ≤ max limit 0
  /-- There are as many as it allows when the function is called. -/
  full : ((machine.course (settings.withLimit none) body moment).activeCalls : Int) = max limit 0
  /-- There would be one more after that. -/
  beyond : ((machine.course (settings.withLimit none) body (moment + 1)).activeCalls : Int) =
    max limit 0 + 1
  /-- Until then the two runs are the same. -/
  same : ∀ earlier ≤ moment, machine.course (settings.withLimit (some limit)) body earlier =
    machine.course (settings.withLimit none) body earlier
  /-- The run with the limit ends with an error that names the limit and the function and is blamed
  on the line of the call; if the limit or that line is too long to be written, it ends in the attempt
  to write the report of that error. -/
  fails : ∃ error : Error, error.cause.kind = .range ∧
    error.cause.message = s!"maximum call depth of {limit} exceeded in {closure.name}" ∧
    (line ≠ 0 → error.line = line) ∧ ∃ ending, ∀ later, ending ≤ later →
      (machine.course (settings.withLimit (some limit)) body later).outcome = .failed
        (if Decimal.isWritable error.line && Decimal.isWritable limit then .error error
          else .unwritable)
  /-- From that moment on it prints nothing. -/
  silent : ∀ later, moment ≤ later →
    (machine.course (settings.withLimit (some limit)) body later).machine.printed =
      (machine.course (settings.withLimit none) body moment).machine.printed
  /-- What it has printed comes first in what the run without a limit prints. -/
  first : ∀ later, moment ≤ later →
    (machine.course (settings.withLimit none) body moment).machine.printed.reverse <+:
      (machine.course (settings.withLimit none) body later).machine.printed.reverse

variable {settings : Settings} {body : List Node} {machine : Machine} {limit : Int}

/-- A call in a run is one at a moment, with the calls around it. -/
theorem course_callsAt (releases : settings.releases = true) (rest : machine.AtRest) {moment : Nat}
    {line : Int} {closure : Closure}
    (calls : (machine.course settings body moment).Calls settings line closure) :
    machine.CallsAt settings body moment line closure := by
  refine ⟨calls, ?_⟩
  generalize now : machine.course settings body moment = state at calls
  cases calls with
  | @direct _ _ name scope _ next _ _ _ _ _ => exact ⟨name, [], scope, next, Or.inl rfl⟩
  | @passed _ value _ _ finished scope next =>
    have mem : ⟨.value, .argument line (.declared closure) finished [] scope next⟩ ∈
        (machine.course settings body moment).control.parts := by
      rw [now]
      exact List.mem_cons_self ..
    obtain ⟨node, around, after, stems, pending⟩ := course_pending releases rest mem rfl
    cases stems with
    | @argument _ _ name _ earlier _ awaited _ _ progress =>
      exact ⟨name, earlier ++ [awaited], scope, next,
        Or.inr ⟨value, _, rfl, .argument progress, pending⟩⟩

/-- The runs with and without a limit are the same as long as there is no call beyond it. -/
theorem course_same (releases : settings.releases = true) (rest : machine.AtRest) {steps : Nat}
    (within : ∀ earlier < steps, ∀ line closure,
      (machine.course (settings.withLimit none) body earlier).Calls settings line closure →
      ((machine.course (settings.withLimit none) body earlier).activeCalls : Int) < limit) :
    machine.course (settings.withLimit (some limit)) body steps =
      machine.course (settings.withLimit none) body steps := by
  induction steps with
  | zero => rfl
  | succ steps ih =>
    have orderly := @course_orderly (settings.withLimit none) machine releases rest body steps
    rw [course_succ, course_succ, ih fun earlier before => within earlier (by omega)]
    exact State.step_within orderly (within steps (Nat.lt_succ_self steps))

/-- In a run with a limit, there are never more active calls than it allows. -/
theorem course_activeCalls_le (releases : settings.releases = true) (rest : machine.AtRest)
    (steps : Nat) :
    ((machine.course (settings.withLimit (some limit)) body steps).activeCalls : Int) ≤
      max limit 0 := by
  induction steps with
  | zero =>
    exact Int.le_max_right limit 0
  | succ steps ih =>
    have orderly :=
      @course_orderly (settings.withLimit (some limit)) machine releases rest body steps
    rw [course_succ]
    generalize machine.course (settings.withLimit (some limit)) body steps = state at orderly ih
    -- Only a call adds to the active ones, and it is refused if as many are active as the limit
    -- allows.
    by_cases called : ∃ line closure, state.Calls settings line closure
    · obtain ⟨line, closure, calls⟩ := called
      by_cases deep : limit ≤ state.activeCalls
      · obtain ⟨after, fallback, stepped, unwound, depth_eq, -⟩ :=
          State.exists_step_tooDeep orderly calls deep
        have arrived : State.Orderly (state.step (settings.withLimit (some limit))) :=
          State.step_orderly releases orderly
        rw [← arrived.callDepth_eq, stepped, depth_eq, orderly.callDepth_eq]
        exact ih
      · rw [State.step_within orderly fun _ _ _ => Int.not_le.mp deep,
          State.activeCalls_step_of_calls releases orderly calls]
        omega
    · have step_le := @State.activeCalls_step_le (settings.withLimit (some limit)) state orderly
        fun line closure calls => called ⟨line, closure, (State.calls_withLimit_iff _).mp calls⟩
      omega

/-- The first moment after which there are more active calls than a bound. -/
theorem exists_first_beyond {bound : Int}
    (start : (machine.course settings body 0).activeCalls ≤ bound) {steps : Nat}
    (beyond : bound < (machine.course settings body steps).activeCalls) :
    ∃ moment,
      (∀ earlier ≤ moment, ((machine.course settings body earlier).activeCalls : Int) ≤ bound) ∧
      bound < (machine.course settings body (moment + 1)).activeCalls := by
  induction steps using Nat.strongRecOn with
  | ind steps ih =>
    by_cases sooner : ∃ earlier < steps, bound < (machine.course settings body earlier).activeCalls
    · obtain ⟨earlier, before, already⟩ := sooner
      exact ih earlier before already
    · cases steps with
      | zero => omega
      | succ moment =>
        refine ⟨moment, ?_, beyond⟩
        intro earlier upTo
        exact Int.not_lt.mp fun already => sooner ⟨earlier, Nat.lt_succ_of_le upTo, already⟩

/-- A run that is cut short by a call beyond the limit ends with the error of that call, or for want
of a report of it, and prints nothing after it. -/
theorem exists_ending (releases : settings.releases = true) (rest : machine.AtRest) {moment : Nat}
    {line : Int} {closure : Closure}
    (calls : (machine.course (settings.withLimit (some limit)) body moment).Calls settings line
      closure)
    (deep : limit ≤ (machine.course (settings.withLimit (some limit)) body moment).activeCalls) :
    ∃ error : Error, error.cause = .tooDeep limit closure.name ∧ (line ≠ 0 → error.line = line) ∧
      machine.Stops (settings.withLimit (some limit)) body moment (.ofError error) := by
  have orderly :=
    @course_orderly (settings.withLimit (some limit)) machine releases rest body moment
  obtain ⟨after, fallback, stepped, -, -, printed, line_eq⟩ :=
    State.exists_step_tooDeep orderly calls deep
  rw [← course_succ] at stepped
  exact ⟨⟨.tooDeep limit closure.name, after.line⟩, rfl, line_eq,
    @stops_of_unwinding (settings.withLimit (some limit)) body machine releases rest _ _ _ _ _
      stepped printed⟩

/-- A run that has more active calls than a limit allows is cut short by the limit at the first call
beyond it. -/
theorem exists_cutShort (releases : settings.releases = true) (rest : machine.AtRest) {steps : Nat}
    (exceeds : max limit 0 < (machine.course (settings.withLimit none) body steps).activeCalls) :
    ∃ moment line closure, machine.CutShort settings body limit moment line closure := by
  have orderly := @course_orderly (settings.withLimit none) machine releases rest body
  obtain ⟨moment, within, beyond⟩ := exists_first_beyond (Int.le_max_right limit 0) exceeds
  -- A call is what makes more calls active, and one call makes one more active.
  have called : ∃ line closure,
      (machine.course (settings.withLimit none) body moment).Calls settings line closure := by
    refine Classical.byContradiction fun uncalled => ?_
    have step_le := @State.activeCalls_step_le (settings.withLimit none) _ (orderly moment)
      fun line closure calls => uncalled ⟨line, closure, (State.calls_withLimit_iff _).mp calls⟩
    rw [← course_succ] at step_le
    have upTo := within moment (Nat.le_refl moment)
    omega
  have one_more : ∀ {earlier line closure},
      (machine.course (settings.withLimit none) body earlier).Calls settings line closure →
      (machine.course (settings.withLimit none) body (earlier + 1)).activeCalls =
        (machine.course (settings.withLimit none) body earlier).activeCalls + 1 := by
    intro earlier line closure calls
    rw [course_succ]
    exact State.activeCalls_step_of_calls releases (orderly earlier) calls
  obtain ⟨line, closure, calls⟩ := called
  have upTo := within moment (Nat.le_refl moment)
  have more := one_more calls
  have full : ((machine.course (settings.withLimit none) body moment).activeCalls : Int) =
      max limit 0 := by omega
  have same : ∀ earlier ≤ moment, machine.course (settings.withLimit (some limit)) body earlier =
      machine.course (settings.withLimit none) body earlier := by
    intro earlier ordered
    refine course_same releases rest fun sooner before line closure calls => ?_
    have next_within := within (sooner + 1) (by omega)
    have more := one_more calls
    omega
  have here := same moment (Nat.le_refl moment)
  obtain ⟨error, cause_eq, line_eq, stops⟩ :=
    @exists_ending settings body machine limit releases rest moment line closure
      (by rw [here]; exact calls) (by rw [here]; omega)
  refine ⟨moment, line, closure, ?_, within, full, by omega, same, ?_, ?_, ?_⟩
  · exact @course_callsAt (settings.withLimit none) body machine releases rest moment line closure
      ((State.calls_withLimit_iff none).mpr calls)
  · obtain ⟨ending, ends⟩ := stops.ends
    refine ⟨error, ?_, ?_, line_eq, ending, fun later after => ?_⟩
    · rw [cause_eq]
      rfl
    · rw [cause_eq]
      rfl
    · rw [ends later after, Failure.ofError, Error.isWritable, cause_eq, Cause.isWritable]
  · intro later ordered
    rw [stops.silent later ordered, here]
  · exact fun later ordered => List.reverse_prefix.mpr (course_printed_suffix ordered)

/-- A limit on active calls only cuts runs short.  In a run with a limit there are never more active
calls than it allows.  If there never are without it either, the runs with and without it are the
same; else the run with it is cut short at the first call beyond it. -/
theorem course_withLimit (settings : Settings) (releases : settings.releases = true)
    (rest : machine.AtRest) (body : List Node) (limit : Int) :
    let free := machine.course (settings.withLimit none) body
    let limited := machine.course (settings.withLimit (some limit)) body
    (∀ steps, ((limited steps).activeCalls : Int) ≤ max limit 0) ∧
      ((∀ steps, ((free steps).activeCalls : Int) ≤ max limit 0) →
        ∀ steps, limited steps = free steps) ∧
      ((∃ steps, max limit 0 < ((free steps).activeCalls : Int)) →
        ∃ moment line closure, machine.CutShort settings body limit moment line closure) := by
  intro free limited
  refine ⟨course_activeCalls_le releases rest, ?_, ?_⟩
  · intro within steps
    refine course_same releases rest fun earlier before line closure calls => ?_
    have orderly := @course_orderly (settings.withLimit none) machine releases rest body earlier
    have more := State.activeCalls_step_of_calls releases orderly calls
    have allowed := within (earlier + 1)
    rw [show free (earlier + 1) = _ from course_succ earlier, more] at allowed
    omega
  · rintro ⟨steps, exceeds⟩
    exact exists_cutShort releases rest exceeds

/-- A program that calls a function which prints its argument and calls itself without an end. -/
def descendingProgram : List Node :=
  [.function 1 "descend" ["depth"]
    [.call 2 "print" [.reference 2 "depth"],
      .call 3 "descend" [.binary 3 "+" (.reference 3 "depth") (.integer 3 1)]],
    .call 5 "descend" [.integer 5 1]]

/-- With a limit of two active calls, the endless descent is cut short at the third call. -/
theorem descendingProgram_withLimit :
    (∃ moment line closure,
      Machine.initial.CutShort .plain descendingProgram 2 moment line closure) ∧
      (Machine.initial.course (Settings.plain.withLimit (some 2)) descendingProgram 60).outcome =
        .failed (.error ⟨.tooDeep 2 "descend", 3⟩) ∧
      (Machine.initial.course (Settings.plain.withLimit (some 2)) descendingProgram
        60).machine.printed.reverse = ["1", "2"] := by
  have beyond : max 2 0 < ((Machine.initial.course (Settings.plain.withLimit none)
      descendingProgram 60).activeCalls : Int) := by decide +kernel
  obtain ⟨-, -, cut⟩ := course_withLimit .plain rfl atRest_initial descendingProgram 2
  refine ⟨cut ⟨60, beyond⟩, ?_, ?_⟩
  · decide +kernel
  · decide +kernel

/-- A number with so many digits that it cannot be written. -/
def unwritableNumber : Int :=
  10 ^ Decimal.digitLimit

/-- A program that declares a function and calls it, on a line. -/
def callingProgram (line : Int) : List Node :=
  [.function 1 "f" [] [.returning 1 (some (.integer 1 1))], .call line "f" []]

/-- A limit cuts the program short, but no error tells of it: the run without a limit has more calls
active, and the one with the limit fails in the attempt to write the error's report. -/
def CutSilently (limit line : Int) : Prop :=
  (∃ steps, max limit 0 < ((Machine.initial.course (Settings.plain.withLimit none)
    (callingProgram line) steps).activeCalls : Int)) ∧
  (∃ ending, (Machine.initial.course (Settings.plain.withLimit (some limit))
    (callingProgram line) ending).outcome = .failed .unwritable) ∧
  ∀ steps error, (Machine.initial.course (Settings.plain.withLimit (some limit))
    (callingProgram line) steps).outcome ≠ .failed (.error error)

/-- The program is cut short silently if its call becomes active without a limit, and fails with it. -/
theorem cutSilently_of {limit line : Int}
    (calls : max limit 0 < ((Machine.initial.course (Settings.plain.withLimit none)
      (callingProgram line) 8).activeCalls : Int))
    (ends : (Machine.initial.course (Settings.plain.withLimit (some limit))
      (callingProgram line) 20).outcome = .failed .unwritable) : CutSilently limit line := by
  refine ⟨⟨8, calls⟩, ⟨20, ends⟩, fun steps error reported => ?_⟩
  -- A run has one end, and this one is no error.
  cases outcome_unique ends reported (by simp) (by simp)

/-- A limit that allows no call lets no error tell of it, if the limit itself or the line of the call
cannot be written. -/
theorem callingProgram_unreported :
    CutSilently (-unwritableNumber) 1 ∧ CutSilently 0 unwritableNumber :=
  ⟨cutSilently_of (by decide +kernel) (by decide +kernel),
    cutSilently_of (by decide +kernel) (by decide +kernel)⟩

end Machine

end Scriptlet
