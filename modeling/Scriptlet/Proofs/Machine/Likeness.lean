import Scriptlet.Proofs.Machine.Course

/-! # Machines that are alike

Of two runs, one releases scopes and the other keeps them all, and may have scopes that the first one
has not.  As long as their machines are alike, actions have results that belong together, and leave
machines that are alike again.  What it is to be alike can be chosen: it need not even be that the same
scopes have the same handles.

Main definitions:

* `Settings.keeping`: the same settings, but no scope is ever released.
* `Likeness`: what is asked of a relation between machines.
* `Action.Agree`: two actions have results that belong together or the same failure.
* `Action.Alike`: two actions agree on all machines that are alike.

Main statements: `Action.agree_bind` for actions that follow others, and one statement for each action
that does not depend on what the likeness is. -/

namespace Scriptlet

/-- The same settings, but no scope is ever released. -/
def Settings.keeping (settings : Settings) : Settings :=
  { settings with releases := false }

/-- Machines in a relation are alike: the first belongs to a run that releases scopes and the second to
one that keeps them, and the maps tell what scopes and values of the first are in the second. -/
class Likeness (related : Machine → Machine → Prop) (handle : outParam (Handle → Handle))
    (give : outParam (Value → Value)) : Prop where
  sound : ∀ {machine other}, related machine other → machine.store.Sound Value.scope?
  otherSound : ∀ {machine other}, related machine other → other.store.Sound Value.scope?
  line_eq : ∀ {machine other}, related machine other → other.line = machine.line
  depth_eq : ∀ {machine other}, related machine other → other.callDepth = machine.callDepth
  /-- A value that links to a live scope does so in the second machine too. -/
  links : ∀ {machine other value}, related machine other →
    (∀ target, value.scope? = some target → machine.store.IsLive target) →
    ∀ target, (give value).scope? = some target → other.store.IsLive target
  /-- A name is found in the same scope of both. -/
  find?_eq : ∀ {machine other scope name found}, related machine other →
    machine.store.IsLive scope → machine.store.find? name scope = .ok found →
    other.store.find? name (handle scope) = .ok (found.map handle)
  /-- The current line may change in both. -/
  withLine : ∀ {machine other}, related machine other → ∀ line,
    related { machine with line } { other with line }
  /-- Traces may change at will. -/
  withTraced : ∀ {machine other}, related machine other → ∀ traced otherTraced,
    related { machine with traced } { other with traced := otherTraced }
  /-- A call may end in both. -/
  withCalls : ∀ {machine other}, related machine other → ∀ callDepth frame,
    related { machine with callDepth, frame } { other with callDepth, frame := frame.map handle }
  /-- Different slots may be pinned. -/
  withPins : ∀ {machine other pins otherPins}, related machine other →
    (machine.store.withPins pins).Sound Value.scope? →
    (other.store.withPins otherPins).Sound Value.scope? →
    related { machine with store := machine.store.withPins pins }
      { other with store := other.store.withPins otherPins }
  /-- A name may be bound in both. -/
  bind : ∀ {machine other pins otherPins}, related machine other → ∀ scope name value,
    ((machine.store.withPins pins).bind scope name value).Sound Value.scope? →
    ((other.store.withPins otherPins).bind (handle scope) name (give value)).Sound Value.scope? →
    related { machine with store := (machine.store.withPins pins).bind scope name value }
      { other with store := (other.store.withPins otherPins).bind (handle scope) name (give value) }
  /-- The first machine may release the scope that it has to release next. -/
  release : ∀ {machine other stakes scope owners}, related machine other →
    machine.Orderly stakes → Stake.owned stakes = scope :: owners →
    related { machine with store := (machine.store.release scope).2 } other

namespace Action

variable {α β γ δ : Type} {related : Machine → Machine → Prop} {handle : Handle → Handle}
  {give : Value → Value} {machine other : Machine}

/-- Two actions have results that belong together or the same failure, on machines that are alike. -/
def Agree (related : Machine → Machine → Prop) (belong : α → β → Prop)
    (first : EStateM.Result Failure Machine α) (second : EStateM.Result Failure Machine β) : Prop :=
  match first, second with
  | .ok value machine, .ok otherValue other => belong value otherValue ∧ related machine other
  | .error failure machine, .error otherFailure other =>
    failure = otherFailure ∧ related machine other
  | _, _ => False

/-- Two actions agree on all machines that are alike. -/
def Alike (related : Machine → Machine → Prop) (belong : α → β → Prop) (first : Action α)
    (second : Action β) : Prop :=
  ∀ machine other, related machine other → Agree related belong (first machine) (second other)

variable {belong : α → γ → Prop} {belongAfter : β → δ → Prop}

/-! ## Actions that follow others -/

/-- Actions agree that have results that belong together. -/
theorem agree_of_eq_ok {first : Action α} {second : Action γ} {value : α} {otherValue : γ}
    {after otherAfter : Machine} (run : first machine = .ok value after)
    (otherRun : second other = .ok otherValue otherAfter) (together : belong value otherValue)
    (alike : related after otherAfter) :
    Agree related belong (first machine) (second other) := by
  rw [run, otherRun]
  exact ⟨together, alike⟩

/-- Other actions follow actions whose results are known. -/
theorem agree_bind_of_eq_ok {first : Action α} {second : Action γ} {following : α → Action β}
    {otherFollowing : γ → Action δ} {value : α} {otherValue : γ} {after otherAfter : Machine}
    (run : first machine = .ok value after) (otherRun : second other = .ok otherValue otherAfter)
    (agree : Agree related belongAfter (following value after)
      (otherFollowing otherValue otherAfter)) :
    Agree related belongAfter ((first >>= following) machine)
      ((second >>= otherFollowing) other) := by
  rw [bind_of_eq_ok run, bind_of_eq_ok otherRun]
  exact agree

/-- Other actions follow actions that agree; what the first of these yields may be used. -/
theorem agree_bind {first : Action α} {second : Action γ} {following : α → Action β}
    {otherFollowing : γ → Action δ} {normal : α → Machine → Prop}
    {failed : Failure → Machine → Prop} (yields : first.Yields machine normal failed)
    (agree : Agree related belong (first machine) (second other))
    (follows : ∀ value otherValue after otherAfter, belong value otherValue →
      related after otherAfter → normal value after →
      Agree related belongAfter (following value after) (otherFollowing otherValue otherAfter)) :
    Agree related belongAfter ((first >>= following) machine)
      ((second >>= otherFollowing) other) := by
  show Agree related belongAfter (EStateM.bind first following machine)
    (EStateM.bind second otherFollowing other)
  rw [EStateM.bind, EStateM.bind]
  rw [Yields] at yields
  generalize first machine = result at agree yields
  generalize second other = otherResult at agree
  cases result with
  | ok value after =>
    cases otherResult with
    | ok otherValue otherAfter =>
      exact follows value otherValue after otherAfter agree.1 agree.2 yields
    | error otherFailure otherAfter => exact agree.elim
  -- Neither goes on after a failure.
  | error failure after =>
    cases otherResult with
    | ok otherValue otherAfter => exact agree.elim
    | error otherFailure otherAfter => exact agree

/-- Other actions follow actions that agree, whatever these yield. -/
theorem agree_bind_any {first : Action α} {second : Action γ} {following : α → Action β}
    {otherFollowing : γ → Action δ} (agree : Agree related belong (first machine) (second other))
    (follows : ∀ value otherValue after otherAfter, belong value otherValue →
      related after otherAfter →
      Agree related belongAfter (following value after) (otherFollowing otherValue otherAfter)) :
    Agree related belongAfter ((first >>= following) machine)
      ((second >>= otherFollowing) other) := by
  have yields : first.Yields machine (fun _ _ => True) fun _ _ => True := by
    rw [Yields]
    split <;> trivial
  exact agree_bind yields agree fun value otherValue after otherAfter together alike _ =>
    follows value otherValue after otherAfter together alike

/-- The results of actions that agree are used in ways that belong together. -/
theorem agree_bind_pure {first : Action α} {second : Action γ} {use : α → β} {otherUse : γ → δ}
    (agree : Agree related belong (first machine) (second other))
    (together : ∀ value otherValue, belong value otherValue →
      belongAfter (use value) (otherUse otherValue)) :
    Agree related belongAfter ((first >>= fun value => pure (use value)) machine)
      ((second >>= fun value => pure (otherUse value)) other) :=
  agree_bind_any agree fun value otherValue _ _ before alike =>
    ⟨together value otherValue before, alike⟩

/-- Other actions follow quiet ones that agree. -/
theorem agree_bind_of_quiet {before : Machine} {first : Action α} {second : Action γ}
    {following : α → Action β} {otherFollowing : γ → Action δ} (quiet : first.Quiet)
    (agree : Alike related belong first second) (alike : related machine other)
    (same : before.SameScopes machine)
    (follows : ∀ value otherValue after otherAfter, belong value otherValue →
      related after otherAfter → before.SameScopes after →
      Agree related belongAfter (following value after) (otherFollowing otherValue otherAfter)) :
    Agree related belongAfter ((first >>= following) machine)
      ((second >>= otherFollowing) other) :=
  agree_bind (quiet machine) (agree machine other alike)
    fun value otherValue after otherAfter together alike still =>
      follows value otherValue after otherAfter together alike (same.trans still)

/-- What is done after actions that agree is to go on, or to unwind after the same failure. -/
theorem after_cases {awaited otherAwaited : Awaited} {next : Continuation awaited}
    {otherNext : Continuation otherAwaited} {belong : Control → Control → Prop}
    {first second : Action Control} (agree : Agree related belong (first machine) (second other)) :
    related (State.after machine next first).machine (State.after other otherNext second).machine ∧
      (belong (State.after machine next first).control
          (State.after other otherNext second).control ∨
        ∃ failure, (State.after machine next first).control = .unwinding failure next ∧
          (State.after other otherNext second).control = .unwinding failure otherNext) := by
  rw [State.after, State.after]
  generalize first machine = result at agree
  generalize second other = otherResult at agree
  cases result with
  | ok control after =>
    cases otherResult with
    | ok otherControl otherAfter => exact ⟨agree.2, Or.inl agree.1⟩
    | error otherFailure otherAfter => exact agree.elim
  | error failure after =>
    cases otherResult with
    | ok otherControl otherAfter => exact agree.elim
    | error otherFailure otherAfter =>
      obtain ⟨rfl, alike⟩ := agree
      exact ⟨alike, Or.inr ⟨failure, rfl, rfl⟩⟩

/-! ## Actions that leave scopes as they are -/

section

variable [likeness : Likeness related handle give]

include likeness

/-- An error is blamed on the same line of both. -/
theorem alike_fail (cause : Cause) : Alike related belong (fail cause) (fail cause) := by
  intro machine other alike
  refine ⟨?_, alike⟩
  rw [likeness.line_eq alike]

/-- A line becomes the current one of both. -/
theorem alike_setLine (line : Int) : Alike related Eq (setLine line) (setLine line) :=
  fun _ _ alike => ⟨rfl, likeness.withLine alike line⟩

/-- A line is marked in both. -/
theorem alike_mark (line : Int) : Alike related Eq (mark line) (mark line) := by
  intro machine other alike
  rw [mark_eq, mark_eq, Machine.markedLine, Machine.markedLine, likeness.line_eq alike]
  exact ⟨rfl, likeness.withLine alike _⟩

/-- Both have the same current line. -/
theorem alike_currentLine : Alike related Eq currentLine currentLine :=
  fun _ _ alike => ⟨(likeness.line_eq alike).symm, alike⟩

/-- Events that are told of at the same verbosity, and can both be told of or not, are recorded. -/
theorem alike_record (settings : Settings) {event otherEvent : Event}
    (level_eq : otherEvent.level = event.level)
    (isWritable_eq : otherEvent.isWritable = event.isWritable) :
    Alike related Eq (record settings event) (record settings.keeping otherEvent) := by
  intro machine other alike
  show Agree related Eq (record settings event machine) (record settings otherEvent other)
  rw [record, record, level_eq, isWritable_eq]
  split
  · split
    · exact ⟨rfl, likeness.withTraced alike _ _⟩
    · exact ⟨rfl, alike⟩
  · exact ⟨rfl, alike⟩

/-- Operators have results that belong together. -/
theorem alike_ofProblem {result otherResult : Except Operator.Problem Value}
    (same : otherResult = result.map give) :
    Alike related (fun value otherValue => otherValue = give value) (ofProblem result)
      (ofProblem otherResult) := by
  subst same
  match result with
  | .ok value => exact fun _ _ alike => ⟨rfl, alike⟩
  | .error (.error cause) => exact alike_fail cause
  | .error .tooLarge => exact fun _ _ alike => ⟨rfl, alike⟩

/-- The number of arguments is checked in both. -/
theorem alike_checkArity (name : String) (expected : Option Nat) (given : Nat) :
    Alike related Eq (checkArity name expected given) (checkArity name expected given) := by
  cases expected with
  | none => exact fun _ _ alike => ⟨rfl, alike⟩
  | some count =>
    rw [checkArity]
    split
    · exact fun _ _ alike => ⟨rfl, alike⟩
    · exact alike_fail _

/-- As many calls are active in both, so that both or none can be refused one more. -/
theorem alike_checkDepth (settings : Settings) (name : String) :
    Alike related Eq (checkDepth settings name) (checkDepth settings.keeping name) := by
  show Alike related Eq (checkDepth settings name) (checkDepth settings name)
  have room : Alike related Eq (checkDepth.checkRoom settings) (checkDepth.checkRoom settings) := by
    intro machine other alike
    rw [checkDepth.checkRoom, checkDepth.checkRoom, likeness.depth_eq alike]
    split
    · split
      · exact alike_fail _ machine other alike
      · exact ⟨rfl, alike⟩
    · exact ⟨rfl, alike⟩
  intro machine other alike
  rw [checkDepth, checkDepth, likeness.depth_eq alike]
  split
  · split
    · exact alike_fail _ machine other alike
    · exact room machine other alike
  · exact room machine other alike

/-! ## Names -/

/-- A name is bound in both; what was live in the first one stays live. -/
theorem exists_bind_alike {value : Value} (alike : related machine other) (scope : Handle)
    (name : String)
    (links : ∀ target, value.scope? = some target → machine.store.IsLive target) :
    ∃ store otherStore, bind scope name value machine = .ok () { machine with store } ∧
      bind (handle scope) name (give value) other = .ok () { other with store := otherStore } ∧
      related { machine with store } { other with store := otherStore } ∧
      ∀ handle, machine.store.IsLive handle → store.IsLive handle := by
  obtain ⟨store, run, sound, binds⟩ := exists_bind_eq scope name (likeness.sound alike) links
  obtain ⟨otherStore, otherRun, otherSound, otherBinds⟩ := exists_bind_eq (handle scope) name
    (likeness.otherSound alike) (likeness.links alike links)
  -- The two machines may pin different slots, which is no part of what they have in common.
  obtain ⟨pins, rfl⟩ := binds.exists_pins
  obtain ⟨otherPins, rfl⟩ := otherBinds.exists_pins
  refine ⟨_, _, run, otherRun, likeness.bind alike scope name value sound otherSound, ?_⟩
  exact fun handle live => Store.bind_isLive_iff.mpr live

/-- Parameters are bound in both. -/
theorem exists_bindParameters_alike {scope : Handle} (names : List String) (values : List Value)
    (alike : related machine other)
    (links : ∀ value ∈ values, ∀ target, value.scope? = some target →
      machine.store.IsLive target) :
    ∃ store otherStore, bindParameters scope names values machine = .ok () { machine with store } ∧
      bindParameters (handle scope) names (values.map give) other =
        .ok () { other with store := otherStore } ∧
      related { machine with store } { other with store := otherStore } := by
  induction names generalizing values machine other with
  | nil => exact ⟨_, _, rfl, rfl, alike⟩
  | cons name names inductionHypothesis =>
    cases values with
    | nil => exact ⟨_, _, rfl, rfl, alike⟩
    | cons value values =>
      obtain ⟨store, otherStore, run, otherRun, between, still⟩ :=
        exists_bind_alike alike scope name (links value (List.mem_cons_self ..))
      -- The other values still link to live scopes, since binding a name releases none.
      obtain ⟨last, otherLast, bound, otherBound, alike⟩ := inductionHypothesis values between
        fun later mem target link =>
          still target (links later (List.mem_cons_of_mem _ mem) target link)
      exact ⟨last, otherLast, (bind_of_eq_ok run).trans bound,
        (bind_of_eq_ok otherRun).trans otherBound, alike⟩

/-- A name is assigned in both. -/
theorem agree_assign {value : Value} {scope : Handle} (settings : Settings)
    (alike : related machine other) (live : machine.store.IsLive scope) (name : String)
    (links : ∀ target, value.scope? = some target → machine.store.IsLive target) :
    Agree related Eq (assign settings name value scope machine)
      (assign settings.keeping name (give value) (handle scope) other) := by
  have sound := likeness.sound alike
  obtain ⟨found, search, -⟩ := Store.exists_find?_eq_ok sound.tidy sound.rooted live name
  have otherSearch := likeness.find?_eq alike live search
  obtain ⟨store, otherStore, bound, otherBound, alike, -⟩ :=
    exists_bind_alike alike (found.getD scope) name links
  have run : query (·.find? name scope) machine = .ok found machine := by rw [query, search]
  have otherRun : query (·.find? name (handle scope)) other = .ok (found.map handle) other := by
    rw [query, otherSearch]
  have holder : (found.map handle).getD (handle scope) = handle (found.getD scope) := by
    cases found <;> rfl
  refine agree_bind_of_eq_ok run otherRun ?_
  rw [holder]
  exact agree_bind_of_eq_ok bound otherBound
    (alike_record settings (by rfl) (by rfl) _ _ alike)

/-! ## Ends of calls and of scopes -/

/-- The result of a call is kept in both. -/
theorem agree_keepResult {value : Value} (alike : related machine other)
    (links : ∀ target, value.scope? = some target → machine.store.IsLive target) :
    Agree related Eq (keepResult value machine) (keepResult (give value) other) := by
  obtain ⟨pins, run, sound⟩ := exists_keepResult_eq (likeness.sound alike) links
  obtain ⟨otherPins, otherRun, otherSound⟩ :=
    exists_keepResult_eq (likeness.otherSound alike) (likeness.links alike links)
  exact agree_of_eq_ok run otherRun rfl (likeness.withPins alike sound otherSound)

variable {settings : Settings} {stakes : List Stake} {scope otherScope : Handle}
  {owners : List Handle}

/-- A scope is left, which only the first run releases. -/
theorem agree_release (releases : settings.releases = true) (alike : related machine other)
    (orderly : machine.Orderly stakes) (top : Stake.owned stakes = scope :: owners) :
    Agree related Eq (failure? (release settings scope) machine)
      (failure? (release settings.keeping otherScope) other) := by
  have live := orderly.owned_isLive (top ▸ List.mem_cons_self ..)
  exact agree_of_eq_ok (failure?_eq (release_eq releases live)) (failure?_eq rfl) rfl
    (likeness.release alike orderly top)

/-- A call ends. -/
theorem agree_leaveCall {callerFrame otherFrame : Option Handle}
    (releases : settings.releases = true) (alike : related machine other)
    (orderly : machine.Orderly stakes) (top : Stake.owned stakes = scope :: owners)
    (frames : otherFrame = callerFrame.map handle) :
    Agree related Eq (failure? (leaveCall settings scope callerFrame) machine)
      (failure? (leaveCall settings.keeping otherScope otherFrame) other) := by
  subst frames
  have live := orderly.owned_isLive (top ▸ List.mem_cons_self ..)
  -- The other machine keeps its scopes, so that its own step only restores depth and frame.
  refine agree_of_eq_ok (failure?_eq (leaveCall_eq callerFrame releases live)) (failure?_eq rfl)
    rfl ?_
  have left := likeness.withCalls (likeness.release alike orderly top) (machine.callDepth - 1)
    callerFrame
  rw [← likeness.depth_eq alike] at left ⊢
  exact left

end

end Action

end Scriptlet
