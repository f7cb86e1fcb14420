import Scriptlet.Proofs.Machine.Transition

/-! # The course of a run

What holds of every state of a run follows from what a step does: the scopes are in order at the
start, and stay so.

Main definitions:

* `Machine.course`: the state of a run after a number of steps.
* `State.EndsWith`: a run is over after some more steps, with a failure and nothing more printed.
* `counterProgram`: a program in which a function escapes.

Main statements: `Machine.course_orderly`, `Machine.course_passage` and `Machine.course_persists`
say of every moment of a run, of every step of it, and of every two moments of it what happens to
the scopes.  `State.endsWith_unwinding`: a run that is on its way out with a failure ends with it. -/

namespace Scriptlet

open Stake (owned)
open Scriptlet.Action (bind_of_eq_ok failure?_eq release_eq leaveCall_eq)

/-- The state of a run after a number of steps. -/
def Machine.course (settings : Settings) (body : List Node) (machine : Machine) (steps : Nat) :
    State :=
  (State.start body machine).advance settings steps

namespace State

/-- A run that is over stays over. -/
theorem step_of_isHalted {settings : Settings} {state : State} (halted : state.isHalted = true) :
    state.step settings = state := by
  obtain ⟨machine, control⟩ := state
  cases control with
  | halted failure => rfl
  | evaluating | executing | delivering | completing | unwinding => cases halted

/-- A step keeps the scopes in order. -/
theorem step_orderly {settings : Settings} {state : State} (releases : settings.releases = true)
    (orderly : state.Orderly) : (state.step settings).Orderly := by
  cases halted : state.isHalted with
  | true =>
    rw [step_of_isHalted halted]
    exact orderly
  | false => exact (step_arrives releases orderly halted).orderly

/-- The last of a number of steps can be taken apart from the others. -/
theorem advance_succ (settings : Settings) (steps : Nat) (state : State) :
    state.advance settings (steps + 1) = (state.advance settings steps).step settings := by
  induction steps generalizing state with
  | zero =>
    show (if state.isHalted then state else state.step settings) = state.step settings
    split
    · rename_i halted
      rw [step_of_isHalted halted]
    · rfl
  | succ steps inductionHypothesis =>
    show (if state.isHalted then state else (state.step settings).advance settings (steps + 1)) =
      State.step settings
        (if state.isHalted then state else (state.step settings).advance settings steps)
    split
    · rename_i halted
      rw [step_of_isHalted halted]
    · exact inductionHypothesis (state.step settings)

/-- Steps and further ones are all of them, one after the other. -/
theorem advance_add (settings : Settings) (first second : Nat) (state : State) :
    state.advance settings (first + second) =
      (state.advance settings first).advance settings second := by
  induction second with
  | zero => rfl
  | succ second inductionHypothesis =>
    rw [← Nat.add_assoc, advance_succ, advance_succ, inductionHypothesis]

/-- A run that is over stays as it is. -/
theorem advance_of_isHalted {settings : Settings} {state : State} {earlier later : Nat}
    (ordered : earlier ≤ later) (halted : (state.advance settings earlier).isHalted = true) :
    state.advance settings later = state.advance settings earlier := by
  induction ordered with
  | refl => rfl
  | step ordered inductionHypothesis =>
    rw [advance_succ, inductionHypothesis, step_of_isHalted halted]

/-- What goes on was going on before. -/
theorem advance_running {settings : Settings} {state : State} {earlier later : Nat}
    (ordered : earlier ≤ later) (running : (state.advance settings later).isHalted = false) :
    (state.advance settings earlier).isHalted = false := by
  induction ordered with
  | refl => exact running
  | @step later ordered inductionHypothesis =>
    refine inductionHypothesis ?_
    cases halted : (state.advance settings later).isHalted with
    | false => rfl
    | true => rw [advance_succ, step_of_isHalted halted, halted] at running; cases running

/-- Steps keep the scopes in order. -/
theorem advance_orderly {settings : Settings} {state : State} (releases : settings.releases = true)
    (orderly : state.Orderly) (steps : Nat) : (state.advance settings steps).Orderly := by
  induction steps with
  | zero => exact orderly
  | succ steps inductionHypothesis =>
    rw [advance_succ]
    exact step_orderly releases inductionHypothesis

/-- Every step that does not end a run changes the scopes for a reason. -/
theorem advance_passage {settings : Settings} {state : State} (releases : settings.releases = true)
    (orderly : state.Orderly) {steps : Nat}
    (running : (state.advance settings (steps + 1)).isHalted = false) :
    (state.advance settings steps).Passage (state.advance settings (steps + 1)).machine
      (state.advance settings (steps + 1)).control.stakes := by
  have before := advance_running (Nat.le_succ steps) running
  rw [advance_succ] at running ⊢
  exact (step_arrives releases (advance_orderly releases orderly steps) before).passage running

/-- What is kept from one moment to a later one. -/
theorem advance_persists {settings : Settings} {state : State} (releases : settings.releases = true)
    (orderly : state.Orderly) {earlier later : Nat} (ordered : earlier ≤ later)
    (running : (state.advance settings later).isHalted = false) :
    (state.advance settings earlier).machine.store.Persists
      (state.advance settings later).machine.store := by
  induction ordered with
  | refl => exact .refl _
  | @step later ordered inductionHypothesis =>
    -- Only a run that is not over persists: its last step releases the pinned scopes as well.
    have before := inductionHypothesis (advance_running (Nat.le_succ later) running)
    have tidy := (advance_orderly releases orderly earlier).sound.tidy
    exact before.trans tidy (advance_passage releases orderly running).evolves.toPersists

/-- What comes of actions that follow others whose result is known. -/
theorem after_bind {α : Type} {machine : Machine} {awaited : Awaited}
    {fallback : Continuation awaited} {action : Action α} {following : α → Action Control}
    {value : α} {between : Machine} (run : action machine = .ok value between) :
    after machine fallback (action >>= following) = after between fallback (following value) := by
  rw [after, after, bind_of_eq_ok run]

/-! ## Unwinding -/

/-- A run is over after some more steps, with a failure and with nothing more printed. -/
def EndsWith (settings : Settings) (state : State) (failure : Failure) : Prop :=
  ∃ steps last, state.advance settings steps = ⟨last, .halted (some failure)⟩ ∧
    last.printed = state.machine.printed

/-- A part is unwound in one step. -/
theorem endsWith_of_step {settings : Settings} {machine : Machine} {failure : Failure}
    {awaited outer : Awaited} {next : Continuation awaited} {rest : Continuation outer}
    {after : Machine}
    (stepped : step settings ⟨machine, .unwinding failure next⟩ = ⟨after, .unwinding failure rest⟩)
    (printed : after.printed = machine.printed)
    (ends : EndsWith settings ⟨after, .unwinding failure rest⟩ failure) :
    EndsWith settings ⟨machine, .unwinding failure next⟩ failure := by
  obtain ⟨steps, last, halted, silent⟩ := ends
  refine ⟨steps + 1, last, ?_, silent.trans printed⟩
  show advance settings steps (step settings ⟨machine, .unwinding failure next⟩) = _
  rw [stepped, halted]

/-- A failure leaves all that is left to do, ends its calls and prints nothing. -/
theorem endsWith_unwinding {settings : Settings} {machine : Machine}
    (releases : settings.releases = true) (failure : Failure) {awaited : Awaited}
    {next : Continuation awaited} (orderly : machine.Orderly next.stakes) :
    EndsWith settings ⟨machine, .unwinding failure next⟩ failure := by
  -- The scopes stay in order, so none of the releases on the way fails.
  have arrived : State.Orderly (step settings ⟨machine, .unwinding failure next⟩) :=
    step_orderly releases orderly
  induction next generalizing machine with
  | program rest root => exact ⟨1, _, rfl, rfl⟩
  | leaving scope next ih =>
    have run := failure?_eq (release_eq releases (orderly.owned_isLive (List.mem_cons_self ..)))
    have stepped : step settings ⟨machine, .unwinding failure (.leaving scope next)⟩ =
      ⟨_, .unwinding failure next⟩ := after_bind run
    rw [stepped] at arrived
    exact endsWith_of_step stepped rfl (ih arrived (step_orderly releases arrived))
  | calling name scope callerFrame callerLine next ih =>
    have run := failure?_eq (leaveCall_eq callerFrame releases
      (orderly.owned_isLive (List.mem_cons_self ..)))
    have stepped : step settings
        ⟨machine, .unwinding failure (.calling name scope callerFrame callerLine next)⟩ =
      ⟨_, .unwinding failure next⟩ := after_bind run
    rw [stepped] at arrived
    exact endsWith_of_step stepped rfl (ih arrived (step_orderly releases arrived))
  | assigning | conjunction | disjunction | truth | leftOperand | rightOperand | operand | argument
  | declaring | returning | branching | testing | stepping | discarding | sequence | starting
  | looping =>
    rename_i ih
    exact endsWith_of_step rfl rfl (ih arrived (step_orderly releases arrived))

/-! ## Starts -/

/-- The scopes are in order when a run starts. -/
theorem start_orderly {machine : Machine} (rest : machine.AtRest) (body : List Node) :
    (start body machine).Orderly := by
  have created : (start body machine).machine.Orderly [.owns ⟨machine.store.scopes.size⟩] :=
    rest.orderly.create rfl (rest.orderly.sound.createRoot _) rfl trivial rest.frame_eq
      rest.depth_eq
  have root : (machine.store.createRoot Store.rootName).1 = ⟨machine.store.scopes.size⟩ := by
    rw [Store.createRoot, Store.create_fst]
  have stakes : (start body machine).control.stakes = [.resumes ⟨machine.store.scopes.size⟩,
      .owns ⟨machine.store.scopes.size⟩] := by
    rw [← root]
    rfl
  rw [Orderly, stakes]
  exact created.resume rfl

end State

namespace Machine

variable {settings : Settings} {body : List Node} {machine : Machine}

/-- A run is a step further after one step more. -/
theorem course_succ (steps : Nat) : machine.course settings body (steps + 1) =
    (machine.course settings body steps).step settings :=
  State.advance_succ settings steps _

/-- A run that is over stays as it is. -/
theorem course_of_isHalted {earlier later : Nat} (ordered : earlier ≤ later)
    (halted : (machine.course settings body earlier).isHalted = true) :
    machine.course settings body later = machine.course settings body earlier :=
  State.advance_of_isHalted ordered halted

/-- A run that has failed is over, with the failure. -/
theorem control_of_failed {state : State} {failure : Failure}
    (failed : state.outcome = .failed failure) : state.control = .halted (some failure) := by
  rw [State.outcome] at failed
  split at failed
  · cases failed
  · rename_i stopped halted
    cases failed
    exact halted
  · cases failed

/-- A run is finished when its outcome is known. -/
theorem isHalted_of_outcome {state : State} (finished : state.outcome ≠ .unfinished) :
    state.isHalted = true := by
  obtain ⟨machine, control⟩ := state
  cases control with
  | halted failure => rfl
  | evaluating | executing | delivering | completing | unwinding => exact absurd rfl finished

/-- A run has no more than one outcome. -/
theorem outcome_unique {first second : Nat} {outcome other : Outcome}
    (ends : (machine.course settings body first).outcome = outcome)
    (endsToo : (machine.course settings body second).outcome = other)
    (finished : outcome ≠ .unfinished) (finishedToo : other ≠ .unfinished) : outcome = other := by
  subst ends endsToo
  obtain ordered | ordered := Nat.le_total first second
  · rw [course_of_isHalted ordered (isHalted_of_outcome finished)]
  · rw [course_of_isHalted ordered (isHalted_of_outcome finishedToo)]

/-- Some steps of a run can be taken after the others. -/
theorem course_add (earlier steps : Nat) : machine.course settings body (earlier + steps) =
    (machine.course settings body earlier).advance settings steps :=
  State.advance_add ..

/-- A run that goes on was going on before. -/
theorem course_running {earlier later : Nat} (ordered : earlier ≤ later)
    (running : (machine.course settings body later).isHalted = false) :
    (machine.course settings body earlier).isHalted = false :=
  State.advance_running ordered running

/-- The scopes are in order at every moment of a run. -/
theorem course_orderly (releases : settings.releases = true) (rest : machine.AtRest)
    (body : List Node) (steps : Nat) : (machine.course settings body steps).Orderly :=
  State.advance_orderly releases (State.start_orderly rest body) steps

/-- A machine is at rest when a run is over, and has no outermost scope. -/
theorem course_atRest_and_root (releases : settings.releases = true) (rest : machine.AtRest)
    (body : List Node) {steps : Nat}
    (halted : (machine.course settings body steps).isHalted = true) :
    (machine.course settings body steps).machine.AtRest ∧
      (machine.course settings body steps).machine.root = none := by
  induction steps with
  | zero => cases halted
  | succ steps inductionHypothesis =>
    rw [course_succ] at halted ⊢
    cases before : (machine.course settings body steps).isHalted with
    | true =>
      rw [State.step_of_isHalted before]
      exact inductionHypothesis before
    | false =>
      exact (State.step_arrives releases (course_orderly releases rest body steps) before).atRest
        halted

/-- A machine is at rest when a run is over. -/
theorem course_atRest (releases : settings.releases = true) (rest : machine.AtRest)
    (body : List Node) {steps : Nat}
    (halted : (machine.course settings body steps).isHalted = true) :
    (machine.course settings body steps).machine.AtRest :=
  (course_atRest_and_root releases rest body halted).1

/-- A run that has live scopes is going on. -/
theorem course_running_of_isLive (releases : settings.releases = true) (rest : machine.AtRest)
    {steps : Nat} {handle : Handle}
    (live : (machine.course settings body steps).machine.store.IsLive handle) :
    (machine.course settings body steps).isHalted = false := by
  cases halted : (machine.course settings body steps).isHalted with
  | false => rfl
  | true =>
    -- The last step of a run clears the store.
    rw [← (course_atRest releases rest body halted).store_eq] at live
    exact absurd live Store.not_isLive_clear

/-- Every step of a run that does not end it changes the scopes for a reason. -/
theorem course_passage (releases : settings.releases = true) (rest : machine.AtRest)
    {steps : Nat} (running : (machine.course settings body (steps + 1)).isHalted = false) :
    (machine.course settings body steps).Passage (machine.course settings body (steps + 1)).machine
      (machine.course settings body (steps + 1)).control.stakes :=
  State.advance_passage releases (State.start_orderly rest body) running

/-- What is kept from one moment of a run to a later one. -/
theorem course_persists (releases : settings.releases = true) (rest : machine.AtRest)
    {earlier later : Nat} (ordered : earlier ≤ later)
    (running : (machine.course settings body later).isHalted = false) :
    (machine.course settings body earlier).machine.store.Persists
      (machine.course settings body later).machine.store :=
  State.advance_persists releases (State.start_orderly rest body) ordered running

end Machine

/-! ## A run with a function that escapes -/

/-- Settings in which printing is the only built-in function and nothing is traced. -/
def Settings.plain : Settings :=
  { verbosity := 0, depthLimit := some 10, room := none, builtins := [.print], releases := true }

/-- A program in which a function is returned from the call that it was declared in, counts in a
variable of that call, and is called after it. -/
def counterProgram : List Node :=
  [.function 1 "counter" []
    [.declaration 2 "count" (some (.integer 2 1)),
      .function 3 "next" []
        [.binary 4 "=" (.reference 4 "count") (.binary 4 "+" (.reference 4 "count") (.integer 4 1)),
          .returning 5 (some (.reference 5 "count"))],
      .returning 7 (some (.reference 7 "next"))],
    .declaration 9 "tick" (some (.call 9 "counter" [])),
    .call 10 "print" [.call 10 "tick" []]]

end Scriptlet
