import Scriptlet.Proofs.Machine.Reported

/-! # Integers stay words over whole runs

At every moment of every run of a session in which printing is the only built-in function, each
integer that the run holds is a word: those bound in scopes, those that wait as operands and
arguments, those that are results of calls, and those that are printed.

Main definitions:

* `Stake.held`: the values that what is left to do holds.
* `State.Prints`: the next step passes arguments to be printed.
* `WordsOnly`: at a moment of a run, all integers are words.

Main statements: `Session.course_wordsOnly`. -/

namespace Scriptlet

/-- The values that are held: operands, arguments, functions about to be called, values at hand, and
results of calls on their way out. -/
def Stake.held : Stake → List Value
  | .holds values => values
  | .returns value => [value]
  | .resumes _ | .owns _ | .calls _ _ => []

/-- The next step passes arguments to be printed. -/
inductive State.Prints : State → List Value → Prop
  | lastArgument (machine : Machine) (value : Value) (line : Int) (finished : List Value)
      (scope : Handle) (next : Continuation .value) :
      Prints ⟨machine, .delivering value (.argument line (.builtin .print) finished [] scope next)⟩
        (value :: finished).reverse

/-- At a moment of a run, all integers are words. -/
structure WordsOnly (history : Nat → State) (now : Nat) : Prop where
  /-- An integer that is bound in a live scope. -/
  bound : ∀ handle ∈ (history now).machine.store.live, ∀ name integer,
    (name, .integer integer) ∈ ((history now).machine.store.scope handle).bindings →
    -2 ^ 63 ≤ integer ∧ integer ≤ 2 ^ 63 - 1
  /-- An integer that is at hand, waits as an operand or as an argument, or is the result of a
  call. -/
  held : ∀ integer, .integer integer ∈ (history now).control.stakes.flatMap Stake.held →
    -2 ^ 63 ≤ integer ∧ integer ≤ 2 ^ 63 - 1
  /-- An integer that is passed to be printed. -/
  printed : ∀ arguments, (history now).Prints arguments →
    (history (now + 1)).machine.printed =
        (arguments.head?.map Value.print).getD "" :: (history now).machine.printed ∧
      ∀ integer, .integer integer ∈ arguments → -2 ^ 63 ≤ integer ∧ integer ≤ 2 ^ 63 - 1

/-! ## What fits is held by words -/

/-- An integer that fits is within the bounds of a word. -/
theorem Value.Fits.bounds {integer : Int} (fits : (Value.integer integer).Fits) :
    -2 ^ 63 ≤ integer ∧ integer ≤ 2 ^ 63 - 1 :=
  ⟨fits.least, Int.le_sub_one_of_lt fits.greatest⟩

/-- The functions that are called fit, as all functions do. -/
theorem Callee.fits_of_mem {callee : Callee} {value : Value} (mem : value ∈ callee.values) :
    value.Fits := by
  cases callee with
  | builtin builtin => cases mem
  | declared closure =>
    rw [List.mem_singleton.mp mem]
    exact Value.fits_function closure

/-- The values that are held by what is left to do fit. -/
theorem Continuation.Fits.held {awaited : Awaited} {next : Continuation awaited}
    (fits : next.Fits) : ∀ value ∈ next.stakes.flatMap Stake.held, value.Fits := by
  induction next with
  | program => simp [Continuation.stakes, Stake.held]
  | rightOperand line operator left next ih =>
    intro value mem
    obtain rfl | later := List.mem_cons.mp mem
    · exact fits.1
    · exact ih fits.2 value later
  | argument line callee finished rest scope next ih =>
    intro value mem
    change value ∈ (callee.values ++ finished) ++ next.stakes.flatMap Stake.held at mem
    obtain here | later := List.mem_append.mp mem
    · obtain calls | passed := List.mem_append.mp here
      · exact Callee.fits_of_mem calls
      · exact fits.2.1 value passed
    · exact ih fits.2.2 value later
  -- All others hold no values of their own.
  | assigning | conjunction | disjunction | truth | leftOperand | operand | declaring | returning
  | branching | testing | stepping | discarding | sequence | leaving | starting | looping
  | calling =>
    rename_i ih
    exact ih fits

/-- The values that are held by what is being done fit. -/
theorem Control.Fits.held {control : Control} (fits : control.Fits) :
    ∀ value ∈ control.stakes.flatMap Stake.held, value.Fits := by
  cases control with
  | evaluating node scope next => exact Continuation.Fits.held fits
  | executing node scope next => exact Continuation.Fits.held fits
  | delivering value next =>
    intro other mem
    obtain rfl | later := List.mem_cons.mp mem
    · exact fits.1
    · exact Continuation.Fits.held fits.2 other later
  | completing completion next =>
    intro other mem
    rw [Control.stakes, List.flatMap_append] at mem
    obtain here | later := List.mem_append.mp mem
    · cases completion with
      | normal | broken | continued => cases here
      | returned value =>
        obtain rfl : other = value := by simpa [Completion.stakes, Stake.held] using here
        exact fits.1
    · exact Continuation.Fits.held fits.2 other later
  | unwinding failure next => exact Continuation.Fits.held fits.2
  | halted failure => exact fun value mem => absurd mem List.not_mem_nil

namespace State.Prints

variable {state : State} {arguments : List Value}

/-- The arguments that are printed are held. -/
theorem held (prints : state.Prints arguments) :
    ∀ value ∈ arguments, value ∈ state.control.stakes.flatMap Stake.held := by
  cases prints with
  | lastArgument machine value line finished scope next =>
    intro other mem
    rw [List.mem_reverse] at mem
    change other ∈ value :: (finished ++ next.stakes.flatMap Stake.held)
    obtain rfl | earlier := List.mem_cons.mp mem
    · exact List.mem_cons_self ..
    · exact List.mem_cons_of_mem _ (List.mem_append_left _ earlier)

/-- What is printed is the text of the first argument. -/
theorem printed_step (prints : state.Prints arguments) (settings : Settings) :
    (state.step settings).machine.printed =
      (arguments.head?.map Value.print).getD "" :: state.machine.printed := by
  cases prints with
  | lastArgument machine value line finished scope next =>
    show (_ :: Machine.printed (if line = 0 then machine else { machine with line })) = _
    split <;> rfl

end State.Prints

namespace Session

variable {session : Session}

/-- The values that earlier runs have left behind fit. -/
theorem Reached.fits (reached : session.Reached)
    (prints : session.settings.builtins = [.print]) : session.machine.store.Fits := by
  induction reached with
  | start settings releases => exact Machine.fits_initial
  | run reached steps body finished ih =>
    have ready := reached.ready
    rw [settings_run] at prints
    rw [machine_run]
    exact (Machine.course_fits ready.releases (by simp [prints]) ready.rest (ih prints) body
      steps).store

/-- Integers stay words: however many programs have been run in a session before, and whatever the
statements of the next one are, at every moment of its run each integer that is bound in a live
scope, that waits as an operand or an argument, that is the result of a call or that is printed is a
signed 64-bit word. -/
theorem course_wordsOnly (reached : session.Reached)
    (prints : session.settings.builtins = [.print]) (body : List Node) (now : Nat) :
    WordsOnly (session.machine.course session.settings body) now := by
  have ready := reached.ready
  obtain ⟨store, control⟩ := Machine.course_fits ready.releases (by simp [prints]) ready.rest
    (reached.fits prints) body now
  refine ⟨?_, ?_, ?_⟩
  · exact fun handle mem name integer bound => (store handle _ bound).bounds
  · exact fun integer mem => (control.held _ mem).bounds
  · intro arguments printing
    refine ⟨?_, ?_⟩
    · rw [Machine.course_succ]
      exact printing.printed_step session.settings
    · intro integer mem
      exact (control.held _ (printing.held _ mem)).bounds

/-- A program that computes with an integer that is no word, and prints the result of a function. -/
def largeProgram : List Node :=
  [.function 1 "square" ["x"]
    [.returning 2 (some (.binary 2 "*" (.reference 2 "x") (.reference 2 "x")))],
    .call 4 "print" [.call 4 "square" [.integer 4 (10 ^ 30 + 1)]]]

/-- The square of a large integer is printed as a word. -/
theorem largeProgram_wordsOnly :
    WordsOnly ((Session.start (settingsFor 0 none [])).machine.course (settingsFor 0 none [])
        largeProgram) 17 ∧
      ((Session.start (settingsFor 0 none [])).run 60 largeProgram).1.printed =
        ["-7139934028492177407"] := by
  refine ⟨course_wordsOnly (.start (settingsFor 0 none []) rfl) rfl largeProgram 17, ?_⟩
  rw [printed_run]
  decide +kernel

end Session

end Scriptlet
