import Scriptlet.Proofs.Machine.Limit
import Scriptlet.Proofs.Machine.Parallel

/-! # Loops that test first

A loop with a condition can be written with `while` or with `for`, without a start and a step.  The
second one has a scope of its own around the scopes of its rounds, in which its condition is
evaluated.  If the condition assigns nothing, that scope stays empty, and nothing tells the loops
apart: they print the same lines, end in the same way, and leave the same values.  A function that was
declared in a round sees the same names, one scope further inside.

Main definitions:

* `State.EndsAfter`: a statement ends after a number of steps, and not before.
* `SameEnd`: how two executions of a statement end, one of which had an extra scope.
* `SameExecution`: two executions of a statement are the same but for an extra scope.

Main statement: `Machine.course_sameExecution`, for every statement that any run comes to. -/

namespace Scriptlet

/-- A statement has ended after a number of steps, and not before; what is left to do after it is
given. -/
structure State.EndsAfter (settings : Settings) (next : Continuation .completion) (state : State)
    (steps : Nat) : Prop where
  ends : (state.advance settings steps).control.Ends next
  lasts : ∀ earlier < steps, ¬(state.advance settings earlier).control.Ends next

/-- Two executions of a statement have ended in the same way: both complete, with the same result if
there is one, or both fail with the same failure. -/
inductive EndAlike (detour : Detour) (next : Continuation .completion) : Control → Control → Prop
  | completing (completion : Completion) : EndAlike detour next (.completing completion next)
      (.completing (detour.completion completion) next)
  | unwinding (failure : Failure) :
      EndAlike detour next (.unwinding failure next) (.unwinding failure next)

/-- What ends like another ends. -/
theorem EndAlike.ends {detour : Detour} {next : Continuation .completion} {control other : Control}
    (alike : EndAlike detour next control other) : other.Ends next := by
  cases alike with
  | completing completion => exact .completing _ next
  | unwinding failure => exact .unwinding failure next

/-- Two executions of a statement have ended in the same way, the second of which had an extra scope:
no binding is left in that scope, and it is only in the way that leads outward from functions. -/
structure SameEnd (detour : Detour) (next : Continuation .completion) (given : Store Value)
    (first second : State) : Prop where
  control : EndAlike detour next first.control second.control
  printed_eq : second.machine.printed = first.machine.printed
  line_eq : second.machine.line = first.machine.line
  callDepth_eq : second.machine.callDepth = first.machine.callDepth
  functions_eq : second.machine.functions = first.machine.functions
  /-- What was live before is live after both, with the same bindings. -/
  kept : ∀ handle, given.IsLive handle →
    first.machine.store.IsLive handle ∧ second.machine.store.IsLive handle ∧
      (second.machine.store.scope handle).bindings =
        (first.machine.store.scope handle).bindings.map
          fun binding => (binding.1, detour.value binding.2)
  /-- All that can be reached from what was live before is live after both. -/
  reached : ∀ origin handle, given.IsLive origin →
    first.machine.store.Reaches Value.scope? origin handle →
    first.machine.store.IsLive handle ∧ second.machine.store.IsLive (detour.handle handle)
  /-- What is live after both has the same bindings and the same parent, or the extra scope in
  between; that scope is empty. -/
  shares : Store.Shares detour detour.value first.machine.store second.machine.store

/-- Two executions of a statement are the same but for an extra scope in the second one, which takes
one more step to leave it. -/
structure SameExecution (settings : Settings) (detour : Detour) (next : Continuation .completion)
    (first second : State) : Prop where
  /-- The first one ends exactly if the second one does, one step later. -/
  endsAfter_iff : ∀ steps, first.EndsAfter settings next steps ↔
    second.EndsAfter settings next (steps + 1)
  not_endsAfter_zero : ¬second.EndsAfter settings next 0
  /-- Both print the same, whether or not they end. -/
  printed_eq : ∀ steps, (∀ earlier < steps, ¬(first.advance settings earlier).control.Ends next) →
    (second.advance settings steps).machine.printed =
      (first.advance settings steps).machine.printed
  /-- Nothing is ever bound in the extra scope. -/
  extra_bindings : ∀ steps,
    (∀ earlier < steps, ¬(first.advance settings earlier).control.Ends next) →
    ((second.advance settings steps).machine.store.scope detour.extra).bindings = []
  /-- Both end in the same way. -/
  sameEnd : ∀ steps, first.EndsAfter settings next steps →
    SameEnd detour next first.machine.store (first.advance settings steps)
      (second.advance settings (steps + 1))

namespace Detour

open Scriptlet.Action Scriptlet.State

variable {settings : Settings} {detour : Detour} {next : Continuation .completion}
  {given : Machine} {line : Int} {condition : Node} {body : List Node}

/-- The machines before and after the creation of a scope are the same but for that scope. -/
theorem detours_createChild {stakes : List Stake} {name : Option String} {machine : Machine}
    (orderly : machine.Orderly stakes) (live : machine.store.IsLive detour.around)
    (extra : detour.extra = ⟨machine.store.scopes.size⟩) :
    machine.Detours detour
      { machine with store := (machine.store.createChild detour.around name).2 } where
  sound := orderly.sound
  otherSound := orderly.sound.createChild live
  stores := by
    refine Store.detours_createChild orderly.sound live extra ?_
    -- What is bound so far links to scopes that were created before the extra one.
    rintro handle ⟨key, value⟩ holds mem
    refine value_of_lt fun target link => ?_
    rw [extra]
    exact orderly.sound.tidy.index_lt (orderly.sound.bound_isLive holds mem link)
  line_eq := rfl
  depth_eq := rfl
  frame_eq := by
    cases frame : machine.frame with
    | none => rfl
    | some scope =>
      have owned := Stake.mem_owned_of_frame? (orderly.frame_eq.symm.trans frame)
      rw [Option.map_some, handle_of_lt]
      rw [extra]
      exact orderly.sound.tidy.index_lt (orderly.owned_isLive owned)
  functions_eq := rfl
  printed_eq := rfl

/-- The first step of both loops leads to the condition. -/
theorem accompanies_step
    (orderly : given.Orderly (.resumes detour.around :: next.stakes))
    (extra : detour.extra = ⟨given.store.scopes.size⟩) (absent : condition.assigns = false) :
    detour.Accompanies next
      (step settings ⟨given, .executing (.whileLoop line condition body) detour.around next⟩)
      (step settings.keeping
        ⟨given, .executing (.forLoop line none (some condition) none body) detour.around next⟩) := by
  obtain ⟨marked, run, same, -⟩ := exists_mark_eq line given
  have order := orderly.sameScopes same
  rw [← same.store_eq] at extra
  -- After the mark the `while` loop is at its condition, and the `for` loop once its scope is
  -- there.
  have first : step settings
      ⟨given, .executing (.whileLoop line condition body) detour.around next⟩ =
        ⟨marked, .evaluating condition detour.around (.testing condition.line
          ⟨"while", some condition, none, body, detour.around⟩ next)⟩ := by
    show after given next (mark line >>= fun _ =>
      test ⟨"while", some condition, none, body, detour.around⟩ next) = _
    rw [after_bind run]
    rfl
  have second : step settings.keeping
      ⟨given, .executing (.forLoop line none (some condition) none body) detour.around next⟩ =
        ⟨{ marked with store := (marked.store.createChild detour.around (some "for")).2 },
          .evaluating condition detour.extra (.testing condition.line
            ⟨"for-body", some condition, none, body, detour.extra⟩ (.leaving detour.extra next))⟩ := by
    show after given next (mark line >>= fun _ =>
      beginFor none (some condition) none body detour.around next) = _
    rw [after_bind run, beginFor, after_bind (createChild_eq detour.around "for" marked), ← extra]
    rfl
  -- The extra scope holds no name, as the condition binds none.
  have loops : detour.Loops ⟨"while", some condition, none, body, detour.around⟩
      ⟨"for-body", some condition, none, body, detour.extra⟩ := by
    refine ⟨rfl, rfl, rfl, .inside ?_⟩
    simp [Loop.assigns, absent]
  rw [first, second]
  exact ⟨detours_createChild order order.isLive_of_resumes extra,
    .evaluating (.inside absent) (.testing condition.line loops .last)⟩

/-- When the first run has ended the statement, the second one ends it with its next step, in the same
way. -/
theorem ends_step {state other : State} (accompanies : detour.Accompanies next state other)
    (ends : state.control.Ends next) :
    state.machine.Detours detour (other.step settings.keeping).machine ∧
      EndAlike detour next state.control (other.step settings.keeping).control := by
  obtain ⟨machine, control⟩ := state
  obtain ⟨otherMachine, otherControl⟩ := other
  obtain ⟨machines, proceeds⟩ := accompanies
  obtain ⟨completion, rfl, rfl⟩ | ⟨failure, rfl, rfl⟩ := proceeds.cases_of_ends ends
  · exact ⟨machines, .completing completion⟩
  · exact ⟨machines, .unwinding failure⟩

end Detour

namespace State

variable {settings : Settings} {next : Continuation .completion}

/-- A statement ends once. -/
theorem EndsAfter.unique {state : State} {steps others : Nat}
    (first : state.EndsAfter settings next steps) (second : state.EndsAfter settings next others) :
    steps = others := by
  obtain before | same | after := Nat.lt_trichotomy steps others
  · exact absurd first.ends (second.lasts steps before)
  · exact same
  · exact absurd second.ends (first.lasts others after)

end State

/-! ## Two executions -/

/-- What begins has not ended. -/
theorem Control.Begins.not_ends {control : Control} {awaited : Awaited}
    {next : Continuation awaited} (begins : control.Begins next) : ¬control.Ends next := by
  intro ends
  cases begins <;> cases ends

namespace State

variable {settings : Settings} {next : Continuation .completion} {state : State}

/-- The first of a number of steps can be taken apart from the others. -/
theorem advance_succ_of_begins (begins : state.control.Begins next) (settings : Settings)
    (steps : Nat) :
    state.advance settings (steps + 1) = (state.step settings).advance settings steps := by
  obtain ⟨machine, control⟩ := state
  cases begins
  rfl

/-- A statement that has ended did so for the first time at some moment. -/
theorem exists_endsAfter {steps : Nat} (ends : (state.advance settings steps).control.Ends next) :
    ∃ first ≤ steps, state.EndsAfter settings next first := by
  induction steps using Nat.strongRecOn with
  | ind steps inductionHypothesis =>
    by_cases lasts : ∀ earlier < steps, ¬(state.advance settings earlier).control.Ends next
    · exact ⟨steps, Nat.le_refl steps, ends, lasts⟩
    · simp only [Classical.not_forall, Classical.not_not] at lasts
      obtain ⟨earlier, before, ended⟩ := lasts
      obtain ⟨first, ordered, endsAfter⟩ := inductionHypothesis earlier before ended
      exact ⟨first, Nat.le_trans ordered (Nat.le_of_lt before), endsAfter⟩

end State

/-- Two executions of a statement begin on one machine, and their first steps lead to states that are
the same but for an extra scope. -/
structure Detour.Starts (settings : Settings) (detour : Detour) (next : Continuation .completion)
    (first second : State) : Prop where
  begins : first.control.Begins next
  otherBegins : second.control.Begins next
  orderly : first.Orderly
  otherOrderly : second.Orderly
  machine_eq : second.machine = first.machine
  /-- The extra scope has not been created yet. -/
  size_le : first.machine.store.scopes.size ≤ detour.extra.index
  accompanies : detour.Accompanies next (first.step settings) (second.step settings.keeping)

namespace Detour.Starts

open Scriptlet.State

variable {settings : Settings} {detour : Detour} {next : Continuation .completion}
  {first second : State} (starts : detour.Starts settings next first second)
include starts

/-- Two executions stay the same but for an extra scope, as long as the first one has not ended. -/
theorem accompanies_advance (releases : settings.releases = true) {steps : Nat}
    (lasts : ∀ earlier < steps + 1, ¬(first.advance settings earlier).control.Ends next) :
    detour.Accompanies next (first.advance settings (steps + 1))
      (second.advance settings.keeping (steps + 1)) := by
  rw [advance_succ_of_begins starts.begins, advance_succ_of_begins starts.otherBegins]
  refine advance_accompanies releases (step_orderly releases starts.orderly) starts.accompanies ?_
  intro earlier before
  rw [← advance_succ_of_begins starts.begins]
  exact lasts (earlier + 1) (Nat.succ_lt_succ before)

/-- It makes no difference to the second execution whether scopes are released. -/
theorem twin (releases : settings.releases = true) (steps : Nat) :
    (second.advance settings steps).Twin (second.advance settings.keeping steps) :=
  advance_twin releases starts.otherOrderly ⟨.refl starts.otherOrderly.sound, rfl⟩ steps

/-- The second execution lasts as long as the first one, and a step longer. -/
theorem not_ends_second (releases : settings.releases = true) {steps : Nat}
    (lasts : ∀ earlier < steps, ¬(first.advance settings earlier).control.Ends next) :
    ¬(second.advance settings steps).control.Ends next := by
  cases steps with
  | zero => exact starts.otherBegins.not_ends
  | succ steps =>
    rw [(starts.twin releases (steps + 1)).2]
    exact (starts.accompanies_advance releases lasts).controls.not_ends

/-- When the first execution ends, so does the second one with its next step, in the same way. -/
theorem ends_second (releases : settings.releases = true) {steps : Nat}
    (endsAfter : first.EndsAfter settings next steps) :
    (first.advance settings steps).machine.Detours detour
        (second.advance settings.keeping (steps + 1)).machine ∧
      EndAlike detour next (first.advance settings steps).control
        (second.advance settings (steps + 1)).control := by
  obtain ⟨ends, lasts⟩ := endsAfter
  cases steps with
  | zero => exact absurd ends starts.begins.not_ends
  | succ steps =>
    rw [(starts.twin releases (steps + 2)).2, advance_succ settings.keeping (steps + 1)]
    exact ends_step (starts.accompanies_advance releases lasts) ends

/-- When the first execution has ended, so has the second one a step later, and not before. -/
theorem endsAfter_second (releases : settings.releases = true) {steps : Nat}
    (endsAfter : first.EndsAfter settings next steps) :
    second.EndsAfter settings next (steps + 1) where
  ends := (starts.ends_second releases endsAfter).2.ends
  lasts := by
    intro earlier before
    refine starts.not_ends_second releases fun moment lower => endsAfter.lasts moment ?_
    exact Nat.lt_of_lt_of_le lower (Nat.le_of_lt_succ before)

/-- The second execution ends only if the first one did a step before. -/
theorem endsAfter_first (releases : settings.releases = true) {steps : Nat}
    (endsAfter : second.EndsAfter settings next (steps + 1)) :
    first.EndsAfter settings next steps := by
  by_cases lasts : ∀ earlier < steps + 1, ¬(first.advance settings earlier).control.Ends next
  · exact absurd endsAfter.ends (starts.not_ends_second releases lasts)
  · simp only [Classical.not_forall, Classical.not_not] at lasts
    obtain ⟨earlier, -, ended⟩ := lasts
    obtain ⟨moment, -, firstEnds⟩ := exists_endsAfter ended
    have same := (starts.endsAfter_second releases firstEnds).unique endsAfter
    rw [← Nat.succ.inj same]
    exact firstEnds

/-- Both executions end in the same way, and leave the same. -/
theorem sameEnd (releases : settings.releases = true) {steps : Nat}
    (endsAfter : first.EndsAfter settings next steps) :
    SameEnd detour next first.machine.store (first.advance settings steps)
      (second.advance settings (steps + 1)) := by
  obtain ⟨machines, control⟩ := starts.ends_second releases endsAfter
  obtain ⟨twins, -⟩ := starts.twin releases (steps + 1)
  have shares := machines.stores.shares machines.sound.rooted twins.mirrors
  -- A scope that was live at the start is from before the extra one, so it is not moved, and it is
  -- live still.
  have kept : ∀ handle, first.machine.store.IsLive handle → detour.handle handle = handle ∧
      (first.advance settings steps).machine.store.IsLive handle ∧
      (second.advance settings (steps + 1)).machine.store.IsLive handle := by
    intro handle live
    refine ⟨handle_of_lt (Nat.lt_of_lt_of_le (starts.orderly.sound.tidy.index_lt live)
      starts.size_le), Machine.isLive_of_ends releases starts.orderly
      (Nat.zero_le steps) starts.begins endsAfter.ends live, ?_⟩
    rw [← starts.machine_eq] at live
    exact Machine.isLive_of_ends releases starts.otherOrderly (Nat.zero_le _) starts.otherBegins
      control.ends live
  refine ⟨control, ?_, ?_, ?_, ?_, ?_, ?_, shares⟩
  · rw [← twins.printed_eq, machines.printed_eq]
  · rw [← twins.line_eq, machines.line_eq]
  · rw [← twins.depth_eq, machines.depth_eq]
  · rw [← twins.functions_eq, machines.functions_eq]
  · intro handle live
    obtain ⟨same, still, otherStill⟩ := kept handle live
    have bindings := shares.bindings_eq still (same.symm ▸ otherStill)
    rw [same] at bindings
    exact ⟨still, otherStill, bindings⟩
  · intro origin handle live path
    obtain ⟨same, still, otherStill⟩ := kept origin live
    exact shares.isLive_of_reaches machines.sound twins.sound (fun _ => scope?_value _) still
      (same.symm ▸ otherStill) path

/-- Two executions are the same but for an extra scope if they begin so. -/
theorem sameExecution (releases : settings.releases = true) :
    SameExecution settings detour next first second where
  endsAfter_iff := fun _ => ⟨starts.endsAfter_second releases, starts.endsAfter_first releases⟩
  not_endsAfter_zero := fun endsAfter => starts.otherBegins.not_ends endsAfter.ends
  printed_eq := by
    intro steps lasts
    cases steps with
    | zero => exact congrArg Machine.printed starts.machine_eq
    | succ steps =>
      obtain ⟨twins, -⟩ := starts.twin releases (steps + 1)
      rw [← twins.printed_eq, (starts.accompanies_advance releases lasts).machines.printed_eq]
  extra_bindings := by
    intro steps lasts
    cases steps with
    | zero =>
      refine Store.bindings_of_size_le ?_
      -- Before its first step the second loop has not created its scope.
      show second.machine.store.scopes.size ≤ _
      rw [starts.machine_eq]
      exact starts.size_le
    | succ steps =>
      obtain ⟨twins, -⟩ := starts.twin releases (steps + 1)
      rw [← twins.mirrors.bindings_eq]
      exact (starts.accompanies_advance releases lasts).machines.stores.extra_bindings
  sameEnd := fun _ endsAfter => starts.sameEnd releases endsAfter

end Detour.Starts

/-! ## Both forms of a loop -/

/-- The condition of a loop that counts to two. -/
def countingCondition : Node :=
  .binary 3 "<" (.reference 3 "count") (.integer 3 2)

/-- The statements of a loop that counts, prints, and declares a function in each round. -/
def countingBody : List Node :=
  [.declaration 4 "kept" (some (.reference 4 "count")),
    .function 5 "show" [] [.returning 5 (some (.reference 5 "kept"))],
    .binary 6 "=" (.reference 6 "latest") (.reference 6 "show"),
    .binary 7 "=" (.reference 7 "count") (.binary 7 "+" (.reference 7 "count") (.integer 7 1)),
    .call 8 "print" [.reference 8 "count"]]

/-- A program with a loop in which functions are declared; the last one is kept after it. -/
def countingProgram : List Node :=
  [.declaration 1 "count" (some (.integer 1 0)),
    .declaration 2 "latest" none,
    .whileLoop 3 countingCondition countingBody]

namespace Machine

/-- At every statement that a run comes to, a loop with a condition that assigns nothing does the same
whether it is written with `while` or with `for`: it prints the same lines, ends in the same way or not
at all, and leaves the same bindings.  The scope of the second form stays empty, and is only in the way
that leads outward from functions declared in the loop. -/
theorem course_sameExecution {settings : Settings} (releases : settings.releases = true)
    {machine : Machine} (rest : machine.AtRest) {program : List Node} {now : Nat} {node : Node}
    {scope : Handle} {next : Continuation .completion}
    (comes : (machine.course settings program now).control = .executing node scope next)
    (line : Int) {condition : Node} (absent : condition.assigns = false) (body : List Node) :
    ∃ detour : Detour, detour.around = scope ∧
      detour.extra = ⟨(machine.course settings program now).machine.store.serial⟩ ∧
      SameExecution settings detour next
        ⟨(machine.course settings program now).machine,
          .executing (.whileLoop line condition body) scope next⟩
        ⟨(machine.course settings program now).machine,
          .executing (.forLoop line none (some condition) none body) scope next⟩ := by
  have orderly := course_orderly releases rest program now
  rw [State.Orderly, comes] at orderly
  generalize (machine.course settings program now).machine = given at orderly
  let detour : Detour :=
    ⟨scope, ⟨given.store.serial⟩, orderly.sound.tidy.index_lt orderly.isLive_of_resumes⟩
  have starts : detour.Starts settings next
      ⟨given, .executing (.whileLoop line condition body) scope next⟩
      ⟨given, .executing (.forLoop line none (some condition) none body) scope next⟩ :=
    ⟨.executing _ scope next, .executing _ scope next, orderly, orderly, rfl, Nat.le_refl _,
      Detour.accompanies_step orderly rfl absent⟩
  exact ⟨detour, rfl, rfl, starts.sameExecution releases⟩

/-- A loop that counts to two can be written in both forms: it prints the same, and keeps a function
that was declared in its last round. -/
theorem countingProgram_sameExecution : ∃ detour : Detour,
    detour.around = ⟨0⟩ ∧ detour.extra = ⟨1⟩ ∧
    SameExecution .plain detour (.program [] ⟨0⟩)
      ⟨(Machine.initial.course .plain countingProgram 8).machine,
        .executing (.whileLoop 3 countingCondition countingBody) ⟨0⟩ (.program [] ⟨0⟩)⟩
      ⟨(Machine.initial.course .plain countingProgram 8).machine,
        .executing (.forLoop 3 none (some countingCondition) none countingBody) ⟨0⟩
          (.program [] ⟨0⟩)⟩ := by
  have comes : (Machine.initial.course .plain countingProgram 8).control =
      .executing (.whileLoop 3 countingCondition countingBody) ⟨0⟩ (.program [] ⟨0⟩) := rfl
  have absent : countingCondition.assigns = false := by decide +kernel
  obtain ⟨detour, around, extra, same⟩ :=
    course_sameExecution rfl atRest_initial comes 3 absent countingBody
  refine ⟨detour, around, ?_, same⟩
  rw [extra]
  decide +kernel

end Machine

end Scriptlet
