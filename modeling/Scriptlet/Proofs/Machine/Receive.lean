import Scriptlet.Proofs.Machine.Effect
import Scriptlet.Proofs.Machine.Jump
import Scriptlet.Proofs.Node.Placement

/-! # What receives jumps

A statement that is executed ends only with jumps that it has outside of the loops and the functions
in it.  So a loop ends with no jump out of loops, and where all jumps are where they belong, none comes
to the top level, or out of a loop to the end of a call.  Nor does an expression end with a jump: what
is left to do after it waits for a value, and between an expression that is being evaluated and a
statement that completes meanwhile there is always a call.

Main definitions:

* `Continuation.Takes`: a statement may complete with a jump, or without one.
* `Control.Keeps`: what is being done leads only to completions that may come.
* `Machine.Evaluates`: an expression is being evaluated.

Main statements: `State.Moves.keeps` for a move, `Machine.course_keeps` for a part of a run, and
`Machine.jumps_are_received` for all runs. -/

namespace Scriptlet

/-! ## Completions that may come -/

/-- A statement may complete with a jump, or without one, or a value may come: this leads only to
completions of other statements that may come as well.  Which completions may come at the ground, and
with which jumps the bodies of functions may end, are parameters. -/
def Continuation.Takes (called : Jump → Prop)
    (ground : Continuation .completion → Option Jump → Prop) {awaited : Awaited} :
    Continuation awaited → Option Jump → Prop
  | .assigning _ _ next, _ | .conjunction _ _ next, _ | .disjunction _ _ next, _ | .truth next, _
  | .leftOperand _ _ _ _ next, _ | .rightOperand _ _ _ next, _ | .operand _ _ next, _
  | .argument _ _ _ _ _ next, _ => next.Takes called ground none
  | .declaring _ _ next, _ | .discarding next, _ => next.Takes called ground none
  -- A value may be there for a statement, which then ends with one of its jumps, or with none.
  | .returning next, _ => next.Takes called ground (some .returning)
  | .branching _ thenBranch elseBranch _ next, _ =>
    next.Takes called ground none ∧
      (∀ jump ∈ Node.jumpsOfAll thenBranch, next.Takes called ground (some jump)) ∧
      ∀ jump ∈ Node.jumpsOfBranch elseBranch, next.Takes called ground (some jump)
  -- A loop receives the jumps out of loops, and lets those out of functions pass.
  | .testing _ loop next, _ | .stepping loop next, _ =>
    next.Takes called ground none ∧
      (.returning ∈ Node.jumpsOfAll loop.body → next.Takes called ground (some .returning))
  | .starting loop next, jump =>
    ground (.starting loop next) jump ∨ (next.Takes called ground none ∧
      (.returning ∈ Node.jumpsOfAll loop.body → next.Takes called ground (some .returning)))
  | .looping loop next, jump =>
    ground (.looping loop next) jump ∨ (next.Takes called ground none ∧
      (.returning ∈ Node.jumpsOfAll loop.body → next.Takes called ground (some .returning)) ∧
      (jump = some .returning → next.Takes called ground jump))
  | .sequence rest scope next, jump =>
    ground (.sequence rest scope next) jump ∨ (next.Takes called ground none ∧
      (∀ other ∈ Node.jumpsOfAll rest, next.Takes called ground (some other)) ∧
      next.Takes called ground jump)
  | .leaving scope next, jump =>
    ground (.leaving scope next) jump ∨ next.Takes called ground jump
  -- A call has a value in the end, whatever jump its function ends with.
  | .calling name scope callerFrame callerLine next, jump =>
    ground (.calling name scope callerFrame callerLine next) jump ∨
      (next.Takes called ground none ∧ ∀ other, jump = some other → called other)
  | .program rest root, jump => ground (.program rest root) jump

/-- What is being done leads only to completions that may come. -/
def Control.Keeps (called : Jump → Prop) (ground : Continuation .completion → Option Jump → Prop) :
    Control → Prop
  | .evaluating _ _ next => next.Takes called ground none
  | .executing node _ next =>
    next.Takes called ground none ∧ ∀ jump ∈ node.jumps, next.Takes called ground (some jump)
  | .delivering _ next => next.Takes called ground none
  | .completing completion next => next.Takes called ground completion.jump?
  | .unwinding _ _ | .halted _ => True

section Keeps

variable {called : Jump → Prop} {ground : Continuation .completion → Option Jump → Prop}
  {next : Continuation .completion}

/-- Statements, one after the other, lead to what each of them leads to. -/
theorem keeps_inSequence {nodes : List Node} {scope : Handle}
    (normal : next.Takes called ground none)
    (jumps : ∀ jump ∈ Node.jumpsOfAll nodes, next.Takes called ground (some jump)) :
    (State.inSequence nodes scope next).Keeps called ground := by
  cases nodes with
  | nil => exact normal
  | cons node rest =>
    have later : ∀ jump ∈ Node.jumpsOfAll rest, next.Takes called ground (some jump) :=
      fun jump mem => jumps jump (List.mem_append_right _ mem)
    exact ⟨Or.inr ⟨normal, later, normal⟩, fun jump mem =>
      Or.inr ⟨normal, later, jumps jump (List.mem_append_left _ mem)⟩⟩

/-- Statements with a scope of their own lead to what they lead to without. -/
theorem keeps_inScope {nodes : List Node} {scope inner : Handle}
    (normal : next.Takes called ground none)
    (jumps : ∀ jump ∈ Node.jumpsOfAll nodes, next.Takes called ground (some jump)) :
    (State.inSequence nodes scope (.leaving inner next)).Keeps called ground :=
  keeps_inSequence (Or.inr normal) fun jump mem => Or.inr (jumps jump mem)

/-- A round of a loop leads to the next test, to the end of the loop, or out of a function. -/
theorem keeps_round (loop : Loop) {scope inner : Handle} (normal : next.Takes called ground none)
    (returns : .returning ∈ Node.jumpsOfAll loop.body → next.Takes called ground (some .returning)) :
    (State.inSequence loop.body scope (.leaving inner (.looping loop next))).Keeps called ground := by
  refine keeps_inScope (Or.inr ⟨normal, returns, nofun⟩) fun jump mem => ?_
  refine Or.inr ⟨normal, returns, ?_⟩
  rintro ⟨⟩
  exact returns mem

/-- A loop that is to be tested keeps its jumps if what follows it takes them. -/
theorem Loop.Tests.keeps {loop : Loop} {control : Control} (tests : loop.Tests next control)
    (normal : next.Takes called ground none)
    (returns : .returning ∈ Node.jumpsOfAll loop.body → next.Takes called ground (some .returning)) :
    control.Keeps called ground := by
  cases tests with
  | test given => exact ⟨normal, returns⟩
  | round => exact keeps_round loop normal returns

/-- A move leads only to completions that may come, if what completes has not come down to the
ground, and calls take the jumps that the functions end with. -/
theorem State.Moves.keeps {settings : Settings} {before : State} {control : Control}
    (moves : before.Moves settings control) (keeps : before.control.Keeps called ground)
    (above : ∀ completion next, before.control = .completing completion next →
      ∀ jump, ¬ground next jump)
    (calls : ∀ line closure, before.Calls settings line closure →
      ∀ jump ∈ Node.jumpsOfAll closure.body, called jump) : control.Keeps called ground := by
  -- A return in the body of a loop is one of the loop.
  have returning : ∀ {body : List Node}, .returning ∈ Node.jumpsOfAll body →
      .returning ∈ (Node.jumpsOfAll body).filter (· = .returning) := by
    intro body mem
    exact List.mem_filter.mpr ⟨mem, rfl⟩
  cases moves with
  | value | assignment | conjunction | disjunction | operation | sign | firstArgument => exact keeps
  | direct direct =>
    exact keeps_inSequence (Or.inr ⟨keeps, nofun⟩) fun jump mem =>
      Or.inr ⟨keeps, by rintro other ⟨⟩; exact calls _ _ direct jump mem⟩
  | function | initialized | uninitialized | expression => exact keeps.1
  | result | noResult | breaking | continuing => exact keeps.2 _ List.mem_cons_self
  | block => exact keeps_inScope keeps.1 keeps.2
  | conditional =>
    exact ⟨keeps.1, fun jump mem => keeps.2 jump (List.mem_append_left _ mem),
      fun jump mem => keeps.2 jump (List.mem_append_right _ mem)⟩
  | whileLoop tests =>
    refine tests.keeps keeps.1 fun mem => ?_
    exact keeps.2 _ (returning mem)
  | @doLoop between line condition body scope inner next =>
    exact keeps_round ⟨"do-while", some condition, none, body, scope⟩ keeps.1 fun mem =>
      keeps.2 _ (returning mem)
  | @start between line start condition step body scope inner next =>
    -- However the start of the loop completes, the loop goes on with its first test.
    have returns : .returning ∈ Node.jumpsOfAll body →
        (Continuation.leaving inner next).Takes called ground (some .returning) :=
      fun mem => Or.inr (keeps.2 _ (returning mem))
    exact ⟨Or.inr ⟨Or.inr keeps.1, returns⟩, fun _ _ => Or.inr ⟨Or.inr keeps.1, returns⟩⟩
  | forLoop tests =>
    refine tests.keeps (Or.inr keeps.1) fun mem => ?_
    exact Or.inr (keeps.2 _ (returning mem))
  | assigned | both | notBoth | either | oneOf | truth | rightOperand | joined | signed | argument
  | builtin | declared | returned | discarded => exact keeps
  | passed =>
    exact keeps_inSequence (Or.inr ⟨keeps, nofun⟩) fun jump mem =>
      Or.inr ⟨keeps, by rintro other ⟨⟩; exact calls _ _ .passed jump mem⟩
  | thenBranch => exact keeps_inScope keeps.1 keeps.2.1
  | elseBranch => exact keeps_inScope keeps.1 keeps.2.2
  | noBranch | finished => exact keeps.1
  | round => exact keeps_round _ keeps.1 keeps.2
  | stepped tests => exact tests.keeps keeps.1 keeps.2
  | follows =>
    obtain ⟨normal, jumps, -⟩ := keeps.resolve_left (above _ _ rfl _)
    exact keeps_inSequence normal jumps
  | skips => exact (keeps.resolve_left (above _ _ rfl _)).2.2
  | leaves => exact keeps.resolve_left (above _ _ rfl _)
  | starts tests =>
    obtain ⟨normal, returns⟩ := keeps.resolve_left (above _ _ rfl _)
    exact tests.keeps normal returns
  | broken => exact (keeps.resolve_left (above _ _ rfl _)).1
  | returns => exact (keeps.resolve_left (above _ _ rfl _)).2.2 rfl
  | steps =>
    obtain ⟨normal, returns, -⟩ := keeps.resolve_left (above _ _ rfl _)
    exact ⟨normal, returns⟩
  | again tests =>
    obtain ⟨normal, returns, -⟩ := keeps.resolve_left (above _ _ rfl _)
    exact tests.keeps normal returns
  | ended => exact (keeps.resolve_left (above _ _ rfl _)).1
  | statement | halted => exact absurd keeps (above _ _ rfl _)

end Keeps

/-! ## The ground -/

section Ground

variable {called : Jump → Prop} {ground : Continuation .completion → Option Jump → Prop}

/-- What the ground takes is taken. -/
theorem Continuation.takes_of_ground {next : Continuation .completion} {jump : Option Jump}
    (bottom : ground next jump) : next.Takes called ground jump := by
  cases next with
  | program => exact bottom
  | sequence | leaving | starting | looping | calling => exact Or.inl bottom

/-- The ground is among the parts of what is left to do. -/
theorem Continuation.exists_ground_of_takes {awaited : Awaited} {next : Continuation awaited}
    {jump : Option Jump} (takes : next.Takes called ground jump) :
    ∃ bottom jump, ground bottom jump ∧ ⟨.completion, bottom⟩ ∈ next.parts := by
  induction next generalizing jump with
  | assigning _ _ next ih | conjunction _ _ next ih | disjunction _ _ next ih | truth next ih
  | leftOperand _ _ _ _ next ih | rightOperand _ _ _ next ih | operand _ _ next ih
  | argument _ _ _ _ _ next ih | declaring _ _ next ih | discarding next ih | returning next ih =>
    obtain ⟨bottom, jump, here, mem⟩ := ih takes
    exact ⟨bottom, jump, here, List.mem_cons_of_mem _ mem⟩
  | branching _ _ _ _ next ih | testing _ _ next ih | stepping _ next ih =>
    obtain ⟨bottom, jump, here, mem⟩ := ih takes.1
    exact ⟨bottom, jump, here, List.mem_cons_of_mem _ mem⟩
  | sequence _ _ next ih | starting _ next ih | looping _ next ih | calling _ _ _ _ next ih =>
    obtain here | further := takes
    · exact ⟨_, _, here, List.mem_cons_self⟩
    · obtain ⟨bottom, jump, here, mem⟩ := ih further.1
      exact ⟨bottom, jump, here, List.mem_cons_of_mem _ mem⟩
  | leaving _ next ih =>
    obtain here | further := takes
    · exact ⟨_, _, here, List.mem_cons_self⟩
    · obtain ⟨bottom, jump, here, mem⟩ := ih further
      exact ⟨bottom, jump, here, List.mem_cons_of_mem _ mem⟩
  | program => exact ⟨_, _, takes, List.mem_cons_self⟩

/-- No part is left to do after itself. -/
theorem Continuation.not_mem_beneath {awaited : Awaited} (next : Continuation awaited) :
    ⟨awaited, next⟩ ∉ next.beneath := by
  intro inside
  cases next with
  | program => cases inside
  | assigning | conjunction | disjunction | truth | leftOperand | rightOperand | operand | argument
  | declaring | returning | branching | testing | stepping | discarding | sequence | leaving
  | starting | looping | calling =>
    exact absurd (parts_suffix_of_mem inside).length_le (Nat.not_succ_le_self _)

/-- At the ground, only completions come that the ground is for. -/
theorem Continuation.ground_of_takes {next : Continuation .completion} {jump : Option Jump}
    (lone : ∀ bottom jump, ground bottom jump → bottom = next)
    (takes : next.Takes called ground jump) : ground next jump := by
  -- Otherwise there would be another ground beneath, and it would be the same one.
  have impossible : ∀ {awaited : Awaited} {inner : Continuation awaited} {jump : Option Jump},
      next.beneath = inner.parts → ¬inner.Takes called ground jump := by
    intro awaited inner jump beneath takes
    obtain ⟨bottom, jump, here, mem⟩ := exists_ground_of_takes takes
    obtain rfl := lone bottom jump here
    exact bottom.not_mem_beneath (beneath ▸ mem)
  cases next with
  | program => exact takes
  | leaving => exact takes.resolve_right (impossible rfl)
  | sequence | starting | looping | calling =>
    exact takes.resolve_right fun further => impossible rfl further.1

end Ground

/-! ## Parts that stay -/

section Parts

variable {part : Part}

/-- Statements that are to be executed leave what follows them. -/
theorem State.mem_parts_inSequence {nodes : List Node} {scope : Handle}
    {next : Continuation .completion} (mem : part ∈ next.parts) :
    part ∈ (inSequence nodes scope next).parts := by
  cases nodes with
  | nil => exact mem
  | cons => exact List.mem_cons_of_mem _ mem

/-- A loop that is to be tested leaves what follows it. -/
theorem Loop.Tests.mem_parts {loop : Loop} {next : Continuation .completion} {control : Control}
    (tests : loop.Tests next control) (mem : part ∈ next.parts) : part ∈ control.parts := by
  cases tests with
  | test => exact List.mem_cons_of_mem _ mem
  | round =>
    exact State.mem_parts_inSequence (List.mem_cons_of_mem _ (List.mem_cons_of_mem _ mem))

/-- What is left to do stays, unless something ends that it waits for. -/
theorem State.Moves.mem_parts {settings : Settings} {before : State} {control : Control}
    (moves : before.Moves settings control) (mem : part ∈ before.control.parts)
    (lasts : ¬before.control.Ends part.2) : part ∈ control.parts := by
  -- What is delivered or completed goes to another part, so the part is beneath.
  have beneath : ∀ {awaited : Awaited} {next : Continuation awaited},
      before.control.Ends next → before.control.parts = next.parts → part ∈ next.beneath := by
    intro awaited next ends same
    rw [same] at mem
    obtain rfl | further := List.mem_cons.mp mem
    · exact absurd ends lasts
    · exact further
  cases moves with
  | value | function | breaking | continuing => exact mem
  | assignment | conjunction | disjunction | operation | sign | firstArgument | initialized
  | uninitialized | result | noResult | conditional | expression => exact List.mem_cons_of_mem _ mem
  | start => exact List.mem_cons_of_mem _ (List.mem_cons_of_mem _ mem)
  | direct | block => exact mem_parts_inSequence (List.mem_cons_of_mem _ mem)
  | doLoop =>
    exact mem_parts_inSequence (List.mem_cons_of_mem _ (List.mem_cons_of_mem _ mem))
  | whileLoop tests => exact tests.mem_parts mem
  | forLoop tests => exact tests.mem_parts (List.mem_cons_of_mem _ mem)
  | assigned | notBoth | oneOf | truth | joined | signed | builtin | declared | returned | noBranch
  | finished | discarded => exact beneath (.delivering _ _) rfl
  | both | either | rightOperand | argument =>
    have below := beneath (.delivering _ _) rfl
    exact List.mem_cons_of_mem _ below
  | passed | thenBranch | elseBranch =>
    have below := beneath (.delivering _ _) rfl
    exact mem_parts_inSequence (List.mem_cons_of_mem _ below)
  | round =>
    have below := beneath (.delivering _ _) rfl
    exact mem_parts_inSequence (List.mem_cons_of_mem _ (List.mem_cons_of_mem _ below))
  | stepped tests =>
    have below := beneath (.delivering _ _) rfl
    exact tests.mem_parts below
  | follows =>
    have below := beneath (.completing _ _) rfl
    exact mem_parts_inSequence below
  | skips | leaves | broken | returns | ended => exact beneath (.completing _ _) rfl
  | starts tests | again tests =>
    have below := beneath (.completing _ _) rfl
    exact tests.mem_parts below
  | steps =>
    have below := beneath (.completing _ _) rfl
    exact List.mem_cons_of_mem _ below
  | statement | halted =>
    have below := beneath (.completing _ _) rfl
    cases below

/-- Between a statement and an expression around it there is a call. -/
theorem Continuation.exists_call_of_mem {next : Continuation .value} :
    ∀ {outer : Continuation .completion}, ⟨.value, next⟩ ∈ outer.beneath →
      ∃ call ∈ outer.parts, call.2.isCall = true ∧ ⟨.value, next⟩ ∈ call.2.beneath
  | .sequence _ _ _, mem | .leaving _ _, mem | .starting _ _, mem | .looping _ _, mem => by
    obtain differs | further := List.mem_cons.mp mem
    · cases differs
    · obtain ⟨call, inside, calls, below⟩ := exists_call_of_mem further
      exact ⟨call, List.mem_cons_of_mem _ inside, calls, below⟩
  | .calling _ _ _ _ _, mem => ⟨_, List.mem_cons_self, rfl, mem⟩

end Parts

/-! ## Runs -/

namespace Machine

variable {settings : Settings} {body : List Node} {machine : Machine}

/-- What is left to do stays until something ends that it waits for, or a failure comes. -/
theorem mem_parts_of_lasts (releases : settings.releases = true) (rest : machine.AtRest)
    {began now : Nat} {part : Part} (ordered : began ≤ now)
    (mem : part ∈ (machine.course settings body began).control.parts)
    (lasts : ∀ moment, began ≤ moment → moment < now →
      ¬(machine.course settings body moment).control.Ends part.2)
    (going : (machine.course settings body now).control.isGoing = true) :
    part ∈ (machine.course settings body now).control.parts := by
  induction ordered with
  | refl => exact mem
  | @step now ordered ih =>
    obtain ⟨-, moves⟩ := course_moves releases rest going
    have before := ih (fun moment after upTo => lasts moment after (Nat.lt_succ_of_lt upTo))
      moves.isGoing
    exact moves.mem_parts before (lasts now ordered (Nat.lt_succ_self now))

/-- From one moment of a run to a later one, what is being done leads only to completions that may
come, if it does so again whenever a completion has come down to the ground. -/
theorem course_keeps {called : Jump → Prop}
    {ground : Continuation .completion → Option Jump → Prop} (releases : settings.releases = true)
    (rest : machine.AtRest) {began now : Nat} (ordered : began ≤ now)
    (keeps : (machine.course settings body began).control.Keeps called ground)
    (bottom : ∀ moment, began ≤ moment → moment < now → ∀ completion next jump,
      (machine.course settings body moment).control = .completing completion next →
      ground next jump → next.Takes called ground completion.jump? →
      ∀ control, (machine.course settings body moment).Moves settings control →
        control.Keeps called ground)
    (calls : ∀ moment line closure, (machine.course settings body moment).Calls settings line closure →
      ∀ jump ∈ Node.jumpsOfAll closure.body, called jump) :
    (machine.course settings body now).control.Keeps called ground := by
  induction ordered with
  | refl => exact keeps
  | @step now ordered ih =>
    have before := ih fun moment after upTo => bottom moment after (Nat.lt_succ_of_lt upTo)
    -- A run that no longer goes on has no completions to come.
    cases going : (machine.course settings body (now + 1)).control.isGoing with
    | false =>
      cases control : (machine.course settings body (now + 1)).control with
      | unwinding | halted => trivial
      | evaluating | executing | delivering | completing =>
        rw [control] at going
        cases going
    | true =>
      obtain ⟨-, moves⟩ := course_moves releases rest going
      by_cases above : ∀ completion next,
          (machine.course settings body now).control = .completing completion next →
          ∀ jump, ¬ground next jump
      · exact moves.keeps before above (calls now)
      · push Not at above
        obtain ⟨completion, next, control, jump, here⟩ := above
        rw [control] at before
        exact bottom now ordered (Nat.lt_succ_self now) completion next jump control here before _
          moves

/-- A statement that completes with a jump has that jump outside of the loops and the functions in
it. -/
theorem Completes.mem_jumps (releases : settings.releases = true) (rest : machine.AtRest)
    {began ended : Nat} {node : Node} {completion : Completion} {jump : Jump}
    (completes : machine.Completes settings body began ended node completion)
    (jumps : completion.jump? = some jump) : jump ∈ node.jumps := by
  obtain ⟨scope, outer, executes, control, lasts⟩ := completes.executes
  -- The ground is what is left to do after the statement; inside, calls may end with any jumps.
  let ground := fun next taken => next = outer ∧ ∀ other, taken = some other → other ∈ node.jumps
  have begins : (machine.course settings body began).control.Keeps (fun _ => True) ground := by
    rw [executes]
    refine ⟨Continuation.takes_of_ground ⟨rfl, nofun⟩, fun other mem => ?_⟩
    refine Continuation.takes_of_ground ⟨rfl, ?_⟩
    rintro _ ⟨⟩
    exact mem
  have keeps := course_keeps releases rest (Nat.le_of_lt completes.ordered) begins
    (by
      rintro moment after upTo completion next _ ends ⟨rfl, -⟩ -
      exact absurd (ends ▸ .completing completion next) (lasts moment after upTo))
    fun _ _ _ _ _ _ => trivial
  rw [control] at keeps
  have here := Continuation.ground_of_takes (fun _ _ here => here.1) keeps
  exact here.2 jump jumps

/-- A statement of the top level may complete without a jump, and so may those that follow. -/
def Closing (next : Continuation .completion) (jump : Option Jump) : Prop :=
  jump = none ∧ ∃ left root, next = .program left root ∧ ∀ node ∈ left, node.jumps = []

/-- Where jumps out of functions alone come to the ends of calls, and none to the top level, no jump
is refused. -/
theorem not_refuses_of_takes {next : Continuation .completion} {jump : Jump} {cause : Cause}
    (takes : next.Takes (· = .returning) Closing (some jump)) : ¬next.Refuses jump cause := by
  intro refuses
  cases refuses with
  | stray => cases takes.1
  | escaped other =>
    obtain ⟨-, left, root, differs, -⟩ | ⟨-, called⟩ := takes
    · cases differs
    · exact other (called jump rfl)

/-- Where the jumps of a program are where they belong, what is being done leads only to jumps that are
received. -/
theorem course_receives (releases : settings.releases = true) (rest : machine.AtRest)
    (placed : ∀ node ∈ body, node.isPlaced false false = true) (now : Nat) :
    (machine.course settings body now).control.Keeps (· = .returning) Closing := by
  refine course_keeps releases rest (Nat.zero_le now) ?_ ?_ ?_
  · exact ⟨rfl, body, _, rfl, fun node mem => Node.jumps_eq_nil_of_isPlaced (placed node mem)⟩
  · -- At the top level, the next statement has no jumps either.
    rintro moment - - completion next _ ends ⟨-, left, root, rfl, -⟩ ⟨-, others, _, same, free⟩ control
      moves
    obtain ⟨rfl, rfl⟩ := Continuation.program.inj same
    generalize machine.course settings body moment = state at moves ends
    obtain ⟨between, _⟩ := state
    cases ends
    cases moves with
    | statement =>
      obtain ⟨none, later⟩ := List.forall_mem_cons.mp free
      refine ⟨⟨rfl, _, _, rfl, later⟩, fun jump mem => ?_⟩
      rw [none] at mem
      cases mem
    | halted => trivial
  · intro moment line closure calls jump mem
    obtain ⟨declared, all⟩ := exists_function_of_calls releases rest
      (fun node mem => Node.all_of_isPlaced (placed node mem)) calls
    obtain ⟨statement, inside, mem⟩ := Node.mem_jumpsOfAll_iff.mp mem
    exact all.here _ _ _ _ rfl statement inside jump mem

/-- Where the jumps of a program are where they belong, no run ends with an error of a jump. -/
theorem kind_ne_of_isPlaced (releases : settings.releases = true) (rest : machine.AtRest)
    (placed : ∀ node ∈ body, node.isPlaced false false = true) {steps : Nat} {error : Error}
    (failed : (machine.run settings steps body).1 = .failed (.error error)) :
    error.cause.kind ≠ .controlFlow := by
  intro jumped
  obtain ⟨moment, -, fails, -⟩ := exists_fails_of_run releases rest failed
  obtain ⟨completion, next, jump, control, jumps, refuses, -⟩ :=
    exists_completing_of_raises fails.raises jumped
  have keeps := course_receives releases rest placed moment
  rw [control] at keeps
  replace keeps : next.Takes _ _ completion.jump? := keeps
  rw [jumps] at keeps
  exact not_refuses_of_takes keeps refuses

/-- From a moment of a run to another one, an expression is being evaluated; what is left to do after
it is given. -/
structure Evaluates (settings : Settings) (body : List Node) (machine : Machine) (began now : Nat)
    (node : Node) (next : Continuation .value) : Prop where
  ordered : began ≤ now
  begins : ∃ scope, (machine.course settings body began).control = .evaluating node scope next
  /-- The evaluation does not end before. -/
  lasts : ∀ moment, began ≤ moment → moment < now →
    ¬(machine.course settings body moment).control.Ends next

/-- A statement that completes while an expression is being evaluated is one of a function that has
been called for the expression. -/
theorem Evaluates.exists_call {began now : Nat} {node : Node} {next : Continuation .value}
    {completion : Completion} {outer : Continuation .completion}
    (evaluates : machine.Evaluates settings body began now node next)
    (releases : settings.releases = true) (rest : machine.AtRest)
    (control : (machine.course settings body now).control = .completing completion outer) :
    ∃ call ∈ outer.parts, call.2.isCall = true ∧ ⟨.value, next⟩ ∈ call.2.beneath := by
  obtain ⟨ordered, ⟨scope, begins⟩, lasts⟩ := evaluates
  have mem := mem_parts_of_lasts releases rest ordered (by rw [begins]; exact List.mem_cons_self)
    lasts (by rw [control]; rfl)
  rw [control] at mem
  obtain differs | below := List.mem_cons.mp mem
  · cases differs
  · exact Continuation.exists_call_of_mem below

/-- Where every jump out of a loop is in one, and every jump out of a function in one, no run ends with
an error of a jump.  For in every run a statement completes only with jumps that it has outside of the
loops and the functions in it, and so a loop with none out of a loop, while an expression does not
complete with any jump: what completes as long as it is being evaluated is in a function that has been
called for it, and in the end it has a value, or has failed. -/
theorem jumps_are_received (releases : settings.releases = true) (rest : machine.AtRest) :
    ((∀ node ∈ body, node.isPlaced false false = true) → ∀ steps error,
      (machine.run settings steps body).1 = .failed (.error error) →
      error.cause.kind ≠ .controlFlow) ∧
    (∀ began ended node completion jump,
      machine.Completes settings body began ended node completion → completion.jump? = some jump →
      jump ∈ node.jumps ∧ (node.isLoop = true → jump = .returning)) ∧
    ∀ began now node next, machine.Evaluates settings body began now node next →
      (∀ completion outer,
        (machine.course settings body now).control = .completing completion outer →
        ∃ call ∈ outer.parts, call.2.isCall = true ∧ ⟨.value, next⟩ ∈ call.2.beneath) ∧
      ((machine.course settings body now).control.Ends next →
        (∃ value, (machine.course settings body now).control = .delivering value next) ∨
          ∃ failure, (machine.course settings body now).control = .unwinding failure next) := by
  refine ⟨?_, ?_, ?_⟩
  · intro placed steps error failed
    exact kind_ne_of_isPlaced releases rest placed failed
  · intro began ended node completion jump completes jumps
    have mem := completes.mem_jumps releases rest jumps
    exact ⟨mem, fun loop => Node.eq_returning_of_isLoop loop mem⟩
  · intro began now node next evaluates
    refine ⟨fun completion outer control => evaluates.exists_call releases rest control, ?_⟩
    intro ends
    generalize (machine.course settings body now).control = control at ends
    cases ends with
    | delivering value => exact Or.inl ⟨value, rfl⟩
    | unwinding failure => exact Or.inr ⟨failure, rfl⟩

/-- A statement has completed when no more is left to do than when it began. -/
theorem completes_of_length (releases : settings.releases = true) (rest : machine.AtRest)
    {began ended : Nat} {node : Node} {scope : Handle} {next outer : Continuation .completion}
    {completion : Completion} (ordered : began < ended)
    (executes : (machine.course settings body began).control = .executing node scope next)
    (control : (machine.course settings body ended).control = .completing completion outer)
    (same : outer.parts.length = next.parts.length)
    (lasts : ∀ moment, began ≤ moment → moment < ended →
      ¬(machine.course settings body moment).control.Ends next) :
    machine.Completes settings body began ended node completion where
  ordered := ordered
  executes := by
    have mem := mem_parts_of_lasts releases rest (Nat.le_of_lt ordered)
      (by rw [executes]; exact List.mem_cons_self) lasts (by rw [control]; rfl)
    rw [control] at mem
    have parts_eq := (Continuation.parts_suffix_of_mem mem).eq_of_length same.symm
    obtain ⟨next_eq, -⟩ := List.cons.inj parts_eq
    cases next_eq
    exact ⟨scope, _, executes, control, lasts⟩

/-- A loop that a function decides about, which returns out of a loop of its own. -/
def relayProgram : List Node :=
  [.function 1 "twice" ["n"]
      [.whileLoop 2 (.integer 2 1)
        [.returning 3 (some (.binary 3 "*" (.reference 3 "n") (.integer 3 2)))]],
    .whileLoop 6 (.call 6 "twice" [.integer 6 1]) [.breaking 7]]

/-- A `return` out of a loop in a function is received by the call of the function. -/
theorem relayProgram_receives :
    (initial.run .plain 30 relayProgram).1 = .ended ∧
    (∀ steps error, (initial.run .plain steps relayProgram).1 = .failed (.error error) →
      error.cause.kind ≠ .controlFlow) ∧
    (∃ loop completion, loop.isLoop = true ∧ completion.jump? = some .returning ∧
      initial.Completes .plain relayProgram 7 20 loop completion ∧ .returning ∈ loop.jumps) ∧
    ∃ call next completion outer, call.typeName = "Call" ∧
      initial.Evaluates .plain relayProgram 4 20 call next ∧
      (initial.course .plain relayProgram 20).control = .completing completion outer ∧
      ∃ part ∈ outer.parts, part.2.isCall = true ∧ ⟨.value, next⟩ ∈ part.2.beneath := by
  have placed : ∀ node ∈ relayProgram, node.isPlaced false false = true := by decide
  -- A completion ends what awaits a node only where just as many parts are left.
  have lasts : ∀ began length, (∀ moment < 20, began ≤ moment →
      (initial.course .plain relayProgram moment).control.hasEnded = true →
      (initial.course .plain relayProgram moment).control.parts.length ≠ length) →
      ∀ {awaited : Awaited} (next : Continuation awaited), next.parts.length = length →
      ∀ moment, began ≤ moment → moment < 20 →
        ¬(initial.course .plain relayProgram moment).control.Ends next := by
    rintro began length longer awaited next rfl moment after upTo ends
    obtain ⟨ended, same⟩ := ends.parts_eq
    exact longer moment upTo after ended (by rw [same])
  -- Everything that has to be evaluated is one closed fact about three moments.
  have moments : (match (initial.course .plain relayProgram 4).control,
      (initial.course .plain relayProgram 7).control,
      (initial.course .plain relayProgram 20).control with
    | .evaluating call _ test, .executing loop _ next, .completing completion outer =>
      decide (call.typeName = "Call" ∧ test.parts.length = 2 ∧ loop.isLoop = true ∧
        next.parts.length = 4 ∧ completion.jump? = some .returning ∧ outer.parts.length = 4)
    | _, _, _ => false) = true := by
    decide +kernel
  split at moments
  · rename_i call scope test loop inner next completion outer evaluates executes control
    obtain ⟨named, shorter, loops, length_eq, jumps, same⟩ := of_decide_eq_true moments
    have completes := completes_of_length rfl atRest_initial (by decide) executes control
      (same.trans length_eq.symm) (lasts 7 4 (by decide +kernel) next length_eq)
    have evaluating : initial.Evaluates .plain relayProgram 4 20 call test :=
      ⟨by decide, ⟨scope, evaluates⟩, lasts 4 2 (by decide +kernel) test shorter⟩
    obtain ⟨free, leaves, inside⟩ := @jumps_are_received .plain relayProgram initial rfl
      atRest_initial
    exact ⟨by decide +kernel, free placed,
      ⟨loop, completion, loops, jumps, completes, (leaves _ _ _ _ _ completes jumps).1⟩,
      call, test, completion, outer, named, evaluating, control,
      (inside _ _ _ _ evaluating).1 _ _ control⟩
  · cases moments

end Machine

end Scriptlet
