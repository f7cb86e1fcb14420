import Scriptlet.Proofs.Machine.Move
import Scriptlet.Proofs.Machine.Operation
import Scriptlet.Proofs.Machine.Within

/-! # The line of an error of a jump

A jump that nothing receives travels outward, and the error is raised where it can go no further, on
the line that is the current one there.  No statement that a jump leaves changes that line, so it is
the one on which the jump came to rest.  That is the line of the jump's own node, but for a jump with a
result it is the line on which the evaluation of the result came to rest: an operator or a call puts the
current line back on its own when its operands are evaluated, whereas the jump does not.

Main definitions:

* `Node.rests`: the lines on which the execution of a node may come to rest.
* `Continuation.Accepts`: the lines on which a value may be delivered.
* `Machine.Signals`: a jump is executed, comes to rest, and travels outward.

Main statements: `Machine.course_lands`, expressions come to rest on the lines that they may come to
rest on, and `Machine.run_blames_jump`, what an error of a jump is blamed on. -/

namespace Scriptlet

/-! ## Where an expression comes to rest -/

/-- The lines of which one is the current line when a node has been evaluated, or when a jump has
been executed. -/
def Node.rests : Node → List Int
  | .binary line operator left right =>
    if operator = "=" then right.rests
    else if operator = "&&" ∨ operator = "||" then left.rests ++ right.rests
    else [line]
  | .returning _ (some value) => value.rests
  | node => [node.line]

/-- A value may be delivered on a line: what is done with it comes to rest where the nodes that wait for
it may come to rest.  Whether the results of functions may be delivered there is a parameter. -/
def Continuation.Accepts (returns : Continuation .completion → Int → Prop) {awaited : Awaited} :
    Continuation awaited → Int → Prop
  | .assigning _ _ next, line | .truth next, line => next.Accepts returns line
  | .conjunction right _ next, line | .disjunction right _ next, line =>
    next.Accepts returns line ∧ ∀ other ∈ right.rests, next.Accepts returns other
  | .leftOperand own _ _ _ next, _ | .rightOperand own _ _ next, _ | .operand own _ next, _
  | .argument own _ _ _ _ next, _ => own ≠ 0 ∧ next.Accepts returns own
  | .returning next, line => returns next line ∧ ∀ other, next.Accepts returns other
  -- Whatever the line is, a statement completes.
  | .declaring _ _ next, _ | .branching _ _ _ _ next, _ | .testing _ _ next, _ | .stepping _ next, _
  | .discarding next, _ | .sequence _ _ next, _ | .leaving _ next, _ | .starting _ next, _
  | .looping _ next, _ => ∀ other, next.Accepts returns other
  | .calling _ _ _ callerLine next, _ => next.Accepts returns callerLine
  | .program _ _, _ => True

/-- What is being done, with a line as the current one, comes to rest where it may. -/
def Control.Lands (returns : Continuation .completion → Int → Prop) (line : Int) : Control → Prop
  | .evaluating node _ next => ∀ other ∈ node.rests, next.Accepts returns other
  | .executing _ _ next | .completing _ next => ∀ other, next.Accepts returns other
  | .delivering _ next => next.Accepts returns line
  | .unwinding _ _ | .halted _ => True

section Lands

variable {returns weaker : Continuation .completion → Int → Prop} {line : Int}

/-- Only the returns that are left to do matter. -/
theorem Continuation.Accepts.mono {awaited : Awaited} {next : Continuation awaited}
    (accepts : next.Accepts returns line)
    (implies : ∀ after other, ⟨.value, .returning after⟩ ∈ next.parts → returns after other →
      weaker after other) : next.Accepts weaker line := by
  induction next generalizing line with
  | program => trivial
  | assigning _ _ next ih | truth next ih | calling _ _ _ _ next ih =>
    exact ih accepts fun after other mem => implies after other (List.mem_cons_of_mem _ mem)
  | conjunction right _ next ih | disjunction right _ next ih =>
    have below := fun after other mem => implies after other (List.mem_cons_of_mem _ mem)
    exact ⟨ih accepts.1 below, fun other mem => ih (accepts.2 other mem) below⟩
  | leftOperand _ _ _ _ next ih | rightOperand _ _ _ next ih | operand _ _ next ih
  | argument _ _ _ _ _ next ih =>
    have below := fun after other mem => implies after other (List.mem_cons_of_mem _ mem)
    exact ⟨accepts.1, ih accepts.2 below⟩
  | returning next ih =>
    have below := fun after other mem => implies after other (List.mem_cons_of_mem _ mem)
    exact ⟨implies next line List.mem_cons_self accepts.1, fun other => ih (accepts.2 other) below⟩
  | declaring _ _ next ih | branching _ _ _ _ next ih | testing _ _ next ih | stepping _ next ih
  | discarding next ih | sequence _ _ next ih | leaving _ next ih | starting _ next ih
  | looping _ next ih =>
    have below := fun after other mem => implies after other (List.mem_cons_of_mem _ mem)
    exact fun other => ih (accepts other) below

/-- What a line is accepted for, it is accepted for once it is marked. -/
theorem Continuation.Accepts.marked {awaited : Awaited} {next : Continuation awaited}
    (machine : Machine) (nonzero : line ≠ 0) (accepts : next.Accepts returns line) :
    next.Accepts returns (machine.markedLine line) := by
  rw [machine.markedLine_of_ne nonzero]
  exact accepts

/-- What lands where returns are allowed lands where more of them are. -/
theorem Control.Lands.mono {control : Control} (lands : control.Lands returns line)
    (implies : ∀ after other, ⟨.value, .returning after⟩ ∈ control.parts → returns after other →
      weaker after other) : control.Lands weaker line := by
  cases control with
  | evaluating node scope next => exact fun other mem => (lands other mem).mono implies
  | executing node scope next => exact fun other => (lands other).mono implies
  | delivering value next => exact Continuation.Accepts.mono lands implies
  | completing completion next => exact fun other => (lands other).mono implies
  | unwinding | halted => trivial

/-- Statements that are to be executed land if what follows them accepts every line. -/
theorem lands_inSequence {nodes : List Node} {scope : Handle} {next : Continuation .completion}
    (accepts : ∀ other, next.Accepts returns other) :
    (State.inSequence nodes scope next).Lands returns line := by
  cases nodes with
  | nil => exact accepts
  | cons node rest => exact fun _ => accepts

/-- A loop that is to be tested lands if what follows it accepts every line. -/
theorem Loop.Tests.lands {loop : Loop} {next : Continuation .completion} {control : Control}
    (tests : loop.Tests next control) (accepts : ∀ other, next.Accepts returns other) :
    control.Lands returns line := by
  cases tests with
  | test given => exact fun _ _ => accepts
  | round => exact lands_inSequence fun _ _ => accepts

/-- A move comes to rest where it may, if what begins has a line and the returns that begin may come
to rest where their values may. -/
theorem State.Moves.lands {settings : Settings} {before : State} {control : Control}
    (moves : before.Moves settings control)
    (lands : before.control.Lands returns before.machine.line)
    (lined : ∀ node scope next, before.control = .evaluating node scope next → node.line ≠ 0)
    (jumps : ∀ own value scope next,
      before.control = .executing (.returning own value) scope next → own ≠ 0 ∧
        ∀ other ∈ (Node.returning own value).rests, returns next other) :
    control.Lands returns before.lineAfter := by
  cases moves with
  | @value between node scope next value atomic =>
    have nonzero := lined node scope next rfl
    have rests : node.rests = [node.line] := by
      cases node with
      | integer | float | text | reference | call => rfl
      | _ => cases atomic
    exact (lands _ (by simp [rests])).marked between nonzero
  | assignment => exact lands
  | conjunction | disjunction =>
    intro other mem
    refine ⟨lands other (List.mem_append_left _ mem), fun later inside => ?_⟩
    exact lands later (List.mem_append_right _ inside)
  | @operation between line operator left right scope next notAssign notAnd notOr =>
    have rests : (Node.binary line operator left right).rests = [line] := by
      simp [Node.rests, notAssign, notAnd, notOr]
    exact fun _ _ => ⟨lined _ _ _ rfl, lands line (by simp [rests])⟩
  | sign => exact fun _ _ => ⟨lined _ _ _ rfl, lands _ List.mem_cons_self⟩
  | firstArgument => exact fun _ _ => ⟨lined _ _ _ rfl, lands _ List.mem_cons_self⟩
  | @direct between line name scope inner next closure callerFrame calls =>
    have nonzero : line ≠ 0 := lined _ _ _ rfl
    exact lands_inSequence fun _ => (lands line List.mem_cons_self).marked between nonzero
  | function | breaking | continuing => exact lands
  | initialized => exact fun _ _ => lands
  | uninitialized => exact lands
  | @result between line value scope next =>
    obtain ⟨-, rests⟩ := jumps _ _ _ _ rfl
    exact fun other mem => ⟨rests other mem, lands⟩
  | @noResult between line scope next =>
    obtain ⟨nonzero, rests⟩ := jumps _ _ _ _ rfl
    refine ⟨?_, lands⟩
    show returns next (between.markedLine line)
    rw [between.markedLine_of_ne nonzero]
    exact rests line List.mem_cons_self
  | block => exact lands_inSequence fun _ => lands
  | conditional => exact fun _ _ => lands
  | whileLoop tests => exact tests.lands lands
  | doLoop => exact lands_inSequence fun _ _ => lands
  | start => exact fun _ _ => lands
  | forLoop tests => exact tests.lands fun _ => lands
  | expression => exact fun _ _ => lands
  | assigned | truth => exact lands
  | both | either => exact lands.2
  | notBoth | oneOf => exact lands.1
  | rightOperand => exact fun _ _ => lands
  -- An operator, or a call, makes its own line the current one again.
  | joined | signed | builtin => exact lands.2.marked _ lands.1
  | argument => exact fun _ _ => lands
  | passed => exact lands_inSequence fun _ => lands.2.marked _ lands.1
  | declared | noBranch | finished | discarded => exact lands
  | returned => exact lands.2
  | thenBranch | elseBranch => exact lands_inSequence fun _ => lands
  | round => exact lands_inSequence fun _ _ => lands
  | stepped tests => exact tests.lands lands
  | follows => exact lands_inSequence (lands 0)
  | skips | leaves | broken | returns => exact lands 0
  | starts tests | again tests => exact tests.lands (lands 0)
  | steps => exact fun _ _ => lands 0
  | @ended between completion name scope callerFrame callerLine next result ends =>
    cases completion with
    | normal | returned => exact lands 0
    | broken | continued => simp [Completion.jump?] at ends
  | statement => exact fun _ => trivial
  | halted => trivial

end Lands

/-! ## How a jump travels -/

/-- A jump can go no further, for the cause of an error. -/
inductive Continuation.Refuses : Continuation .completion → Jump → Cause → Prop
  /-- The jump has come to the top level. -/
  | stray {rest : List Node} {root : Handle} {jump : Jump} :
      Refuses (.program rest root) jump (.strayJump jump)
  /-- The jump out of a loop has come to the end of a function. -/
  | escaped {name : String} {scope : Handle} {callerFrame : Option Handle} {callerLine : Int}
      {next : Continuation .value} {jump : Jump} (other : jump ≠ .returning) :
      Refuses (.calling name scope callerFrame callerLine next) jump (.escapedJump jump name)

/-- The jump that a statement is there for. -/
def Node.jump? : Node → Option Jump
  | .returning .. => some .returning
  | .breaking _ => some .breaking
  | .continuing _ => some .continuing
  | _ => none

/-- A sequence that is over at once completes normally. -/
theorem State.completion_eq_of_inSequence {nodes : List Node} {scope : Handle}
    {next outer : Continuation .completion} {completion : Completion}
    (same : inSequence nodes scope next = .completing completion outer) :
    completion = .normal := by
  cases nodes with
  | nil =>
    cases same
    rfl
  | cons => cases same

/-- A loop that is over at its test completes normally. -/
theorem Loop.Tests.completion_eq {loop : Loop} {next outer : Continuation .completion}
    {control : Control} {completion : Completion} (tests : loop.Tests next control)
    (same : control = .completing completion outer) : completion = .normal := by
  cases tests with
  | test => cases same
  | round => exact State.completion_eq_of_inSequence same

/-- A statement completes with a jump if it is one, if the value of a return is there, or if the jump
comes from inside; the jump then leaves the current line as it is. -/
theorem State.Moves.completing_inv {settings : Settings} {before : State} {control : Control}
    {completion : Completion} {next : Continuation .completion} {jump : Jump}
    (moves : before.Moves settings control) (same : control = .completing completion next)
    (jumps : completion.jump? = some jump) :
    (∃ node scope, before.control = .executing node scope next ∧ node.jump? = some jump ∧
      node.rests = [node.line] ∧ before.lineAfter = before.machine.markedLine node.line) ∨
    (∃ value, before.control = .delivering value (.returning next) ∧
      completion = .returned value ∧ before.lineAfter = before.machine.line) ∨
    ∃ inner, before.control = .completing completion inner ∧
      before.lineAfter = before.machine.line := by
  have impossible : ∀ {goal : Prop}, completion = .normal → goal := by
    rintro goal rfl
    cases jumps
  -- Moves that begin statements or expressions come to no completion, or to one without a jump.
  cases moves with
  | breaking | continuing =>
    cases same
    cases jumps
    exact Or.inl ⟨_, _, rfl, rfl, rfl, rfl⟩
  | returned =>
    cases same
    exact Or.inr (Or.inl ⟨_, rfl, rfl, rfl⟩)
  | skips | leaves =>
    cases same
    refine Or.inr (Or.inr ⟨_, rfl, ?_⟩)
    cases completion <;> rfl
  | returns =>
    cases same
    exact Or.inr (Or.inr ⟨_, rfl, rfl⟩)
  | whileLoop tests | forLoop tests | stepped tests | starts tests | again tests =>
    exact impossible (tests.completion_eq same)
  | direct | passed | block | doLoop | thenBranch | elseBranch | round | follows =>
    exact impossible (completion_eq_of_inSequence same)
  | function | declared | noBranch | finished | discarded | broken =>
    cases same
    cases jumps
  | _ => cases same

/-- The parts from one part on are the innermost ones dropped. -/
theorem Continuation.parts_suffix_of_mem {awaited : Awaited} {next : Continuation awaited}
    {part : Part} (mem : part ∈ next.parts) : part.2.parts <:+ next.parts := by
  induction next with
  | program =>
    obtain rfl := List.mem_singleton.mp mem
    exact List.suffix_refl _
  | assigning | conjunction | disjunction | truth | leftOperand | rightOperand | operand | argument
  | declaring | returning | branching | testing | stepping | discarding | sequence | leaving
  | starting | looping | calling =>
    rename_i inner ih
    obtain rfl | further := List.mem_cons.mp mem
    · exact List.suffix_refl _
    · exact (ih further).trans (List.suffix_cons ..)

/-- As long as a return waits for its value, it has not ended. -/
theorem Control.not_ends_of_mem {control : Control} {next : Continuation .completion}
    (mem : ⟨.value, .returning next⟩ ∈ control.parts) : ¬control.Ends next := by
  have longer : ⟨.value, .returning next⟩ ∉ next.parts := by
    intro inside
    have shorter := (Continuation.parts_suffix_of_mem inside).length_le
    exact absurd shorter (Nat.not_succ_le_self _)
  intro ends
  cases ends <;> exact longer mem

namespace Machine

variable {settings : Settings} {body : List Node} {machine : Machine}

/-- At a moment of a run, a return waits for its value, which may be there on a given line: it began to
be executed before, and has been waiting ever since. -/
def Returning (settings : Settings) (body : List Node) (machine : Machine) (now : Nat)
    (next : Continuation .completion) (line : Int) : Prop :=
  ∃ began < now, ∃ own value scope,
    (machine.course settings body began).control = .executing (.returning own value) scope next ∧
      line ∈ (Node.returning own value).rests ∧
      ∀ moment, began < moment → moment ≤ now →
        ⟨.value, .returning next⟩ ∈ (machine.course settings body moment).control.parts

/-- Whatever is evaluated comes to rest on one of its lines, and so does the value of a return. -/
theorem course_lands (releases : settings.releases = true) (rest : machine.AtRest)
    (lined : ∀ node ∈ body, node.All (·.line ≠ 0)) (now : Nat) :
    (machine.course settings body now).control.Lands (machine.Returning settings body now)
      (machine.course settings body now).machine.line := by
  induction now with
  | zero => exact fun _ => trivial
  | succ now ih =>
    have steps := State.step_steps releases (course_orderly releases rest body now)
    rw [← course_succ] at steps
    cases steps with
    | moves line_eq moves =>
      -- The returns that wait, with the one that begins now, if there is one.
      let begun := fun next line => machine.Returning settings body now next line ∨
        ∃ own value scope, (machine.course settings body now).control =
          .executing (.returning own value) scope next ∧ line ∈ (Node.returning own value).rests
      rw [line_eq]
      refine (moves.lands (ih.mono fun _ _ _ => Or.inl) ?_ ?_ : Control.Lands begun _ _).mono ?_
      · exact fun node scope next control =>
          (all_of_evaluating releases rest lined control).here
      · intro own value scope next control
        exact ⟨(all_of_executing releases rest lined control).here,
          fun other mem => Or.inr ⟨own, value, scope, control, mem⟩⟩
      · rintro next line mem (⟨began, before, own, value, scope, control, rests, since⟩ |
          ⟨own, value, scope, control, rests⟩)
        · refine ⟨began, Nat.lt_succ_of_lt before, own, value, scope, control, rests, ?_⟩
          intro moment after upTo
          obtain rfl | earlier := Nat.eq_or_lt_of_le upTo
          · exact mem
          · exact since moment after (Nat.le_of_lt_succ earlier)
        · refine ⟨now, Nat.lt_succ_self now, own, value, scope, control, rests, ?_⟩
          intro moment after upTo
          obtain rfl : moment = now + 1 := by omega
          exact mem
    | raises control_eq =>
      rw [control_eq]
      trivial
    | unwinds unwinding unwinds =>
      obtain halted | ⟨outer, below, further⟩ := unwinds
      · rw [halted]
        trivial
      · rw [further]
        trivial
    | stays halted stays =>
      rw [stays, halted]
      trivial

/-- A statement is executed from a moment of a run on, and completes at another one. -/
structure Completes (settings : Settings) (body : List Node) (machine : Machine)
    (began ended : Nat) (node : Node) (completion : Completion) : Prop where
  ordered : began < ended
  executes : ∃ scope next, (machine.course settings body began).control = .executing node scope next ∧
    (machine.course settings body ended).control = .completing completion next ∧
    ∀ moment, began ≤ moment → moment < ended →
      ¬(machine.course settings body moment).control.Ends next

/-- A jump is executed from a moment of a run on, comes to rest at another one, and travels outward
until now. -/
structure Signals (settings : Settings) (body : List Node) (machine : Machine)
    (began rested now : Nat) (node : Node) (completion : Completion) : Prop
    extends machine.Completes settings body began rested node completion where
  /-- The node is the statement of the jump. -/
  jumps : ∃ jump, node.jump? = some jump ∧ completion.jump? = some jump
  upTo : rested ≤ now
  /-- From then on, nothing but its completion goes on. -/
  travels : ∀ moment, rested ≤ moment → moment ≤ now →
    ∃ next, (machine.course settings body moment).control = .completing completion next

/-- A jump goes on travelling. -/
theorem Signals.succ {began rested now : Nat} {node : Node} {completion : Completion}
    {next : Continuation .completion}
    (signals : machine.Signals settings body began rested now node completion)
    (control : (machine.course settings body (now + 1)).control = .completing completion next) :
    machine.Signals settings body began rested (now + 1) node completion where
  toCompletes := signals.toCompletes
  jumps := signals.jumps
  upTo := Nat.le_succ_of_le signals.upTo
  travels := by
    intro moment after upTo
    obtain rfl | earlier := Nat.eq_or_lt_of_le upTo
    · exact ⟨next, control⟩
    · exact signals.travels moment after (Nat.le_of_lt_succ earlier)

/-- A jump that has just come to rest is the completion of its statement. -/
theorem signals_of_rested {began now : Nat} {node : Node} {scope : Handle}
    {next : Continuation .completion} {completion : Completion} {jump : Jump}
    (before : began < now) (jumps : node.jump? = some jump)
    (same : completion.jump? = some jump)
    (executes : (machine.course settings body began).control = .executing node scope next)
    (control : (machine.course settings body now).control = .completing completion next)
    (lasts : ∀ moment, began < moment → moment < now →
      ¬(machine.course settings body moment).control.Ends next) :
    machine.Signals settings body began now now node completion where
  ordered := before
  jumps := ⟨jump, jumps, same⟩
  upTo := Nat.le_refl _
  executes := by
    refine ⟨scope, next, executes, control, ?_⟩
    intro moment after upTo ends
    obtain rfl | later := Nat.eq_or_lt_of_le after
    · rw [executes] at ends
      cases ends
    · exact lasts moment later upTo ends
  travels := by
    intro moment after upTo
    obtain rfl := Nat.le_antisymm upTo after
    exact ⟨next, control⟩

/-- A jump that travels was executed, and the current line is one on which it may have come to rest. -/
theorem exists_signals (releases : settings.releases = true) (rest : machine.AtRest)
    (lined : ∀ node ∈ body, node.All (·.line ≠ 0)) {now : Nat} {completion : Completion}
    {next : Continuation .completion} {jump : Jump}
    (control : (machine.course settings body now).control = .completing completion next)
    (jumps : completion.jump? = some jump) :
    ∃ began rested node, machine.Signals settings body began rested now node completion ∧
      (machine.course settings body now).machine.line ∈ node.rests := by
  induction now generalizing next with
  | zero =>
    cases control
    cases jumps
  | succ now ih =>
    obtain ⟨line_eq, moves⟩ := course_moves releases rest (by rw [control]; rfl)
    -- A jump comes to rest where it is executed, or with its value, or it travelled before.
    obtain ⟨node, scope, executes, named, rests, marks⟩ | ⟨value, delivers, rfl, still⟩ |
      ⟨inner, travels, still⟩ := moves.completing_inv control jumps
    · -- The jump comes to rest with its first step.
      refine ⟨now, now + 1, node, signals_of_rested (Nat.lt_succ_self now) named jumps executes
        control ?_, ?_⟩
      · intro moment after upTo
        omega
      · have nonzero := (all_of_executing releases rest lined executes).here
        rw [line_eq, marks, Machine.markedLine_of_ne _ nonzero, rests]
        exact List.mem_cons_self
    · -- The value of a return is there, which has been waiting for it.
      have lands := course_lands releases rest lined now
      rw [delivers] at lands
      obtain ⟨⟨began, before, own, given, scope, executes, rested, since⟩, -⟩ := lands
      cases jumps
      refine ⟨began, now + 1, _, signals_of_rested (Nat.lt_succ_of_lt before) rfl rfl executes
        control ?_, ?_⟩
      · intro moment after upTo
        exact Control.not_ends_of_mem (since moment after (Nat.le_of_lt_succ upTo))
      · rw [line_eq, still]
        exact rested
    · obtain ⟨began, rested, node, signals, mem⟩ := ih travels
      refine ⟨began, rested, node, signals.succ control, ?_⟩
      rw [line_eq, still]
      exact mem

/-- An error of a jump is raised where the jump can go no further. -/
theorem exists_completing_of_raises {state : State} {cause : Cause}
    (raises : state.Raises settings cause) (jumped : cause.kind = .controlFlow) :
    ∃ completion next jump, state.control = .completing completion next ∧
      completion.jump? = some jump ∧ next.Refuses jump cause ∧
      state.lineAfter = state.machine.line := by
  cases raises with
  | @stray between completion nodes root jump jumps =>
    refine ⟨completion, _, jump, rfl, jumps, .stray, ?_⟩
    cases completion with
    | normal => cases jumps
    | broken | continued | returned => rfl
  | @escaped between completion name scope callerFrame callerLine next jump jumps other =>
    refine ⟨completion, _, jump, rfl, jumps, .escaped other, ?_⟩
    cases completion with
    | normal => cases jumps
    | broken | continued => rfl
    | returned =>
      cases jumps
      exact absurd rfl other
  | unbound | target | misplaced | missing | callee | arity | deep | crowded => cases jumped
  | joined failed =>
    obtain kind_eq | kind_eq := Operator.kind_of_binary failed <;>
      rw [jumped] at kind_eq <;> cases kind_eq
  | signed failed =>
    obtain kind_eq | kind_eq := Operator.kind_of_unary failed <;>
      rw [jumped] at kind_eq <;> cases kind_eq

/-- A jump without a result comes to rest on its own line. -/
theorem Signals.rests_eq {began rested now : Nat} {node : Node} {completion : Completion}
    (signals : machine.Signals settings body began rested now node completion)
    (bare : ∀ line value, node ≠ .returning line (some value)) : node.rests = [node.line] := by
  obtain ⟨jump, named, -⟩ := signals.jumps
  cases node with
  | breaking | continuing => rfl
  | returning line value =>
    cases value with
    | none => rfl
    | some value => exact absurd rfl (bare line value)
  | _ => cases named

/-- Where all nodes have lines, an error of a jump that a run ends with is raised where a jump can go no
further, which was executed before, came to rest and travelled there.  It is blamed on a line on which
that jump may have come to rest: on that of the jump's node, unless the jump has a result. -/
theorem run_blames_jump (releases : settings.releases = true) (rest : machine.AtRest)
    (lined : ∀ node ∈ body, node.All (·.line ≠ 0)) {steps : Nat} {error : Error}
    (failed : (machine.run settings steps body).1 = .failed (.error error))
    (jumped : error.cause.kind = .controlFlow) :
    ∃ moment < steps, machine.Fails settings body moment error ∧
      ∃ began rested node completion jump,
        machine.Signals settings body began rested moment node completion ∧
        node.jump? = some jump ∧
        (error.cause = .strayJump jump ∨ ∃ function, error.cause = .escapedJump jump function) ∧
        error.line ∈ node.rests ∧
        ((∀ line value, node ≠ .returning line (some value)) → error.line = node.line) := by
  obtain ⟨moment, before, fails, line_eq⟩ := exists_fails_of_run releases rest failed
  obtain ⟨completion, next, jump, control, jumps, refuses, still⟩ :=
    exists_completing_of_raises fails.raises jumped
  have cause_eq : error.cause = .strayJump jump ∨ ∃ name, error.cause = .escapedJump jump name := by
    generalize error.cause = cause at refuses
    cases refuses with
    | stray => exact Or.inl rfl
    | escaped other => exact Or.inr ⟨_, rfl⟩
  obtain ⟨began, rested, node, signals, mem⟩ := exists_signals releases rest lined control jumps
  obtain ⟨same, named, jumps'⟩ := signals.jumps
  obtain rfl := Option.some.inj (jumps.symm.trans jumps')
  rw [← still, ← line_eq] at mem
  refine ⟨moment, before, fails, began, rested, node, completion, jump, signals, named, cause_eq, mem,
    fun bare => ?_⟩
  rw [signals.rests_eq bare] at mem
  exact List.mem_singleton.mp mem

/-- A program in which a function breaks out of a loop that it is not in. -/
def breakingProgram : List Node :=
  [.function 1 "stop" [] [.conditional 2 (.integer 2 1) [.breaking 3] none], .call 6 "stop" []]

/-- A `break` in a called function is blamed on its own line, which is the third. -/
theorem breakingProgram_blames_jump :
    (initial.run .plain 30 breakingProgram).1 =
        .failed (.error ⟨.escapedJump .breaking "stop", 3⟩) ∧
      ∃ moment < 30,
        initial.Fails .plain breakingProgram moment ⟨.escapedJump .breaking "stop", 3⟩ ∧
        ∃ began rested node completion jump,
          initial.Signals .plain breakingProgram began rested moment node completion ∧
          node.jump? = some jump ∧
          (Cause.escapedJump .breaking "stop" = .strayJump jump ∨
            ∃ function, Cause.escapedJump .breaking "stop" = .escapedJump jump function) ∧
          3 ∈ node.rests ∧ ((∀ line value, node ≠ .returning line (some value)) → 3 = node.line) := by
  have failed : (initial.run .plain 30 breakingProgram).1 =
      .failed (.error ⟨.escapedJump .breaking "stop", 3⟩) := by
    decide +kernel
  have lined : ∀ node ∈ breakingProgram, ∀ inner ∈ node.nodes, inner.line ≠ 0 := by decide
  exact ⟨failed, run_blames_jump rfl atRest_initial lined failed rfl⟩

/-- A return at the top level, with its result on the next line. -/
def splitReturn : List Node :=
  [.returning 1 (some (.integer 2 1))]

/-- The error is blamed on the line of the result, which is not that of the jump. -/
theorem splitReturn_misblamed :
    Program.ofSource "return\n1;" = .ok (.program 0 splitReturn) ∧
      (∀ node ∈ splitReturn, node.All (·.line ≠ 0)) ∧
      (initial.run .plain 10 splitReturn).1 = .failed (.error ⟨.strayJump .returning, 2⟩) ∧
      ∀ node ∈ splitReturn, node.All fun inner => inner.jump?.isSome → inner.line = 1 := by
  have lined : ∀ node ∈ splitReturn, ∀ inner ∈ node.nodes, inner.line ≠ 0 := by decide
  have lone : ∀ node ∈ splitReturn, ∀ inner ∈ node.nodes, inner.jump?.isSome → inner.line = 1 := by
    decide
  exact ⟨by cbv, lined, by decide +kernel, lone⟩

end Machine

end Scriptlet
