import Scriptlet.Proofs.Machine.Move
import Scriptlet.Proofs.Machine.Within

/-! # The lines that a run mentions

A run mentions lines in the reports of its errors and in its trace.  They are the lines of its nodes,
and the line at which it started, for a node without a line leaves the current one as it is.  So what
holds of all these lines holds of every line that the run ever mentions.

Main definitions:

* `Continuation.Mentions`: the lines that are kept for later have a property.
* `Control.Visits`: the node that begins now, if there is one, has a property.
* `Event.Mentions`: the line that an event mentions, if there is one, has a property.

Main statements:

* `State.Moves.mentions`: a step keeps lines with the property only.
* `Machine.course_mentions`: at every moment of a run, the current line and those that are kept have
  the property.
* `Machine.course_lineAfter`, `Machine.course_tells`: so have the lines of errors and events. -/

namespace Scriptlet

variable {holds : Int → Prop}

/-! ## Lines that are kept -/

/-- The line with which a loop tells of its tests has a property. -/
def Loop.Mentions (holds : Int → Prop) (loop : Loop) : Prop :=
  ∀ condition ∈ loop.condition, holds condition.line

/-- The lines that are kept for what is left to do have a property. -/
def Continuation.Mentions (holds : Int → Prop) {awaited : Awaited} : Continuation awaited → Prop
  | .leftOperand line _ _ _ next | .rightOperand line _ _ next | .operand line _ next
  | .argument line _ _ _ _ next => holds line ∧ next.Mentions holds
  | .branching line _ _ _ next => holds line ∧ next.Mentions holds
  | .testing line loop next => holds line ∧ loop.Mentions holds ∧ next.Mentions holds
  | .stepping loop next | .starting loop next | .looping loop next =>
    loop.Mentions holds ∧ next.Mentions holds
  | .calling _ _ _ callerLine next => holds callerLine ∧ next.Mentions holds
  | .assigning _ _ next | .conjunction _ _ next | .disjunction _ _ next | .truth next =>
    next.Mentions holds
  | .declaring _ _ next | .returning next | .discarding next | .sequence _ _ next
  | .leaving _ next => next.Mentions holds
  | .program rest _ => ∀ node ∈ rest, holds node.line

/-- The lines that are kept have a property, unless the run is over or on its way out. -/
def Control.Mentions (holds : Int → Prop) : Control → Prop
  | .evaluating _ _ next => next.Mentions holds
  | .executing _ _ next => next.Mentions holds
  | .delivering _ next => next.Mentions holds
  | .completing _ next => next.Mentions holds
  | .unwinding .. | .halted _ => True

/-- The node that begins now, if there is one, has a property. -/
def Control.Visits (property : Node → Prop) : Control → Prop
  | .evaluating node _ _ | .executing node _ _ => property node
  | .delivering .. | .completing .. | .unwinding .. | .halted _ => True

/-- What begins has a weaker property, too. -/
theorem Control.Visits.mono {property weaker : Node → Prop} {control : Control}
    (visits : control.Visits property) (implies : ∀ node, property node → weaker node) :
    control.Visits weaker := by
  cases control with
  | evaluating node | executing node => exact implies node visits
  | delivering | completing | unwinding | halted => trivial

/-- The line that an event mentions, if there is one, has a property. -/
def Event.Mentions (holds : Int → Prop) : Event → Prop
  | .branched line _ | .tested line _ | .evaluated line _ => holds line
  | .called .. | .returned .. | .defined .. | .declared .. | .assigned .. => True

/-- An event can be told of if the line that it mentions can be written. -/
theorem Event.isWritable_of_mentions {event : Event}
    (mentions : event.Mentions fun line => Decimal.isWritable line = true) :
    event.isWritable = true := by
  cases event with
  | branched | tested | evaluated => exact mentions
  | called | returned | defined | declared | assigned => rfl

/-- The current line, once a line has been marked, is that line, or it is the one that was current
before. -/
theorem Machine.holds_markedLine {machine : Machine} {line : Int} (current : holds machine.line)
    (given : holds line) : holds (machine.markedLine line) := by
  rw [markedLine]
  split
  · exact current
  · exact given

namespace State

/-- Statements that follow keep what is kept after them. -/
theorem mentions_inSequence {nodes : List Node} {scope : Handle} {next : Continuation .completion}
    (mentions : next.Mentions holds) : (inSequence nodes scope next).Mentions holds := by
  cases nodes with
  | nil => exact mentions
  | cons node rest => exact mentions

/-- A loop that goes on with its test keeps its own line, and what is kept after it. -/
theorem mentions_of_tests {loop : Loop} {next : Continuation .completion} {control : Control}
    (tests : loop.Tests next control) (loopMentions : loop.Mentions holds)
    (mentions : next.Mentions holds) : control.Mentions holds := by
  cases tests with
  | test given => exact ⟨loopMentions _ given, loopMentions, mentions⟩
  | round => exact mentions_inSequence ⟨loopMentions, mentions⟩

variable {settings : Settings} {before : State} {control : Control}

/-- A step keeps lines with a property, if the current one has it, those that were kept have it, and
those of a node that begins and of all nodes inside it. -/
theorem Moves.mentions (moves : before.Moves settings control) (current : holds before.machine.line)
    (mentions : before.control.Mentions holds)
    (visits : before.control.Visits (Node.All fun node => holds node.line)) :
    control.Mentions holds := by
  cases moves with
  -- Nothing is kept beyond what was kept before.
  | value | assignment | conjunction | disjunction | function | initialized | uninitialized | result
  | noResult | breaking | continuing | expression | assigned | both | notBoth | either | oneOf
  | truth | declared | returned | discarded | skips | leaves =>
    exact mentions
  | signed | joined | builtin | noBranch | ended => exact mentions.2
  | broken | returns => exact mentions.2
  | finished => exact mentions.2.2
  | block => exact mentions_inSequence mentions
  | thenBranch | elseBranch => exact mentions_inSequence mentions.2
  | round => exact mentions_inSequence mentions.2
  | follows => exact mentions_inSequence mentions
  | statement => exact fun node mem => mentions node (List.mem_cons_of_mem _ mem)
  | halted => trivial
  -- The line of the node is kept until its operands, arguments or conditions have values.
  | operation | sign | firstArgument | conditional => exact ⟨visits.here, mentions⟩
  | rightOperand | argument => exact mentions
  | direct calls => exact mentions_inSequence ⟨Machine.holds_markedLine current visits.here, mentions⟩
  | passed => exact mentions_inSequence ⟨Machine.holds_markedLine current mentions.1, mentions.2⟩
  -- A loop keeps the line of its condition.
  | whileLoop tests =>
    refine mentions_of_tests tests ?_ mentions
    rintro condition ⟨⟩
    exact (visits.child (by simp [Node.children])).here
  | doLoop =>
    refine mentions_inSequence ⟨?_, mentions⟩
    rintro condition ⟨⟩
    exact (visits.child (by simp [Node.children])).here
  | start =>
    refine ⟨?_, mentions⟩
    rintro condition ⟨⟩
    exact (visits.child (by simp [Node.children])).here
  | forLoop tests =>
    refine mentions_of_tests tests ?_ mentions
    rintro condition ⟨⟩
    exact (visits.child (by simp [Node.children])).here
  | stepped tests | starts tests | again tests => exact mentions_of_tests tests mentions.1 mentions.2
  | steps given => exact mentions

/-- The line that is the current one after a step has a property that the current line, the lines
that are kept and the line of a node that begins have. -/
theorem holds_lineAfter {state : State} (current : holds state.machine.line)
    (mentions : state.control.Mentions holds)
    (visits : state.control.Visits fun node => holds node.line) : holds state.lineAfter := by
  obtain ⟨machine, control⟩ := state
  cases control with
  | evaluating | executing => exact Machine.holds_markedLine current visits
  | unwinding | halted => exact current
  -- A value moves the line only when an operator or a call is carried out with it.
  | delivering value next =>
    cases next with
    | rightOperand | operand => exact Machine.holds_markedLine current mentions.1
    | argument line callee finished rest =>
      cases rest with
      | nil => exact Machine.holds_markedLine current mentions.1
      | cons => exact current
    | _ => exact current
  -- A completion moves it back to the line of a call, or on to the next statement of the program.
  | completing completion next =>
    cases next with
    | calling =>
      cases completion with
      | normal | returned => exact mentions.1
      | broken | continued => exact current
    | program nodes root =>
      cases completion with
      | normal =>
        cases nodes with
        | nil => exact current
        | cons node rest => exact mentions node (List.mem_cons_self ..)
      | broken | continued | returned => exact current
    | sequence | leaving | starting | looping =>
      cases completion <;> exact current

/-- The line of an event that the next step may tell of has such a property. -/
theorem Tells.mentions {state : State} {event : Event} (tells : state.Tells event)
    (current : holds state.machine.line) (mentions : state.control.Mentions holds)
    (visits : state.control.Visits fun node => holds node.line) : event.Mentions holds := by
  cases tells with
  | evaluated => exact Machine.holds_markedLine current visits
  | branched | tested => exact mentions.1

end State

/-! ## Lines of a run -/

namespace Machine

variable {settings : Settings} {body : List Node} {machine : Machine} {now : Nat}

/-- What begins at a moment of a run has all properties that all nodes of the program have. -/
theorem course_visits {property : Node → Prop} (releases : settings.releases = true)
    (rest : machine.AtRest) (all : ∀ node ∈ body, node.All property) (now : Nat) :
    (machine.course settings body now).control.Visits (Node.All property) := by
  have permits := (course_within releases rest all now).control
  cases control : (machine.course settings body now).control with
  | evaluating | executing =>
    rw [control] at permits
    exact permits.1.2
  | delivering | completing | unwinding | halted => trivial

/-- At every moment of a run that goes on, the current line and those that are kept have a property,
if the lines of all nodes have it and the one at which the run started. -/
theorem course_mentions (releases : settings.releases = true) (rest : machine.AtRest)
    (lines : ∀ node ∈ body, node.All fun inner => holds inner.line) (first : holds machine.line)
    (going : (machine.course settings body now).control.isGoing = true) :
    holds (machine.course settings body now).machine.line ∧
      (machine.course settings body now).control.Mentions holds := by
  induction now with
  | zero => exact ⟨first, fun node mem => (lines node mem).here⟩
  | succ now ih =>
    obtain ⟨line_eq, moves⟩ := course_moves releases rest going
    obtain ⟨current, mentions⟩ := ih moves.isGoing
    have visits := course_visits releases rest lines now
    refine ⟨?_, moves.mentions current mentions visits⟩
    rw [line_eq]
    exact State.holds_lineAfter current mentions (visits.mono fun _ => Node.All.here)

/-- So has the line on which an error of the next step would be blamed. -/
theorem course_lineAfter (holds : Int → Prop) (releases : settings.releases = true)
    (rest : machine.AtRest)
    (lines : ∀ node ∈ body, node.All fun inner => holds inner.line) (first : holds machine.line)
    (going : (machine.course settings body now).control.isGoing = true) :
    holds (machine.course settings body now).lineAfter := by
  obtain ⟨current, mentions⟩ := course_mentions releases rest lines first going
  exact State.holds_lineAfter current mentions
    ((course_visits releases rest lines now).mono fun _ => Node.All.here)

/-- So has the line of an event that the next step may tell of. -/
theorem course_tells (holds : Int → Prop) (releases : settings.releases = true)
    (rest : machine.AtRest)
    (lines : ∀ node ∈ body, node.All fun inner => holds inner.line) (first : holds machine.line)
    {event : Event} (tells : (machine.course settings body now).Tells event) :
    event.Mentions holds := by
  have going : (machine.course settings body now).control.isGoing = true := by
    generalize machine.course settings body now = state at tells
    cases tells <;> rfl
  obtain ⟨current, mentions⟩ := course_mentions releases rest lines first going
  exact tells.mentions current mentions
    ((course_visits releases rest lines now).mono fun _ => Node.All.here)

end Machine

end Scriptlet
