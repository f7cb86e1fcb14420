import Scriptlet.Proofs.Machine.Retelling
import Scriptlet.Session

/-! # Runs of a session are isolated

A session may have run programs before, each to its end or to an error.  A run leaves nothing behind
but the order of creation, the number of functions and the current line, and none of these can be
observed in a later run.

Main definitions:

* `Session.Reached`: the sessions that running programs to their ends leads to.
* `Session.Vacant`: nothing of a run is left in a session.

Main statements: `Session.run_isolated`: a run is reported as in a new session, and leaves the
session vacant if it ends. -/

namespace Scriptlet

/-- A run after a past is told as the run without it, its events after the past as well. -/
def Past.retelling (past : Past) : Retelling :=
  ⟨past, id, List.map past.event⟩

/-- What is told after a past is what is told without, at the same verbosity. -/
theorem Past.follows_retelling (past : Past) (settings : Settings) :
    past.retelling.Follows settings settings.verbosity where
  printed_cons _ _ := rfl
  traced_told _ _ told := by
    rw [if_pos told]
    rfl
  untold _ := id

namespace Machine

variable {settings : Settings} {machine : Machine}

/-- What a machine that runs nothing has left behind. -/
def past (machine : Machine) : Past :=
  ⟨machine.store.scopes, machine.functions⟩

/-- A machine that runs nothing differs from the first one in its past and in its line. -/
theorem AtRest.eq_past (rest : machine.AtRest) (root : machine.root = none)
    (printed : machine.printed = []) (traced : machine.traced = []) (noted : machine.noted = []) :
    machine = { machine.past.retelling.machine .initial with line := machine.line } := by
  obtain ⟨⟨scopes, slots, free, pinned⟩, line, callDepth, frame, _, functions, _, _, _⟩ := machine
  obtain ⟨cleared, rfl, rfl⟩ := rest
  obtain ⟨rfl, rfl, rfl⟩ : #[] = slots ∧ [] = free ∧ ∅ = pinned := by
    simpa [Store.clear] using cleared
  subst root printed traced noted
  simp [Retelling.machine, Past.retelling, Machine.past, Machine.initial, Past.store, Store.empty]

/-- A run starts in the same way after a past. -/
theorem start_past (past : Past) (body : List Node) (machine : Machine) :
    State.start body (past.retelling.machine machine) =
      past.retelling.state (State.start body machine) := by
  simp only [State.start, Store.createRoot, Retelling.machine, Past.retelling, Past.create_store]
  rfl

/-- The line that is current before a run is forgotten when the run begins. -/
theorem course_withLine (settings : Settings) (body : List Node) (machine : Machine) (line : Int)
    (steps : Nat) :
    (course settings body { machine with line } steps).outcome =
        (course settings body machine steps).outcome ∧
      (course settings body { machine with line } steps).machine.printed =
        (course settings body machine steps).machine.printed ∧
      (course settings body { machine with line } steps).machine.traced =
        (course settings body machine steps).machine.traced := by
  cases steps with
  | zero => exact ⟨rfl, rfl, rfl⟩
  | succ steps =>
    cases body with
    -- Without statements the run is finished after its first step.
    | nil => cases steps <;> exact ⟨rfl, rfl, rfl⟩
    -- The first step makes the line of the first statement the current one.
    | cons node rest => exact ⟨rfl, rfl, rfl⟩

/-- What a run brings about does not depend on earlier ones. -/
theorem course_isolated (rest : machine.AtRest) (root : machine.root = none)
    (printed : machine.printed = []) (traced : machine.traced = []) (noted : machine.noted = [])
    (settings : Settings) (body : List Node) (steps : Nat) :
    (machine.course settings body steps).outcome =
        (Machine.initial.course settings body steps).outcome ∧
      (machine.course settings body steps).machine.printed =
        (Machine.initial.course settings body steps).machine.printed ∧
      (machine.course settings body steps).machine.traced.map Event.text =
        (Machine.initial.course settings body steps).machine.traced.map Event.text := by
  have moved : (machine.past.retelling.machine .initial).course settings body steps =
      machine.past.retelling.state (Machine.initial.course settings body steps) := by
    rw [course, course, start_past]
    -- Nothing is left out, since the verbosity is the same.
    exact Retelling.advance_state (machine.past.follows_retelling settings)
      fun _ _ _ _ told untold => by omega
  obtain ⟨outcome, lines, events⟩ :=
    course_withLine settings body (machine.past.retelling.machine .initial) machine.line steps
  rw [← rest.eq_past root printed traced noted, moved] at outcome lines events
  refine ⟨?_, ?_, ?_⟩
  · rw [outcome, Retelling.outcome_state]
  · rw [lines]
    rfl
  · rw [events]
    simp [Retelling.state, Retelling.machine, Past.retelling, Function.comp_def]

end Machine

namespace Session

/-- The sessions in which programs have been run one after the other, each to its end or to an
error. -/
inductive Reached : Session → Prop
  /-- No program has been run. -/
  | start (settings : Settings) (releases : settings.releases = true) :
    Reached (Session.start settings)
  /-- One more program has been run. -/
  | run {session : Session} (reached : Reached session) (steps : Nat) (body : List Node)
    (finished : (session.run steps body).1.outcome ≠ .unfinished) :
    Reached (session.run steps body).2

/-- Nothing of a run is left in a session. -/
structure Vacant (session : Session) : Prop where
  slots_eq : session.machine.store.slots = #[]
  free_eq : session.machine.store.free = []
  pinned_eq : session.machine.store.pinned = ∅
  root_eq : session.machine.root = none
  frame_eq : session.machine.frame = none
  depth_eq : session.machine.callDepth = 0
  file_ne : session.file ≠ .opened

/-- What holds of a session between its runs. -/
structure Ready (session : Session) : Prop where
  releases : session.settings.releases = true
  rest : session.machine.AtRest
  root_eq : session.machine.root = none
  printed_eq : session.machine.printed = []
  traced_eq : session.machine.traced = []
  noted_eq : session.machine.noted = []
  file_eq : session.file = .absent ↔ session.settings.verbosity ≤ 0

/-- A new session is ready. -/
theorem ready_start {settings : Settings} (releases : settings.releases = true) :
    (Session.start settings).Ready := by
  refine ⟨releases, Machine.atRest_initial, rfl, rfl, rfl, rfl, ?_⟩
  by_cases traces : 0 < settings.verbosity
  · simp [Session.start, traces]
  · simp [Session.start, traces]
    omega

variable {session : Session}

/-- Opening the trace keeps the settings. -/
@[simp] theorem settings_openFile (session : Session) :
    session.openFile.settings = session.settings := by
  rw [openFile]
  split <;> rfl

/-- It keeps the machine. -/
@[simp] theorem machine_openFile (session : Session) :
    session.openFile.machine = session.machine := by
  rw [openFile]
  split <;> rfl

/-- Closing the trace keeps the settings. -/
@[simp] theorem settings_closeFile (session : Session) :
    session.closeFile.settings = session.settings := by
  rw [closeFile]
  split <;> rfl

/-- It keeps the machine. -/
@[simp] theorem machine_closeFile (session : Session) :
    session.closeFile.machine = session.machine := by
  rw [closeFile]
  split <;> rfl

/-- A trace that has been closed is not open. -/
theorem file_closeFile_ne (session : Session) : session.closeFile.file ≠ .opened := by
  rw [closeFile]
  split
  · simp
  · assumption

/-- A trace that has been closed is still there. -/
theorem file_closeFile_iff (session : Session) :
    session.closeFile.file = .absent ↔ session.file = .absent := by
  rw [closeFile]
  split
  · simp_all
  · rfl

/-! ## What a run does to a session -/

section Run

variable (session : Session) (steps : Nat) (body : List Node)

/-- A run ends as its course does. -/
@[simp] theorem outcome_run : (session.run steps body).1.outcome =
    (session.machine.course session.settings body steps).outcome := by
  simp [Session.run, Machine.run, Machine.course]

/-- It prints what its course does, in order. -/
@[simp] theorem printed_run : (session.run steps body).1.printed =
    (session.machine.course session.settings body steps).machine.printed.reverse := by
  simp [Session.run, Machine.run, Machine.course]

/-- It keeps the settings. -/
@[simp] theorem settings_run : (session.run steps body).2.settings = session.settings := by
  simp [Session.run]

/-- It leaves the machine of its course, without what was printed and told. -/
@[simp] theorem machine_run : (session.run steps body).2.machine =
    { (session.machine.course session.settings body steps).machine with
      printed := [], noted := [], traced := [] } := by
  simp [Session.run, Machine.run, Machine.course]

/-- It leaves no trace open. -/
theorem file_run_ne : (session.run steps body).2.file ≠ .opened :=
  file_closeFile_ne _

/-- It leaves a trace if it opened one. -/
theorem file_run_iff :
    (session.run steps body).2.file = .absent ↔ session.openFile.file = .absent :=
  file_closeFile_iff _

end Run

/-- The trace file is there during a run if anything can be traced. -/
theorem Ready.file_openFile (ready : session.Ready) :
    session.openFile.file = .absent ↔ session.settings.verbosity ≤ 0 := by
  rw [openFile]
  split
  · simp only [reduceCtorEq, false_iff]
    omega
  · exact ready.file_eq

/-- A run in a ready session tells the events of its course, if it is to tell any. -/
theorem Ready.traced_run (ready : session.Ready) (steps : Nat) (body : List Node) :
    (session.run steps body).1.traced = if session.settings.verbosity ≤ 0 then none else
      some ((session.machine.course session.settings body steps).machine.traced.map
        Event.text).reverse := by
  by_cases silent : session.settings.verbosity ≤ 0
  · simp [Session.run, hasFile, ready.file_openFile, silent]
  · simp [Session.run, hasFile, ready.file_openFile, silent, Machine.run, Machine.course]

/-- A session is ready for the next run when one is finished. -/
theorem Ready.run (ready : session.Ready) {steps : Nat} {body : List Node}
    (finished : (session.run steps body).1.outcome ≠ .unfinished) :
    (session.run steps body).2.Ready := by
  rw [outcome_run] at finished
  obtain ⟨⟨cleared, frame, depth⟩, root⟩ := Machine.course_atRest_and_root ready.releases ready.rest
    body (Machine.isHalted_of_outcome finished)
  constructor
  · simpa using ready.releases
  · constructor <;> simpa
  · simpa using root
  · simp
  · simp
  · simp
  · rw [file_run_iff, ready.file_openFile, settings_run]

/-- A run that ends leaves nothing in a ready session. -/
theorem Ready.vacant_run (ready : session.Ready) {steps : Nat} {body : List Node}
    (finished : (session.run steps body).1.outcome ≠ .unfinished) :
    (session.run steps body).2.Vacant := by
  obtain ⟨cleared, frame, depth⟩ := (ready.run finished).rest
  have root := (ready.run finished).root_eq
  constructor
  · rw [← cleared]
    rfl
  · rw [← cleared]
    rfl
  · rw [← cleared]
    rfl
  · exact root
  · exact frame
  · exact depth
  · exact file_run_ne session steps body

/-- All sessions that runs lead to are ready. -/
theorem Reached.ready (reached : session.Reached) : session.Ready := by
  induction reached with
  | start settings releases => exact ready_start releases
  | run reached steps body finished ih => exact ih.run finished

/-- Runs are isolated from each other: however many programs have been run in a session, each to its
end or to an error, the next one has the outcome, prints the lines and adds the lines to the trace
that it has, prints and adds in a new session with the same settings; and nothing of it is left when
it is over. -/
theorem run_isolated {session : Session} (reached : session.Reached) (steps : Nat)
    (body : List Node) :
    (session.run steps body).1.outcome =
        ((Session.start session.settings).run steps body).1.outcome ∧
      (session.run steps body).1.printed =
        ((Session.start session.settings).run steps body).1.printed ∧
      (session.run steps body).1.traced =
        ((Session.start session.settings).run steps body).1.traced ∧
      ((session.run steps body).1.outcome ≠ .unfinished → (session.run steps body).2.Vacant) := by
  have ready := reached.ready
  have fresh := ready_start ready.releases
  obtain ⟨outcome, printed, traced⟩ := Machine.course_isolated ready.rest ready.root_eq
    ready.printed_eq ready.traced_eq ready.noted_eq session.settings body steps
  refine ⟨?_, ?_, ?_, ready.vacant_run⟩
  · rw [outcome_run, outcome_run, outcome]
    rfl
  · rw [printed_run, printed_run, printed]
    rfl
  · rw [ready.traced_run, fresh.traced_run, traced]
    rfl

/-- A program that fails in a call, in the argument of another call, in a loop, in a call. -/
def failingProgram : List Node :=
  [.function 1 "outer" ["x"]
    [.whileLoop 2 (.integer 2 1) [.call 3 "print" [.call 3 "inner" [.reference 3 "x"]]]],
    .function 5 "inner" ["y"]
      [.returning 6 (some (.binary 6 "/" (.reference 6 "y") (.integer 6 0)))],
    .call 8 "outer" [.integer 8 7]]

/-- A session in which a program has failed. -/
def troubledSession : Session :=
  ((Session.start (settingsFor 1 (some 10) [])).run 60 failingProgram).2

/-- The session of the example is one that runs lead to. -/
theorem reached_troubledSession : troubledSession.Reached := by
  refine .run (.start _ rfl) 60 failingProgram ?_
  rw [outcome_run]
  decide +kernel

/-- A run after one that has failed prints what it prints in a new session, and leaves nothing. -/
theorem troubledSession_isolated :
    ((Session.start (settingsFor 1 (some 10) [])).run 60 failingProgram).1.outcome =
        .failed (.error ⟨.divisionByZero, 6⟩) ∧
      (troubledSession.run 60 counterProgram).1.printed = ["2"] ∧
      (troubledSession.run 60 counterProgram).2.Vacant := by
  obtain ⟨-, printed, -, vacant⟩ := run_isolated reached_troubledSession 60 counterProgram
  refine ⟨?_, ?_, vacant ?_⟩
  · rw [outcome_run]
    decide +kernel
  · rw [printed, printed_run]
    decide +kernel
  · rw [outcome_run]
    decide +kernel

end Session

end Scriptlet
