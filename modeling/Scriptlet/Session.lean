import Scriptlet.Machine.Run

/-! # Sessions

A session runs programs one after the other.  Each run starts from an empty store; the current line and
the order in which scopes are created go on.  What is traced goes to a file, which is open during runs
and is closed at their end; a remark made while it is closed goes to the console.

Main definitions:

* `TraceFile`: whether the file exists and is open.
* `Session`: a machine with its settings and its trace file.
* `Report`: what one step of a session brings about.
* `Session.run`, `Session.remark`: the steps. -/

namespace Scriptlet

/-- The state of the file that traces are written to. -/
inductive TraceFile
  | absent
  | opened
  | closed
deriving Repr, DecidableEq, Inhabited

/-- A machine with its settings and its trace file. -/
structure Session where
  /-- What is fixed while a program runs. -/
  settings : Settings
  /-- The state that is kept between runs. -/
  machine : Machine
  /-- The trace file. -/
  file : TraceFile
deriving Inhabited

/-- What one step of a session brings about. -/
structure Report where
  /-- How a run ended; a step that runs nothing has ended too. -/
  outcome : Outcome
  /-- The printed lines. -/
  printed : List String
  /-- The notes of built-in functions. -/
  noted : List Note
  /-- The lines written to the trace file, if there is one. -/
  traced : Option (List String)
  /-- The lines written to the console in place of the trace file. -/
  console : List String
deriving Inhabited

namespace Session

/-- The number of nested calls that there is room for. -/
def room : Nat := 1000

/-- More steps than a run can take in practice. -/
def patience : Nat := Nat.pow 2 62

/-- Settings with given verbosity and limit on nested calls; printing is always built in. -/
def settingsFor (verbosity : Int) (depthLimit : Option Int) (builtins : List Builtin) : Settings :=
  { verbosity, depthLimit, room := some room, builtins := .print :: builtins
    releases := true }

/-- A session in which nothing has been run; the trace file is there if anything can be traced. -/
def start (settings : Settings) : Session :=
  { settings, machine := .initial, file := if 0 < settings.verbosity then .opened else .absent }

/-- Whether the trace file exists. -/
def hasFile (session : Session) : Bool :=
  session.file ≠ .absent

/-- A step that brings nothing about. -/
def idle (session : Session) : Report :=
  { outcome := .ended, printed := [], noted := [], console := []
    traced := if session.hasFile then some [] else none }

/-- The trace file during a run. -/
def openFile (session : Session) : Session :=
  if 0 < session.settings.verbosity then { session with file := .opened } else session

/-- The trace file after a run. -/
def closeFile (session : Session) : Session :=
  if session.file = .opened then { session with file := .closed } else session

/-- Runs statements as a program, for at most a number of steps. -/
def run (session : Session) (steps : Nat) (body : List Node) : Report × Session :=
  let session := session.openFile
  let hasFile := session.hasFile
  let (outcome, machine) := session.machine.run session.settings steps body
  ({ outcome
     printed := machine.printed.reverse
     noted := machine.noted.reverse
     traced := if hasFile then some (machine.traced.reverse.map Event.text) else none
     console := [] },
   closeFile { session with machine := { machine with printed := [], noted := [], traced := [] } })

/-- Adds a remark to the trace, if anything is traced at all. -/
def remark (session : Session) (message : String) : Report :=
  if session.settings.verbosity ≤ 0 then session.idle
  else if session.file = .opened then { session.idle with traced := some [message] }
  else { session.idle with console := [message] }

/-- Changes the limit on nested calls. -/
def setDepthLimit (session : Session) (limit : Option Int) : Session :=
  { session with settings := { session.settings with depthLimit := limit } }

/-- Changes the verbosity of the trace. -/
def setVerbosity (session : Session) (verbosity : Int) : Session :=
  { session with settings := { session.settings with verbosity } }

end Session

end Scriptlet
