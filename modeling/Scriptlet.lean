import Scriptlet.Main
import Scriptlet.Proofs.CommandLine.Literal
import Scriptlet.Proofs.CommandLine.Refusal
import Scriptlet.Proofs.Document.RoundTrip
import Scriptlet.Proofs.Grammar.Concatenation
import Scriptlet.Proofs.Grammar.Program
import Scriptlet.Proofs.Grammar.Fault
import Scriptlet.Proofs.Grammar.Source
import Scriptlet.Proofs.Grammar.Viable
import Scriptlet.Proofs.Machine.Blame
import Scriptlet.Proofs.Machine.Lifetime
import Scriptlet.Proofs.Machine.Likeness
import Scriptlet.Proofs.Machine.Lines
import Scriptlet.Proofs.Machine.Effect
import Scriptlet.Proofs.Machine.Pretest
import Scriptlet.Proofs.Machine.Native
import Scriptlet.Proofs.Machine.Receive
import Scriptlet.Proofs.Machine.Reported
import Scriptlet.Proofs.Machine.Retelling
import Scriptlet.Proofs.Machine.Retention
import Scriptlet.Proofs.Operator.Outcome
import Scriptlet.Proofs.Operator.Words
import Scriptlet.Proofs.Scope.Chain
import Scriptlet.Proofs.Session.Tracing
import Scriptlet.Proofs.Session.Words
import Scriptlet.Proofs.Machine.Origin
import Scriptlet.Proofs.Machine.Limit
import Scriptlet.Proofs.Token.Concatenation
import Scriptlet.Proofs.Token.Piece
import Scriptlet.Proofs.Token.Split
