import Scriptlet.CommandLine.Arguments
import Scriptlet.Document.Load
import Scriptlet.Grammar.Meaning
import Scriptlet.Json.Reader
import Scriptlet.Json.Writer
import Scriptlet.Session
import Scriptlet.Text.Newline

/-! # What the command line does

A command line is turned into a request, which reads at most one file and writes at most one.  The
response to a request is a function of what is found at the paths of those files.

Main definitions:

* `Request`: what a command line asks for, with the paths that matter to it.
* `Found`: what is found at a path.
* `Response`: what is printed and written, and how the program ends.
* `respond`: the response to a command line. -/

namespace Scriptlet.CommandLine

/-! ## Requests -/

/-- What to do with a file. -/
inductive Task
  /-- List its tokens. -/
  | list
  /-- Write the document of the program in it. -/
  | emit
  /-- Run the document in it. -/
  | runDocument
  /-- Run the program in it. -/
  | runSource
deriving Repr, DecidableEq, Inhabited

/-- What a command line asks for. -/
inductive Request
  /-- An explanation. -/
  | help
  /-- Something that is not understood. -/
  | misuse (message : String)
  /-- A task on a file. -/
  | task (task : Task) (path : String) (verbosity : Nat) (depthLimit : Option Limit)
deriving Repr, DecidableEq, Inhabited

/-- The steps of a path, which slashes separate. -/
def splitSteps : List Char → List (List Char)
  | [] => [[]]
  | '/' :: rest => [] :: splitSteps rest
  | character :: rest =>
    match splitSteps rest with
    | [] => [[character]]
    | step :: steps => (character :: step) :: steps

/-- A path without empty steps and steps that stay in place; two slashes at its front are kept. -/
def normalize (path : String) : String :=
  let text := path.toList
  let steps := (splitSteps text).filter fun step => !step.isEmpty && step ≠ ['.']
  let root := if ['/', '/'].isPrefixOf text && !(['/', '/', '/'].isPrefixOf text) then ['/', '/']
    else if ['/'].isPrefixOf text then ['/'] else []
  let joined := root ++ ['/'].intercalate steps
  if joined.isEmpty then "." else String.ofList joined

/-- What the choices of a command line ask for; an empty name of a file counts as none. -/
def Request.ofChoices (choices : Choices) : Request :=
  let given (name : Option String) : Option String := name.filter (!·.isEmpty)
  let ask (task : Task) (path : String) : Request :=
    .task task (normalize path) choices.verbosity choices.depthLimit
  match given choices.tokens, given choices.emit, given choices.document, given choices.program with
  | some path, _, _, _ => ask .list path
  | none, some path, _, _ => ask .emit path
  | none, none, some path, _ => ask .runDocument path
  | none, none, none, some path => ask .runSource path
  | none, none, none, none =>
    .misuse "missing program file; or use --emit-ast/--ast/--tokens"

/-- What a command line asks for. -/
def Request.ofWords (words : List String) : Request :=
  match Choices.ofWords words with
  | .ok choices => .ofChoices choices
  | .error .help => .help
  | .error (.misuse message) => .misuse message

/-- The file that traces are written to. -/
def traceFile : String := "debug.txt"

/-- The file that the document of a program is written to. -/
def documentFile (path : String) : String := path ++ ".ast.json"

/-- The file that a task on a file may write, if there is one. -/
def Task.output? (path : String) : Task → Option String
  | list => none
  | emit => some (documentFile path)
  | runDocument | runSource => some traceFile

/-- The paths that a request may read or write. -/
def Request.paths : Request → List String
  | help | misuse _ => []
  | task duty path _ _ => path :: (duty.output? path).toList

/-! ## Responses -/

/-- What is found at a path. -/
inductive Found
  | nothing
  /-- A step of the path goes through a file. -/
  | blocked
  | directory
  /-- A step of the path has a longer name than a file can have. -/
  | overlong
  /-- No file can have the name. -/
  | unnameable
  | file (content : ByteArray)
deriving Inhabited

/-- A failure that is not reported in words of the program's own. -/
inductive Breakdown
  /-- There is no file. -/
  | missing
  /-- A step of the path goes through a file. -/
  | blocked
  /-- A directory is not a file. -/
  | directory
  /-- A name is longer than that of a file can be. -/
  | overlong
  /-- No file can have the name. -/
  | unnameable
  /-- The bytes of a file are no text. -/
  | notText
  /-- A program cannot be taken apart into tokens and numerals. -/
  | grammar (failure : Grammar.Failure)
  /-- A document is not in the format. -/
  | notDocument
  /-- An integer of a document has too many digits. -/
  | tooManyDigits (digits : Nat)
  /-- An integer is past the largest double. -/
  | tooLarge
  /-- A call is made under a limit that is no number. -/
  | voidLimit
  /-- A run ends for another reason than an error of the program. -/
  | run (failure : Failure)
  /-- A run does not end. -/
  | endless
deriving Inhabited

/-- How the program ends. -/
inductive Ending
  /-- With a status. -/
  | exit (status : Nat)
  /-- With an error of a program that nothing reports. -/
  | error (error : Error)
  /-- With a failure that nothing reports. -/
  | breakdown (breakdown : Breakdown)
deriving Inhabited

/-- What the program does. -/
structure Response where
  /-- How it ends. -/
  ending : Ending
  /-- What it prints. -/
  output : String := ""
  /-- What it reports. -/
  report : String := ""
  /-- The files that it writes. -/
  files : List (String × String) := []
deriving Inhabited

namespace Response

/-- Ends with a report. -/
def refuse (status : Nat) (report : String) : Response :=
  { ending := .exit status, report }

/-- Ends with a failure that nothing reports. -/
def breakdown (breakdown : Breakdown) : Response :=
  { ending := .breakdown breakdown }

end Response

/-- Lines of text, each ended by a line break. -/
def lines (texts : List String) : String :=
  String.join (texts.map (· ++ "\n"))

/-- The text of a file; every line break is a line feed. -/
def decode (content : ByteArray) : Option String :=
  (String.fromUTF8? content).map fun text =>
    String.ofList (Text.unifyNewlines text.toList)

/-- Why no file can be written at a path, given what is found there. -/
def Found.obstacle? : Found → Option Breakdown
  | nothing | file _ => none
  | blocked => some .blocked
  | directory => some .directory
  | overlong => some .overlong
  | unnameable => some .unnameable

/-- What the end of a run leads to; an error of the program is reported as `reportError` says, but not
a call that a limit without a number refuses. -/
def conclude (limit : Option Limit) (reportError : Error → Response) : Outcome → Response
  | .ended => { ending := .exit 0 }
  | .failed (.error error) =>
    match limit, error.cause with
    | some .void, .tooDeep .. => .breakdown .voidLimit
    | _, _ => reportError error
  | .failed failure => .breakdown (.run failure)
  | .unfinished => .breakdown .endless

/-- Runs statements in a session of their own, unless its trace cannot be written. -/
def runBody (look : String → Found) (verbosity : Int) (limit : Option Limit)
    (reportError : Error → Response) (body : List Node) : Response :=
  let session := Session.start (Session.settingsFor verbosity (limit.map Limit.value) [])
  match if session.hasFile then (look traceFile).obstacle? else none with
  | some obstacle => .breakdown obstacle
  | none =>
    let (report, _) := session.run Session.patience body
    { conclude limit reportError report.outcome with
      output := lines report.printed
      files := match report.traced with
        | some traced => [(traceFile, lines traced)]
        | none => [] }

/-- Reports an error of the program and ends with status one. -/
def reportRun (error : Error) : Response :=
  .refuse 1 s!"Runtime error: {error.text}\n"

/-- The body of a program. -/
def bodyOf : Node → List Node
  | .program _ body => body
  | node => [node]

/-- Goes on with the program that a source text denotes. -/
def withProgram (source : String) (continuation : Node → Response) : Response :=
  match Program.ofSource source with
  | .ok program => continuation program
  | .error (.error error) => .refuse 1 s!"Syntax error: {error.text}\n"
  | .error failure => .breakdown (.grammar failure)

/-- Lists the tokens of a source text. -/
def listTokens (source : String) : Response :=
  match Token.tokenize source with
  | .ok tokens => { ending := .exit 0, output := lines (tokens.map Token.listing) }
  | .error error => .refuse 1 s!"Syntax error: {error.text}\n"

/-- The program that a document denotes, or why it is refused. -/
def programOf (json : Json) : Except String (Option Node) :=
  match Document.load json with
  | .ok (.node (.program line body)) => .ok (some (.program line body))
  | .ok _ => .error "top-level node must be a Program"
  | .error .tooLarge => .ok none
  | .error failure => .error failure.message

/-- Runs the document at a path. -/
def runDocument (look : String → Found) (path source : String) (verbosity : Nat)
    (limit : Option Limit) : Response :=
  match Json.read source with
  | .error .malformed => .breakdown .notDocument
  | .error (.tooManyDigits digits) => .breakdown (.tooManyDigits digits)
  | .ok json =>
    match programOf json with
    | .ok (some program) => runBody look verbosity limit reportRun (bodyOf program)
    | .ok none => .breakdown .tooLarge
    | .error message => .refuse 1 s!"Error: invalid AST file {path}: {message}\n"

/-- Writes the document of a program in a file, unless it cannot be written. -/
def emitDocument (look : String → Found) (path : String) (program : Node) : Response :=
  match (look (documentFile path)).obstacle? with
  | some obstacle => .breakdown obstacle
  | none =>
    { ending := .exit 0, output := lines [documentFile path]
      files := [(documentFile path, program.toJson.write)] }

/-- The response to a task on a text. -/
def perform (look : String → Found) (task : Task) (path source : String) (verbosity : Nat)
    (limit : Option Limit) : Response :=
  match task with
  | .list => listTokens source
  | .emit => withProgram source (emitDocument look path)
  | .runDocument => runDocument look path source verbosity limit
  | .runSource => withProgram source fun program =>
    runBody look verbosity limit reportRun (bodyOf program)

/-- The response to a request, given what is found at each path. -/
def Request.respond (request : Request) (look : String → Found) : Response :=
  match request with
  | .help => { ending := .exit 0, output := CommandLine.help }
  | .misuse message => .refuse 2 s!"{usage}{programName}: error: {message}\n"
  | .task duty path verbosity limit =>
    match look path with
    | .nothing | .blocked | .unnameable => .refuse 1 s!"Error: file {path} not found\n"
    | .directory => .breakdown .directory
    | .overlong => .breakdown .overlong
    | .file content =>
      match decode content with
      | some source => perform look duty path source verbosity limit
      | none => .breakdown .notText

/-- The response to a command line, given what is found at each path. -/
def respond (look : String → Found) (words : List String) : Response :=
  (Request.ofWords words).respond look

/-! ## Runs without a command line -/

/-- Runs a source text; no error is reported. -/
def runSource (look : String → Found) (source : String) (verbosity : Int) : Response :=
  match Program.ofSource source with
  | .ok program =>
    runBody look verbosity none (fun error => { ending := .error error }) (bodyOf program)
  | .error (.error error) => { ending := .error error }
  | .error failure => .breakdown (.grammar failure)

/-- Runs the file at a path; no error is reported. -/
def runFile (look : String → Found) (path : String) (verbosity : Int) : Response :=
  match look path with
  | .nothing => .breakdown .missing
  | .blocked => .breakdown .blocked
  | .directory => .breakdown .directory
  | .overlong => .breakdown .overlong
  | .unnameable => .breakdown .unnameable
  | .file content =>
    match decode content with
    | some source => runSource look source verbosity
    | none => .breakdown .notText

end Scriptlet.CommandLine
