import Scriptlet.Decimal.Numeral
import Scriptlet.Text.Quoted

/-! # Arguments of the command line

A command line is a list of words.  A word that starts with a dash is a switch, if it spells one, and
a switch may be cut short as long as it stays unique; any other word is the program to run.  After the
word `--` there are no more switches.

Main definitions:

* `Switch`: the switches, with their spellings and values.
* `Word.classify`: what a word of the command line is.
* `Choices.ofWords`: what the command line chooses, or why it is refused.
* `usage`, `help`: the texts that explain the command line. -/

namespace Scriptlet.CommandLine

/-! ## Switches -/

/-- The switches. -/
inductive Switch
  /-- Explains the command line. -/
  | help
  /-- Traces more. -/
  | verbose
  /-- Limits nested calls. -/
  | maxDepth
  /-- Writes the document of a program. -/
  | emit
  /-- Runs a program from its document. -/
  | document
  /-- Lists the tokens of a program. -/
  | tokens
deriving Repr, DecidableEq, Inhabited

namespace Switch

/-- The spellings of all switches, in the order in which they are listed. -/
def spellings : List (String × Switch) :=
  [("-h", help), ("--help", help), ("-v", verbose), ("--max-depth", maxDepth), ("--emit-ast", emit),
   ("--ast", document), ("--tokens", tokens)]

/-- The name of a switch in messages. -/
def name : Switch → String
  | help => "-h/--help"
  | verbose => "-v"
  | maxDepth => "--max-depth"
  | emit => "--emit-ast"
  | document => "--ast"
  | tokens => "--tokens"

/-- Whether a switch takes a value. -/
def takesValue : Switch → Bool
  | help | verbose => false
  | maxDepth | emit | document | tokens => true

/-- The switches of which only one may be chosen, in the order in which they are listed. -/
def exclusive : List Switch :=
  [emit, document, tokens]

end Switch

/-! ## Words -/

/-- What a word of the command line is. -/
inductive Word
  /-- Neither a switch nor looking like one. -/
  | plain (text : String)
  /-- The end of the switches. -/
  | separator
  /-- A switch with the text attached to it; one spelled with a single dash can have more switches
  attached. -/
  | switch (switch : Switch) (short : Bool) (attached : Option (List Char))
  /-- A word that looks like a switch and is none. -/
  | unknown (text : String)
deriving Repr, DecidableEq, Inhabited

/-- Why a command line chooses nothing to do. -/
inductive Stop
  /-- It asks for an explanation. -/
  | help
  /-- It is not understood. -/
  | misuse (message : String)
deriving Repr, DecidableEq, Inhabited

/-- A switch that is not used as it should be. -/
def Switch.misused {α : Type} (switch : Switch) (message : String) : Except Stop α :=
  .error (.misuse s!"argument {switch.name}: {message}")

/-- Cuts a word at its first equals sign. -/
def cutMark (word : List Char) : List Char × Option (List Char) :=
  match word.dropWhile (· ≠ '=') with
  | _ :: value => (word.takeWhile (· ≠ '='), some value)
  | [] => (word, none)

/-- Whether a text, its dash dropped, is a number: digits, or a point with digits after it.  A line
break may follow. -/
def isNumber (text : List Char) : Bool :=
  let isDigit (character : Char) : Bool := (Text.digitValue? character).isSome
  let areDigits (text : List Char) : Bool :=
    let rest := text.dropWhile isDigit
    text.head?.any isDigit && (rest = [] || rest = ['\n'])
  areDigits text || match text.dropWhile isDigit with
    | '.' :: fraction => areDigits fraction
    | _ => false

/-- The switches that a word may stand for, with what is attached to them. -/
def candidates (word : List Char) : List (String × Word) :=
  match word with
  | '-' :: '-' :: _ =>
    let (start, value) := cutMark word
    (Switch.spellings.filter fun (spelling, _) => start.isPrefixOf spelling.toList).map
      fun (spelling, switch) => (spelling, .switch switch false value)
  | _ =>
    (Switch.spellings.filter fun (spelling, _) => spelling.toList = word.take 2).map
      fun (spelling, switch) => (spelling, .switch switch true (some (word.drop 2)))

/-- Whether a spelling has a single dash. -/
def isShort (spelling : List Char) : Bool :=
  spelling.length = 2

/-- What a word that starts with a dash is, if it spells no switch in full. -/
def classifyDashed (word : String) : Except Stop Word :=
  match candidates word.toList with
  | [(_, found)] => .ok found
  | [] =>
    if isNumber (word.toList.drop 1) || word.toList.contains ' ' then .ok (.plain word)
    else .ok (.unknown word)
  | several =>
    let names := ", ".intercalate (several.map (·.1))
    .error (.misuse s!"ambiguous option: {word} could match {names}")

/-- What a word of the command line is. -/
def Word.classify (word : String) : Except Stop Word :=
  let text := word.toList
  let (start, value) := cutMark text
  if text.head? ≠ some '-' then .ok (.plain word)
  else match Switch.spellings.lookup word with
    | some found => .ok (.switch found (isShort text) none)
    | none =>
      if text.length = 1 then .ok (.plain word)
      else match Switch.spellings.lookup (String.ofList start), value with
        | some found, some value => .ok (.switch found (isShort start) (some value))
        | _, _ => classifyDashed word

/-- The word after which there are no more switches. -/
def separatorWord : String := "--"

/-- What the words of a command line are. -/
def Word.classifyAll : List String → Except Stop (List Word)
  | [] => .ok []
  | word :: words =>
    if word = separatorWord then .ok (.separator :: words.map .plain)
    else do
      let first ← Word.classify word
      let rest ← Word.classifyAll words
      return first :: rest

/-- The text of a plain word. -/
def Word.text : Word → String
  | plain text | unknown text => text
  | separator => separatorWord
  | switch found _ _ => found.name

/-! ## Choices -/

/-- A limit on nested calls, as a command line gives it. -/
inductive Limit
  /-- A number of calls. -/
  | count (value : Int)
  /-- No number at all. -/
  | void
deriving Repr, DecidableEq, Inhabited

/-- The number of calls that a limit allows; without a number, each call is one too many. -/
def Limit.value : Limit → Int
  | count value => value
  | void => 0

/-- What a command line chooses. -/
structure Choices where
  /-- How much is traced. -/
  verbosity : Nat := 0
  /-- The limit on nested calls. -/
  depthLimit : Option Limit := none
  /-- The program whose document is to be written. -/
  emit : Option String := none
  /-- The document to run. -/
  document : Option String := none
  /-- The program whose tokens are to be listed. -/
  tokens : Option String := none
  /-- The program to run. -/
  program : Option String := none
  /-- The words that mean nothing. -/
  extras : List String := []
deriving Repr, DecidableEq, Inhabited

namespace Choices

/-- The file that an exclusive switch names, if it has been given. -/
def fileOf (choices : Choices) : Switch → Option String
  | .emit => choices.emit
  | .document => choices.document
  | .tokens => choices.tokens
  | _ => none

/-- Adds words that mean nothing. -/
def addExtras (choices : Choices) (words : List String) : Choices :=
  { choices with extras := choices.extras ++ words }

/-- Refuses an exclusive switch after another one. -/
def checkExclusive (choices : Choices) (switch : Switch) : Except Stop Unit :=
  match Switch.exclusive.find? fun other => other ≠ switch && (choices.fileOf other).isSome with
  | some other => switch.misused s!"not allowed with argument {other.name}"
  | none => .ok ()

/-- Takes a switch without a value. -/
def takeFlag (choices : Choices) : Switch → Except Stop Choices
  | .help => .error .help
  | .verbose => .ok { choices with verbosity := choices.verbosity + 1 }
  | _ => .ok choices

/-- Takes a limit on nested calls. -/
def takeLimit (choices : Choices) (value : String) : Except Stop Choices :=
  match Decimal.integer? value with
  | some limit => .ok { choices with depthLimit := some (.count limit) }
  | none =>
    let shown := Text.quoted value
    Switch.maxDepth.misused s!"invalid int value: {shown}"

/-- Takes a switch with the file that it names. -/
def takeFile (choices : Choices) (switch : Switch) (name : String) : Except Stop Choices := do
  choices.checkExclusive switch
  return match switch with
    | .emit => { choices with emit := some name }
    | .document => { choices with document := some name }
    | .tokens => { choices with tokens := some name }
    | _ => choices

/-- Takes a switch with its value. -/
def takeValue (choices : Choices) (switch : Switch) (value : String) : Except Stop Choices :=
  if switch = .maxDepth then choices.takeLimit value else choices.takeFile switch value

/-- Takes a switch with the value attached to it; the separator stands for none, which leaves a limit
without a number and a file without a name. -/
def takeAttached (choices : Choices) (switch : Switch) (text : List Char) :
    Except Stop Choices :=
  let value := String.ofList text
  if value ≠ separatorWord then choices.takeValue switch value
  else if switch = .maxDepth then .ok { choices with depthLimit := some .void }
  else choices.takeFile switch ""

end Choices

/-- A text attached to a switch that takes none. -/
def refuseAttached {α : Type} (switch : Switch) (text : List Char) : Except Stop α :=
  let shown := Text.quoted (String.ofList text)
  switch.misused s!"ignored explicit argument {shown}"

/-- The switches in a cluster, the first of which has been read.  None of them takes a value, so all
that is attached has to spell switches. -/
def cluster (switch : Switch) : List Char → Except Stop (List Switch)
  | [] => .ok [switch]
  | letter :: text =>
    match Switch.spellings.lookup (String.ofList ['-', letter]) with
    | none => refuseAttached switch (letter :: text)
    | some next => do
      let switches ← cluster next text
      return switch :: switches

/-- The switches that a switch without a value stands for, given what is attached to it. -/
def expand (switch : Switch) (short : Bool) : Option (List Char) → Except Stop (List Switch)
  | none => .ok [switch]
  | some text =>
    if short && !text.isEmpty then cluster switch text else refuseAttached switch text

namespace Choices

/-- Takes the words of a command line one after the other. -/
def takeWords (choices : Choices) : List Word → Except Stop Choices
  | [] => .ok choices
  | .switch switch short attached :: words =>
    if switch.takesValue then
      match attached, words with
      | some text, words => do
        let choices ← choices.takeAttached switch text
        choices.takeWords words
      | none, .plain value :: words => do
        let choices ← choices.takeValue switch value
        choices.takeWords words
      | none, _ => switch.misused "expected one argument"
    else do
      let switches ← expand switch short attached
      let choices ← switches.foldlM takeFlag choices
      choices.takeWords words
  | .unknown text :: words => (choices.addExtras [text]).takeWords words
  | .plain text :: words =>
    match choices.program, words with
    | none, .separator :: words =>
      .ok ({ choices with program := some text }.addExtras (words.map Word.text))
    | none, words => { choices with program := some text }.takeWords words
    | some _, words => (choices.addExtras [text]).takeWords words
  | .separator :: words =>
    match choices.program, words with
    | none, .plain text :: words =>
      .ok ({ choices with program := some text }.addExtras (words.map Word.text))
    | none, words => .ok (choices.addExtras (words.map Word.text))
    | some _, words => .ok (choices.addExtras (separatorWord :: words.map Word.text))

/-- What a command line chooses, or why it is refused. -/
def ofWords (words : List String) : Except Stop Choices := do
  let words ← Word.classifyAll words
  let choices ← takeWords {} words
  if choices.extras.isEmpty then return choices
  else
    let shown := " ".intercalate choices.extras
    .error (.misuse s!"unrecognized arguments: {shown}")

end Choices

/-! ## Explanations -/

/-- The name of the program in messages. -/
def programName : String := "tinyjs"

/-- The summary of the command line. -/
def usage : String :=
  "usage: tinyjs [-h] [-v] [--max-depth N]\n" ++
  "              [--emit-ast SOURCE_FILE | --ast AST_JSON_FILE | --tokens SOURCE_FILE]\n" ++
  "              [program]\n"

/-- The explanation of the command line. -/
def help : String :=
  usage ++
  "\n" ++
  "TinyJS language interpreter\n" ++
  "\n" ++
  "positional arguments:\n" ++
  "  program               TinyJS program file to execute\n" ++
  "\n" ++
  "options:\n" ++
  "  -h, --help            show this help message and exit\n" ++
  "  -v                    increase debug verbosity (can be repeated)\n" ++
  "  --max-depth N         maximum nested function calls\n" ++
  "  --emit-ast SOURCE_FILE\n" ++
  "                        emit AST JSON for the given source file\n" ++
  "  --ast AST_JSON_FILE   execute AST from a JSON file\n" ++
  "  --tokens SOURCE_FILE  print the token stream of the given source file\n"

end Scriptlet.CommandLine
