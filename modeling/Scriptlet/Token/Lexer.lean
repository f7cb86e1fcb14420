import Scriptlet.Error
import Scriptlet.Text.Blank
import Scriptlet.Text.Newline
import Scriptlet.Token.Basic

/-! # From text to tokens

A source text is cut into pieces, each the longest that starts where the piece before ends.  A piece
is white space, a comment, or the raw text of one token.

Main definitions:

* `Piece`: what a piece is.
* `cut`: the first piece of a text and what follows it.
* `scan`: the tokens of a text that starts on a given line.
* `tokenize`: the tokens of a source text, with the mark of its end.

`length_rest_lt` says that a piece is never empty, which is why scanning ends. -/

namespace Scriptlet.Token

open Text

/-- What a piece of a source text is. -/
inductive Piece
  /-- White space or a comment. -/
  | gap
  /-- The raw text of a token. -/
  | token (kind : Kind) (lexeme : List Char)
deriving Repr, DecidableEq, Inhabited

/-- The first piece of a text. -/
structure Cut where
  /-- What the piece is. -/
  piece : Piece
  /-- The characters of the piece. -/
  raw : List Char
  /-- The characters after it. -/
  rest : List Char
deriving Repr, DecidableEq, Inhabited

/-- Whether a character may start a name. -/
def isNameStart (character : Char) : Bool :=
  character.isAlpha || character = '_'

/-- Whether a character may go on a name. -/
def isNamePart (character : Char) : Bool :=
  isNameStart character || character.isDigit

/-- The operators of two characters. -/
def pairOperators : List (Char × Char) :=
  [('=', '='), ('!', '='), ('<', '='), ('>', '='), ('<', '<'), ('>', '>'), ('&', '&'), ('|', '|'),
   ('+', '='), ('-', '='), ('*', '='), ('/', '='), ('%', '=')]

/-- The operators of one character. -/
def singleOperators : List Char :=
  ['+', '-', '*', '/', '%', '<', '>', '=', '!', '&', '|', '^', '~']

/-- Brackets, comma and semicolon. -/
def punctuationMarks : List Char :=
  ['(', ')', '\x7b', '\x7d', ',', ';']

/-- The character that stands for itself or, after a backslash, for a control character. -/
def unescape : Char → Char
  | 'n' => '\n'
  | 't' => '\t'
  | 'r' => '\r'
  | character => character

/-- Cuts a text after the first end of a block comment. -/
def cutComment : List Char → Option (List Char × List Char)
  | '*' :: '/' :: rest => some (['*', '/'], rest)
  | character :: rest => (cutComment rest).map fun (raw, rest) => (character :: raw, rest)
  | [] => none

/-- A literal after its opening quote: the text that it stands for, its raw characters with the
closing quote, and what follows. -/
def cutLiteral (mark : Char) : List Char → Option (List Char × List Char × List Char)
  | '\\' :: escaped :: rest => (cutLiteral mark rest).map fun (text, raw, rest) =>
    (unescape escaped :: text, '\\' :: escaped :: raw, rest)
  | character :: rest =>
    if character = mark then some ([], [character], rest)
    else (cutLiteral mark rest).map fun (text, raw, rest) =>
      (character :: text, character :: raw, rest)
  | [] => none

/-- The raw characters of a number after its first digit, and what follows.  A point makes the
number a float even if no digit follows it. -/
def cutNumber (text : List Char) : Kind × List Char × List Char :=
  let whole := text.takeWhile Char.isDigit
  match text.dropWhile Char.isDigit with
  | '.' :: rest =>
    (.float, whole ++ '.' :: rest.takeWhile Char.isDigit, rest.dropWhile Char.isDigit)
  | rest => (.integer, whole, rest)

/-- The kind of a word. -/
def wordKind (word : List Char) : Kind :=
  match Keyword.ofWord? (String.ofList word) with
  | some keyword => .keyword keyword
  | none => .identifier

/-- The operator or punctuation mark that starts with a character. -/
def cutSign (first : Char) (rest : List Char) : Except Cause Cut :=
  let single : Except Cause Cut :=
    if singleOperators.contains first then .ok ⟨.token .operator [first], [first], rest⟩
    else if punctuationMarks.contains first then .ok ⟨.token .punctuation [first], [first], rest⟩
    else .error (.strayCharacter first)
  match rest with
  | second :: rest =>
    if pairOperators.contains (first, second) then
      .ok ⟨.token .operator [first, second], [first, second], rest⟩
    else single
  | [] => single

/-- The piece at the front of a text that starts with a character. -/
def cut (first : Char) (rest : List Char) : Except Cause Cut :=
  if isBlank first then .ok ⟨.gap, [first], rest⟩
  else if first = '/' && rest.head? = some '/' then
    .ok ⟨.gap, first :: rest.takeWhile (· ≠ '\n'), rest.dropWhile (· ≠ '\n')⟩
  else if first = '/' && rest.head? = some '*' then
    match cutComment (rest.drop 1) with
    | some (raw, rest) => .ok ⟨.gap, '/' :: '*' :: raw, rest⟩
    | none => .error .unclosedComment
  else if isNameStart first then
    let word := first :: rest.takeWhile isNamePart
    .ok ⟨.token (wordKind word) word, word, rest.dropWhile isNamePart⟩
  else if first.isDigit then
    let (kind, raw, rest) := cutNumber rest
    .ok ⟨.token kind (first :: raw), first :: raw, rest⟩
  else if first = '"' || first = '\x27' then
    match cutLiteral first rest with
    | some (text, raw, rest) => .ok ⟨.token .string text, first :: raw, rest⟩
    | none => .error .unclosedText
  else cutSign first rest

/-! ## Cutting loses nothing -/

/-- Nothing of a comment is lost. -/
theorem append_cutComment {text raw rest : List Char} (found : cutComment text = some (raw, rest)) :
    raw ++ rest = text := by
  fun_induction cutComment text generalizing raw with
  | case1 => grind
  | case2 character text _ ih =>
    simp only [Option.map_eq_some_iff, Prod.exists, Prod.mk.injEq] at found
    obtain ⟨inner, _, eq, rfl, rfl⟩ := found
    simp [ih eq]
  | case3 => grind

/-- Nothing of a text in quotes is lost. -/
theorem append_cutLiteral {mark : Char} {text literal raw rest : List Char}
    (found : cutLiteral mark text = some (literal, raw, rest)) : raw ++ rest = text := by
  fun_induction cutLiteral mark text generalizing literal raw with
  | case1 escaped text ih =>
    simp only [Option.map_eq_some_iff, Prod.exists, Prod.mk.injEq] at found
    obtain ⟨_, inner, _, eq, _, rfl, rfl⟩ := found
    simp [ih eq]
  | case2 => grind
  | case3 character text _ _ ih =>
    simp only [Option.map_eq_some_iff, Prod.exists, Prod.mk.injEq] at found
    obtain ⟨_, inner, _, eq, _, rfl, rfl⟩ := found
    simp [ih eq]
  | case4 => grind

/-- Nothing of a number is lost. -/
theorem append_cutNumber (text : List Char) : (cutNumber text).2.1 ++ (cutNumber text).2.2 = text := by
  have whole := List.takeWhile_append_dropWhile (p := Char.isDigit) (l := text)
  unfold cutNumber
  split
  · next rest eq => simp [← eq, whole]
  · next rest _ => exact whole

/-- A piece and what follows it make up the text. -/
theorem append_cut {first : Char} {rest : List Char} {found : Cut}
    (cuts : cut first rest = .ok found) : found.raw ++ found.rest = first :: rest := by
  have number := append_cutNumber rest
  unfold cut cutSign at cuts
  cases rest <;> grind [List.takeWhile_append_dropWhile, append_cutComment, append_cutLiteral]

/-- A piece starts with the first character of its text. -/
theorem head_cut {first : Char} {rest : List Char} {found : Cut}
    (cuts : cut first rest = .ok found) : found.raw.head? = some first := by
  unfold cut cutSign at cuts
  grind

/-- What follows a piece is shorter than the text that the piece starts. -/
theorem length_rest_lt {first : Char} {rest : List Char} {found : Cut}
    (cuts : cut first rest = .ok found) : found.rest.length < (first :: rest).length := by
  have whole := congrArg List.length (append_cut cuts)
  have start := head_cut cuts
  grind [List.head?_eq_some_iff]

/-! ## Scanning -/

/-- The tokens of a text that starts on a given line. -/
def scan (line : Nat) : List Char → Except Error (List Token)
  | [] => .ok [⟨.endOfInput, "", line⟩]
  | first :: rest =>
    match cuts : cut first rest with
    | .error cause => .error ⟨cause, line⟩
    | .ok found =>
      have := length_rest_lt cuts
      match found.piece, scan (line + countNewlines found.raw) found.rest with
      | _, .error error => .error error
      | .gap, .ok tokens => .ok tokens
      | .token kind lexeme, .ok tokens => .ok (⟨kind, String.ofList lexeme, line⟩ :: tokens)
termination_by text => text.length
decreasing_by assumption

/-- The tokens of a source text, ended by the mark of the end of input. -/
def tokenize (source : String) : Except Error (List Token) :=
  scan 1 source.toList

end Scriptlet.Token
