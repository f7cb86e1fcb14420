import Scriptlet.Text.Quoted

/-! # Tokens

The words of a program.

Main definitions:

* `Keyword`, `Kind`: what a token is; `Kind.name` and `Kind.ofName` are inverse to each other.
* `Token`: a kind, a lexeme and the line the token starts on.
* `Token.listing`: the line that shows a token in a listing. -/

namespace Scriptlet

/-- The words that no variable may be named by. -/
inductive Keyword
  | function | ifWord | elseWord | forWord | whileWord | doWord | varWord | returnWord | breakWord
  | continueWord
deriving Repr, DecidableEq, Inhabited

/-- The name of a keyword as a kind of token. -/
def Keyword.name : Keyword → String
  | function => "FUNCTION"
  | ifWord => "IF"
  | elseWord => "ELSE"
  | forWord => "FOR"
  | whileWord => "WHILE"
  | doWord => "DO"
  | varWord => "VAR"
  | returnWord => "RETURN"
  | breakWord => "BREAK"
  | continueWord => "CONTINUE"

/-- The keyword that a word spells; two words declare a variable. -/
def Keyword.ofWord? : String → Option Keyword
  | "function" => some function
  | "if" => some ifWord
  | "else" => some elseWord
  | "for" => some forWord
  | "while" => some whileWord
  | "do" => some doWord
  | "var" => some varWord
  | "let" => some varWord
  | "return" => some returnWord
  | "break" => some breakWord
  | "continue" => some continueWord
  | _ => none

/-- What a token is. -/
inductive Token.Kind
  /-- A name. -/
  | identifier
  /-- A whole number. -/
  | integer
  /-- A number with a point. -/
  | float
  /-- A text literal; its lexeme is the text that it stands for. -/
  | string
  /-- An operator sign. -/
  | operator
  /-- A bracket, comma or semicolon. -/
  | punctuation
  /-- The end of the program. -/
  | endOfInput
  /-- A keyword. -/
  | keyword (keyword : Keyword)
  /-- A kind that no source text has; it is known by its name alone. -/
  | other (name : String)
deriving Repr, DecidableEq, Inhabited

/-- The name of a kind. -/
def Token.Kind.name : Token.Kind → String
  | identifier => "IDENTIFIER"
  | integer => "INTEGER"
  | float => "FLOAT"
  | string => "STRING"
  | operator => "OP"
  | punctuation => "PUNCT"
  | endOfInput => "EOF"
  | keyword word => word.name
  | other name => name

/-- The kind with a given name. -/
def Token.Kind.ofName : String → Token.Kind
  | "IDENTIFIER" => identifier
  | "INTEGER" => integer
  | "FLOAT" => float
  | "STRING" => string
  | "OP" => operator
  | "PUNCT" => punctuation
  | "EOF" => endOfInput
  | "FUNCTION" => keyword .function
  | "IF" => keyword .ifWord
  | "ELSE" => keyword .elseWord
  | "FOR" => keyword .forWord
  | "WHILE" => keyword .whileWord
  | "DO" => keyword .doWord
  | "VAR" => keyword .varWord
  | "RETURN" => keyword .returnWord
  | "BREAK" => keyword .breakWord
  | "CONTINUE" => keyword .continueWord
  | name => other name

/-- A word of a program. -/
structure Token where
  /-- What the token is. -/
  kind : Token.Kind
  /-- Its text; for a text literal, the text that it stands for. -/
  lexeme : String
  /-- The line it starts on. -/
  line : Int
deriving Repr, DecidableEq, Inhabited

/-- Spaces that fill a text up to a width. -/
def Token.filling (width : Nat) (text : String) : String :=
  String.ofList (List.replicate (width - text.length) ' ')

/-- A token in a listing: the line flush right in four columns, the name of the kind flush left in
ten, and the lexeme in quotes. -/
def Token.listing (token : Token) : String :=
  let line := toString token.line
  let kind := token.kind.name
  Token.filling 4 line ++ line ++ " " ++ kind ++ Token.filling 10 kind ++ " " ++
    Text.quoted token.lexeme

end Scriptlet
