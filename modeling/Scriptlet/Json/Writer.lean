import Scriptlet.Json.Basic

/-! # Writing documents

Main definitions:

* `Json.escape`: one character between the quotes of a string.
* `Json.write`: the text of a document, one item or entry a line, two spaces a level. -/

namespace Scriptlet.Json

/-- One character between the quotes of a string: quotes, backslashes and control characters are
escaped, everything else stands for itself. -/
def escape : Char → List Char
  | '"' => ['\\', '"']
  | '\\' => ['\\', '\\']
  | '\n' => ['\\', 'n']
  | '\r' => ['\\', 'r']
  | '\t' => ['\\', 't']
  | '\x08' => ['\\', 'b']
  | '\x0c' => ['\\', 'f']
  | character =>
    if character.toNat < 0x20 then '\\' :: 'u' :: (Text.hexadecimal 4 character.toNat).toList
    else [character]

/-- A string in quotes. -/
def writeString (text : String) : List Char :=
  '"' :: text.toList.flatMap escape ++ ['"']

/-- The line break before an item at a level. -/
def lineBreak (level : Nat) : List Char :=
  '\n' :: List.replicate (2 * level) ' '

/-- Items between brackets, each on a line of its own; no items leave no line break. -/
def bracket (opening closing : Char) (level : Nat) (items : List (List Char)) : List Char :=
  if items.isEmpty then [opening, closing]
  else
    opening :: lineBreak (level + 1) ++ (',' :: lineBreak (level + 1)).intercalate items ++
      lineBreak level ++ [closing]

mutual

/-- The text of data at a level. -/
def writeAt (level : Nat) : Json → List Char
  | null => "null".toList
  | boolean value => (if value then "true" else "false").toList
  | integer value => (toString value).toList
  | float value => (Decimal.documentFormat.write value).toList
  | string value => writeString value
  | array items => bracket '[' ']' level (writeItems (level + 1) items)
  | object entries => bracket '\x7b' '\x7d' level (writeEntries (level + 1) entries)

/-- The texts of the items of an array. -/
def writeItems (level : Nat) : List Json → List (List Char)
  | [] => []
  | item :: items => writeAt level item :: writeItems level items

/-- The texts of the entries of an object. -/
def writeEntries (level : Nat) : List (String × Json) → List (List Char)
  | [] => []
  | (key, value) :: entries =>
    (writeString key ++ ':' :: ' ' :: writeAt level value) :: writeEntries level entries

end

/-- The text of a document. -/
def write (json : Json) : String :=
  String.ofList (writeAt 0 json)

end Scriptlet.Json
