/-! # Line breaks

Text files may end their lines with a line feed, a carriage return, or both; programs see line feeds
only.

Main definitions:

* `unifyNewlines`: every line break becomes one line feed.
* `countNewlines`: the number of line feeds in a text. -/

namespace Scriptlet.Text

/-- Turns every `\r\n` and every lone `\r` into `\n`. -/
def unifyNewlines : List Char → List Char
  | [] => []
  | '\r' :: '\n' :: rest => '\n' :: unifyNewlines rest
  | '\r' :: rest => '\n' :: unifyNewlines rest
  | character :: rest => character :: unifyNewlines rest

/-- The number of line feeds in a text. -/
def countNewlines (text : List Char) : Nat :=
  text.count '\n'

end Scriptlet.Text
