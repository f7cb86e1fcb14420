import Scriptlet.Text.Printable

/-! # Quoted text

The form in which messages, traces and dumps show a text: between quotes, on one line, with every
unprintable character escaped.

Main definitions:

* `quoteMark`: the apostrophe, unless the text has an apostrophe and no double quote.
* `escape`: one character as it appears between the quotes.
* `quoted`: the whole text in quotes. -/

namespace Scriptlet.Text

/-- The digits of a number in base sixteen, lower case, padded on the left with zeros to a width. -/
def hexadecimal (width number : Nat) : String :=
  let digits := String.ofList (Nat.toDigits 16 number)
  String.ofList (List.replicate (width - digits.length) '0') ++ digits

/-- Apostrophes quote a text, unless it holds an apostrophe and no double quote. -/
def quoteMark (text : List Char) : Char :=
  if text.contains '\'' && !text.contains '"' then '"' else '\''

/-- One character between quotes: the mark, the backslash and the unprintable characters are
escaped. -/
def escape (mark character : Char) : String :=
  if character = mark || character = '\\' then String.ofList ['\\', character]
  else if character = '\n' then "\\n"
  else if character = '\r' then "\\r"
  else if character = '\t' then "\\t"
  else if isPrintable character then String.singleton character
  else if character.toNat < 0x100 then "\\x" ++ hexadecimal 2 character.toNat
  else if character.toNat < 0x10000 then "\\u" ++ hexadecimal 4 character.toNat
  else "\\U" ++ hexadecimal 8 character.toNat

/-- A text in quotes. -/
def quoted (text : String) : String :=
  let mark := quoteMark text.toList
  String.singleton mark ++ String.join (text.toList.map (escape mark)) ++ String.singleton mark

end Scriptlet.Text
