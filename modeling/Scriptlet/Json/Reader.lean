import Scriptlet.Decimal.Numeral
import Scriptlet.Json.Basic

/-! # Reading documents

A document is read from left to right.  Beside the strict format, the words `NaN`, `Infinity` and
`-Infinity` denote doubles; a number with a fraction or an exponent is a double and any other an
integer, exact at any size up to the limit on digits.

Main definitions:

* `ReadFailure`: why a text is refused.
* `Json.read`: the data of a text. -/

namespace Scriptlet.Json

/-- Why a text is no document. -/
inductive ReadFailure
  /-- The text is not in the format. -/
  | malformed
  /-- An integer has too many digits. -/
  | tooManyDigits (digits : Nat)
deriving Repr, DecidableEq, Inhabited

/-- Whether a character may stand between the parts of a document. -/
def isSpace (character : Char) : Bool :=
  character = ' ' || character = '\t' || character = '\n' || character = '\r'

/-- Drops the space at the front of a text. -/
def skipSpace (text : List Char) : List Char :=
  text.dropWhile isSpace

/-- The value of a hexadecimal digit. -/
def hexDigit? (character : Char) : Option Nat :=
  if character.isDigit then some (character.toNat - 0x30)
  else if 'a' ≤ character && character ≤ 'f' then some (character.toNat - 0x61 + 10)
  else if 'A' ≤ character && character ≤ 'F' then some (character.toNat - 0x41 + 10)
  else none

/-- Four hexadecimal digits at the front of a text. -/
def hexQuad? : List Char → Option (Nat × List Char)
  | a :: b :: c :: d :: rest =>
    match hexDigit? a, hexDigit? b, hexDigit? c, hexDigit? d with
    | some a, some b, some c, some d => some (((a * 16 + b) * 16 + c) * 16 + d, rest)
    | _, _, _, _ => none
  | _ => none

/-- The character of an escape by code; two halves of a pair denote one character.  A half on its own
is no character that a text could hold, and the replacement character stands for it. -/
def readCode (text : List Char) : Option (Char × List Char) :=
  match hexQuad? text with
  | none => none
  | some (high, rest) =>
    let alone := some (if 0xD800 ≤ high && high ≤ 0xDFFF then '\uFFFD' else Char.ofNat high, rest)
    match rest with
    | '\\' :: 'u' :: more =>
      match hexQuad? more with
      | some (low, rest) =>
        if 0xD800 ≤ high && high ≤ 0xDBFF && 0xDC00 ≤ low && low ≤ 0xDFFF then
          some (Char.ofNat (0x10000 + (high - 0xD800) * 0x400 + (low - 0xDC00)), rest)
        else alone
      | none => alone
    | _ => alone

/-- The character of an escape after its backslash. -/
def readEscape : List Char → Option (Char × List Char)
  | '"' :: rest => some ('"', rest)
  | '\\' :: rest => some ('\\', rest)
  | '/' :: rest => some ('/', rest)
  | 'b' :: rest => some ('\x08', rest)
  | 'f' :: rest => some ('\x0c', rest)
  | 'n' :: rest => some ('\n', rest)
  | 'r' :: rest => some ('\r', rest)
  | 't' :: rest => some ('\t', rest)
  | 'u' :: rest => readCode rest
  | _ => none

/-- The characters of a string after its opening quote; the fuel bounds their number. -/
def readString : Nat → List Char → Except ReadFailure (List Char × List Char)
  | 0, _ => .error .malformed
  | _ + 1, '"' :: rest => .ok ([], rest)
  | fuel + 1, '\\' :: rest =>
    match readEscape rest with
    | none => .error .malformed
    | some (character, rest) => do
      let (text, rest) ← readString fuel rest
      return (character :: text, rest)
  | fuel + 1, character :: rest =>
    if character.toNat < 0x20 then .error .malformed
    else do
      let (text, rest) ← readString fuel rest
      return (character :: text, rest)
  | _ + 1, [] => .error .malformed

/-- The fraction at the front of a text: nothing, unless a digit follows the point. -/
def takeFraction (text : List Char) : List Char × List Char :=
  match text with
  | '.' :: rest =>
    let digits := rest.takeWhile Char.isDigit
    if digits.isEmpty then ([], text) else ('.' :: digits, rest.dropWhile Char.isDigit)
  | _ => ([], text)

/-- The exponent at the front of a text: nothing, unless a digit follows the mark and the sign. -/
def takeExponent (text : List Char) : List Char × List Char :=
  match text with
  | mark :: rest =>
    let (sign, unsigned) := match rest with
      | '+' :: rest => (['+'], rest)
      | '-' :: rest => (['-'], rest)
      | _ => ([], rest)
    let digits := unsigned.takeWhile Char.isDigit
    if (mark = 'e' || mark = 'E') && !digits.isEmpty then
      (mark :: sign ++ digits, unsigned.dropWhile Char.isDigit)
    else ([], text)
  | [] => ([], [])

/-- The number at the front of a text, its sign having been read.  The whole part is a zero or starts
with another digit. -/
def readNumber (negative : Bool) (text : List Char) : Except ReadFailure (Json × List Char) :=
  let whole := match text with
    | '0' :: _ => ['0']
    | _ => text.takeWhile Char.isDigit
  if whole.isEmpty then .error .malformed
  else
    let (fraction, rest) := takeFraction (text.drop whole.length)
    let (exponent, rest) := takeExponent rest
    if fraction.isEmpty && exponent.isEmpty then
      if whole.length > Decimal.digitLimit then .error (.tooManyDigits whole.length)
      else
        .ok (.integer (Decimal.signed negative (Decimal.ofDigits (Decimal.takeDigits whole).1)), rest)
    else
      match Decimal.magnitude? (whole ++ fraction ++ exponent) with
      | some bits => .ok (.float (Decimal.ofMagnitude negative bits), rest)
      | none => .error .malformed

/-- Drops a word from the front of a text. -/
def dropWord? : List Char → List Char → Option (List Char)
  | [], text => some text
  | expected :: word, character :: text =>
    if expected = character then dropWord? word text else none
  | _ :: _, [] => none

/-- The words that denote data, with what they denote. -/
def words : List (List Char × Json) :=
  [("null".toList, .null), ("true".toList, .boolean true), ("false".toList, .boolean false),
   ("NaN".toList, .float Decimal.notANumber),
   ("Infinity".toList, .float (Decimal.ofMagnitude false Decimal.infinityBits)),
   ("-Infinity".toList, .float (Decimal.ofMagnitude true Decimal.infinityBits))]

/-- The word or number at the front of a text. -/
def readScalar (text : List Char) : Except ReadFailure (Json × List Char) :=
  match words.findSome? fun (word, value) => (dropWord? word text).map (value, ·) with
  | some result => .ok result
  | none =>
    match text with
    | '-' :: rest => readNumber true rest
    | _ => readNumber false text

mutual

/-- The data at the front of a text; the fuel bounds the depth and length of what is read. -/
def readValue : Nat → List Char → Except ReadFailure (Json × List Char)
  | 0, _ => .error .malformed
  | fuel + 1, text =>
    match text with
    | '"' :: rest => do
      let (characters, rest) ← readString fuel rest
      return (.string (String.ofList characters), rest)
    | '[' :: rest =>
      match skipSpace rest with
      | ']' :: rest => .ok (.array [], rest)
      | rest => do
        let (items, rest) ← readItems fuel rest
        return (.array items, rest)
    | '\x7b' :: rest =>
      match skipSpace rest with
      | '\x7d' :: rest => .ok (.object [], rest)
      | rest => do
        let (entries, rest) ← readEntries fuel [] rest
        return (.object entries, rest)
    | _ => readScalar text

/-- The items of an array up to its closing bracket. -/
def readItems : Nat → List Char → Except ReadFailure (List Json × List Char)
  | 0, _ => .error .malformed
  | fuel + 1, text => do
    let (item, rest) ← readValue fuel text
    match skipSpace rest with
    | ',' :: rest => do
      let (items, rest) ← readItems fuel (skipSpace rest)
      return (item :: items, rest)
    | ']' :: rest => .ok ([item], rest)
    | _ => .error .malformed

/-- The entries of an object up to its closing brace, after those read before. -/
def readEntries : Nat → List (String × Json) → List Char →
    Except ReadFailure (List (String × Json) × List Char)
  | 0, _, _ => .error .malformed
  | fuel + 1, entries, text =>
    match text with
    | '"' :: rest => do
      let (key, rest) ← readString fuel rest
      match skipSpace rest with
      | ':' :: rest => do
        let (value, rest) ← readValue fuel (skipSpace rest)
        let entries := insert (String.ofList key) value entries
        match skipSpace rest with
        | ',' :: rest => readEntries fuel entries (skipSpace rest)
        | '\x7d' :: rest => .ok (entries, rest)
        | _ => .error .malformed
      | _ => .error .malformed
    | _ => .error .malformed

end

/-- The data of a text; nothing but space may follow it. -/
def read (source : String) : Except ReadFailure Json := do
  let text := source.toList
  let (json, rest) ← readValue (text.length + 1) (skipSpace text)
  if (skipSpace rest).isEmpty then return json else .error .malformed

end Scriptlet.Json
